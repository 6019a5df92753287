import Galley.Proofs.Binary64.Halving
import Galley.Proofs.Column.Placement
import Galley.Proofs.Line.Baseline

/-!
This module contains the centers of words and of lines: the center of a line lies between those of
its words, so words that stand in one band make up a line that stands in the same band.
-/

namespace Galley

open Binary64

namespace Box

/-- Whether the edges on both sides are finite. -/
structure FiniteSides (b : Box Float) : Prop where
  x0 : b.x0.isFinite = true
  x1 : b.x1.isFinite = true

theorem isNumber_centerX {b : Box Float} (h : b.FiniteSides) : IsNumber b.centerX :=
  isNumber_half (isNumber_add h.x0 h.x1)

theorem rank_centerX_le {b c : Box Float} (hb : b.FiniteSides) (hc : c.FiniteSides)
    (h0 : rank b.x0 ≤ rank c.x0) (h1 : rank b.x1 ≤ rank c.x1)
    : rank b.centerX ≤ rank c.centerX := by
  apply rank_half_le_half
  . exact isNumber_add hb.x0 hb.x1
  . exact isNumber_add hc.x0 hc.x1
  . exact rank_add_le_add hb.x0 hb.x1 hc.x0 hc.x1 h0 h1

/-- A box whose sides are the outermost ones of these boxes. -/
structure Spans (b : Box Float) (boxes : List (Box Float)) : Prop where
  sides : b.FiniteSides
  exists_x0 : ∃ c ∈ boxes, c.x0 = b.x0
  exists_x1 : ∃ c ∈ boxes, c.x1 = b.x1
  x0_le : ∀ c ∈ boxes, rank b.x0 ≤ rank c.x0
  le_x1 : ∀ c ∈ boxes, rank c.x1 ≤ rank b.x1

theorem Spans.singleton {b : Box Float} (h : b.FiniteSides) : b.Spans [b] where
  sides := h
  exists_x0 := ⟨b, by simp, rfl⟩
  exists_x1 := ⟨b, by simp, rfl⟩
  x0_le := by simp
  le_x1 := by simp

theorem Spans.union {b c : Box Float} {boxes : List (Box Float)} (h : b.Spans boxes)
    (hc : c.FiniteSides) : (b.union c).Spans (boxes ++ [c]) := by
  have hleast := least_cases (isNumber_of_isFinite h.sides.x0) (isNumber_of_isFinite hc.x0)
  have hgreatest := greatest_cases (isNumber_of_isFinite h.sides.x1) (isNumber_of_isFinite hc.x1)
  have hx0 : (b.union c).x0 = Scalar.least b.x0 c.x0 := rfl
  have hx1 : (b.union c).x1 = Scalar.greatest b.x1 c.x1 := rfl
  have hleft : (b.union c).x0.isFinite = true ∧ (∃ d ∈ boxes ++ [c], d.x0 = (b.union c).x0) ∧
      ∀ d ∈ boxes ++ [c], rank (b.union c).x0 ≤ rank d.x0 := by
    rw [hx0, List.forall_mem_append, List.forall_mem_singleton]
    rcases hleast with ⟨hlt, hcase⟩ | ⟨hle, hcase⟩
    . rw [hcase]
      refine ⟨hc.x0, ⟨c, by simp, rfl⟩, ?_, Int.le_refl _⟩
      intro d hd
      have hbd := h.x0_le d hd
      omega
    . rw [hcase]
      obtain ⟨d, hd, hside⟩ := h.exists_x0
      exact ⟨h.sides.x0, ⟨d, by simp [hd], hside⟩, h.x0_le, hle⟩
  have hright : (b.union c).x1.isFinite = true ∧ (∃ d ∈ boxes ++ [c], d.x1 = (b.union c).x1) ∧
      ∀ d ∈ boxes ++ [c], rank d.x1 ≤ rank (b.union c).x1 := by
    rw [hx1, List.forall_mem_append, List.forall_mem_singleton]
    rcases hgreatest with ⟨hlt, hcase⟩ | ⟨hle, hcase⟩
    . rw [hcase]
      refine ⟨hc.x1, ⟨c, by simp, rfl⟩, ?_, Int.le_refl _⟩
      intro d hd
      have hdb := h.le_x1 d hd
      omega
    . rw [hcase]
      obtain ⟨d, hd, hside⟩ := h.exists_x1
      exact ⟨h.sides.x1, ⟨d, by simp [hd], hside⟩, h.le_x1, hle⟩
  exact ⟨⟨hleft.1, hright.1⟩, hleft.2.1, hright.2.1, hleft.2.2, hright.2.2⟩

theorem Spans.foldl_union {b : Box Float} {boxes : List (Box Float)} (h : b.Spans boxes)
    {more : List (Word Float)} (hmore : ∀ w ∈ more, w.box.FiniteSides)
    : (more.foldl (fun box w => box.union w.box) b).Spans (boxes ++ more.map Word.box) := by
  induction more generalizing b boxes with
  | nil => simpa using h
  | cons w rest ih =>
    rw [List.foldl_cons, List.map_cons, List.append_cons]
    apply ih
    . exact h.union (hmore w (by simp))
    . exact fun v hv => hmore v (by simp [hv])

theorem Spans.centerX_between {b : Box Float} {boxes : List (Box Float)} (h : b.Spans boxes)
    (hboxes : ∀ c ∈ boxes, c.FiniteSides)
    : (∃ c ∈ boxes, rank c.centerX ≤ rank b.centerX) ∧
        ∃ c ∈ boxes, rank b.centerX ≤ rank c.centerX := by
  obtain ⟨c, hc, hx0⟩ := h.exists_x0
  obtain ⟨d, hd, hx1⟩ := h.exists_x1
  constructor
  . refine ⟨c, hc, rank_centerX_le (hboxes c hc) h.sides ?_ (h.le_x1 c hc)⟩
    exact Int.le_of_eq (by rw [hx0])
  . refine ⟨d, hd, rank_centerX_le h.sides (hboxes d hd) (h.x0_le d hd) ?_⟩
    exact Int.le_of_eq (by rw [hx1])

end Box

namespace Line

theorem box_spans {words : List (Word Float)} {base : Float} {direction : Direction}
    {l : Line Float} (hwords : ∀ w ∈ words, w.box.FiniteSides)
    (h : ofWords? words base direction = some l) : l.box.Spans (words.map Word.box) := by
  cases words with
  | nil => contradiction
  | cons first rest =>
    injection h with h
    rw [← h]
    apply (Box.Spans.singleton (hwords first (by simp))).foldl_union
    exact fun w hw => hwords w (by simp [hw])

end Line

namespace ColumnLayout

theorem length_takeWhile_le {β : Type} {p q : β → Bool} (l : List β)
    (h : ∀ a ∈ l, p a = true → q a = true) : (l.takeWhile p).length ≤ (l.takeWhile q).length := by
  induction l with
  | nil => exact Nat.le_refl 0
  | cons a rest ih =>
    cases hp : p a with
    | false =>
      rw [List.takeWhile_cons_of_neg (by simp [hp])]
      exact Nat.zero_le _
    | true =>
      rw [List.takeWhile_cons_of_pos hp, List.takeWhile_cons_of_pos (h a (by simp) hp),
        List.length_cons, List.length_cons]
      have hrest := ih fun b hb => h b (by simp [hb])
      omega

theorem bandOf_le_bandOf (gaps : List (Gap Float)) {x y : Float} (hy : IsNumber y)
    (h : rank x ≤ rank y) : bandOf gaps x ≤ bandOf gaps y := by
  apply length_takeWhile_le
  intro b _ hb
  rw [decide_eq_true_iff, le_iff] at hb ⊢
  exact ⟨hb.1, hy, Int.le_trans hb.2.2 h⟩

theorem settles_of_finite (gaps : List (Gap Float)) {l : Line Float}
    (h : ∀ w ∈ l.words, w.box.FiniteSides) : Settles gaps l := by
  intro band piece hpiece
  have hmem : ∀ w ∈ l.words.filter (fun w => bandOf gaps w.box.centerX == band),
      w ∈ l.words ∧ bandOf gaps w.box.centerX = band := by
    intro w hw
    rw [List.mem_filter, beq_iff_eq] at hw
    exact hw
  have hspans := Line.box_spans (fun w hw => h w (hmem w hw).1) hpiece
  have hboxes : ∀ c ∈ (l.words.filter fun w => bandOf gaps w.box.centerX == band).map Word.box,
      c.FiniteSides ∧ bandOf gaps c.centerX = band := by
    intro c hc
    obtain ⟨w, hw, rfl⟩ := List.mem_map.mp hc
    exact ⟨h w (hmem w hw).1, (hmem w hw).2⟩
  obtain ⟨⟨c, hc, hlow⟩, ⟨d, hd, hhigh⟩⟩ := hspans.centerX_between fun c hc => (hboxes c hc).1
  have hle := bandOf_le_bandOf gaps (Box.isNumber_centerX hspans.sides) hlow
  have hge := bandOf_le_bandOf gaps (Box.isNumber_centerX (hboxes d hd).1) hhigh
  rw [(hboxes c hc).2] at hle
  rw [(hboxes d hd).2] at hge
  omega

theorem takeWhile_bounds {β : Type} {p : β → Bool} {l : List β} {i : Nat} {a : β}
    (h : l[i]? = some a)
    : (i < (l.takeWhile p).length → p a = true) ∧
        (i = (l.takeWhile p).length → p a = false) := by
  induction l generalizing i with
  | nil => contradiction
  | cons b rest ih =>
    cases hp : p b with
    | false =>
      rw [List.takeWhile_cons_of_neg (by simp [hp]), List.length_nil]
      refine ⟨fun hlt => absurd hlt (Nat.not_lt_zero i), ?_⟩
      intro hi
      rw [hi, List.getElem?_cons_zero, Option.some_inj] at h
      rw [← h]
      exact hp
    | true =>
      rw [List.takeWhile_cons_of_pos hp, List.length_cons]
      cases i with
      | zero =>
        rw [List.getElem?_cons_zero, Option.some_inj] at h
        rw [← h]
        exact ⟨fun _ => hp, fun hi => absurd hi (Nat.succ_ne_zero _).symm⟩
      | succ i =>
        rw [List.getElem?_cons_succ] at h
        rw [Nat.add_lt_add_iff_right, Nat.add_right_cancel_iff]
        exact ih h

/--
Whether the band of a column holds a position. The outermost bands reach beyond the page on their
sides, and an edge that is no number does not bound.
-/
structure Holds (layout : ColumnLayout Float) (k : Nat) (column : Column Float) (x : Float) :
    Prop where
  left : k = 0 ∨ column.xMin ≤ x
  right : k + 1 = layout.columns.length ∨ x < column.xMax ∨ ¬ IsNumber column.xMax

section Detect

variable {options : ColumnOptions Float} {lines : List (Line Float)} {pageWidth : Float}

theorem map_xMin_detect
    : (detect options lines pageWidth).columns.map Column.xMin =
        0.0 :: (detect options lines pageWidth).gaps.map Gap.midpoint := by
  rw [xMin_columns_detect]
  apply List.dropLast_concat

theorem map_xMax_detect
    : (detect options lines pageWidth).columns.map Column.xMax =
        (detect options lines pageWidth).gaps.map Gap.midpoint ++ [pageWidth] := by
  rw [xMax_columns_detect]
  rfl

theorem holds_of_bandOf {k : Nat} {column : Column Float}
    (hcolumn : (detect options lines pageWidth).columns[k]? = some column) {x : Float}
    (hx : IsNumber x) (hband : bandOf (detect options lines pageWidth).gaps x = k)
    : (detect options lines pageWidth).Holds k column x := by
  have hxMin
      : ((detect options lines pageWidth).columns.map Column.xMin)[k]? = some column.xMin := by
    rw [List.getElem?_map, hcolumn]
    rfl
  have hxMax
      : ((detect options lines pageWidth).columns.map Column.xMax)[k]? = some column.xMax := by
    rw [List.getElem?_map, hcolumn]
    rfl
  have hlength := length_columns_detect options lines pageWidth
  have hle := (List.getElem?_eq_some_iff.mp hcolumn).1
  rw [map_xMin_detect] at hxMin
  rw [map_xMax_detect] at hxMax
  unfold bandOf at hband
  constructor
  . cases k with
    | zero => exact .inl rfl
    | succ j =>
      right
      rw [List.getElem?_cons_succ] at hxMin
      have hbound := (takeWhile_bounds hxMin).1 (by rw [hband]; exact Nat.lt_succ_self j)
      exact of_decide_eq_true hbound
  . by_cases hlast : k + 1 = (detect options lines pageWidth).columns.length
    . exact .inl hlast
    . right
      rw [List.getElem?_append_left (by rw [List.length_map]; omega)] at hxMax
      have hbound := (takeWhile_bounds hxMax).2 hband.symm
      rw [decide_eq_false_iff_not] at hbound
      by_cases hnumber : IsNumber column.xMax
      . left
        rw [le_iff_rank_le hnumber hx] at hbound
        rw [lt_iff_rank_lt hx hnumber]
        omega
      . exact .inr hnumber

end Detect

theorem detect_distributes (options : ColumnOptions Float) (lines : List (Line Float))
    (pageWidth : Float) (hfinite : ∀ l ∈ lines, ∀ w ∈ l.words, w.box.FiniteSides)
    : let layout := detect options lines pageWidth
      let flagged := lines.zip (options.spanning lines)
      layout.columns.length = layout.gaps.length + 1 ∧
        layout.gaps.length + 1 ≤ max 1 options.maxColumns ∧
        layout.columns.map Column.xMin = 0.0 :: layout.gaps.map Gap.midpoint ∧
        layout.columns.map Column.xMax = layout.gaps.map Gap.midpoint ++ [pageWidth] ∧
        (layout.columns.flatMap fun column => column.lines.flatMap Line.words).Perm
          (lines.flatMap Line.words) ∧
        ∀ k column, layout.columns[k]? = some column →
          column.lines = flagged.filterMap (fun p => share layout.gaps k p.1 p.2) ∧
            (∀ p ∈ flagged, p.2 = true → IsNumber p.1.box.centerX →
              bandOf layout.gaps p.1.box.centerX = k →
                layout.Holds k column p.1.box.centerX) ∧
            ∀ p ∈ flagged, p.2 = false → ∀ w ∈ p.1.words,
              bandOf layout.gaps w.box.centerX = k → layout.Holds k column w.box.centerX := by
  intro layout flagged
  have hflagged : ∀ p ∈ flagged, ∀ w ∈ p.1.words, w.box.FiniteSides := by
    intro p hp
    exact hfinite p.1 (List.of_mem_zip hp).1
  refine ⟨length_columns_detect options lines pageWidth, length_gaps_detect options lines pageWidth,
    map_xMin_detect, map_xMax_detect, flatMap_words_detect_perm options lines pageWidth, ?_⟩
  intro k column hcolumn
  refine ⟨?_, ?_, ?_⟩
  . apply lines_of_getElem?_columns options lines pageWidth _ hcolumn
    exact fun p hp _ => settles_of_finite _ (hflagged p hp)
  . exact fun p _ _ hnumber hband => holds_of_bandOf hcolumn hnumber hband
  . intro p hp _ w hw hband
    exact holds_of_bandOf hcolumn (Box.isNumber_centerX (hflagged p hp w hw)) hband

/-- A line of two words, one to the left of the page and one on it. -/
def farApart : Line Float :=
  let v : Word Float :=
    ⟨"a", [⟨'a', 97, 0, -20.0, 50.0, 10.0, 0.0, 12.0, .right, .horizontal, "F1"⟩],
      ⟨-20.0, 47.0, -10.0, 59.0⟩, 50.0, 12.0, .right, .horizontal, [-20.0, -10.0], 0⟩
  let w : Word Float :=
    ⟨"b", [⟨'b', 98, 1, 10.0, 50.0, 10.0, 0.0, 12.0, .right, .horizontal, "F1"⟩],
      ⟨10.0, 47.0, 20.0, 59.0⟩, 50.0, 12.0, .right, .horizontal, [10.0, 20.0], 1⟩
  ⟨[v, w], 50.0, .right, 12.0, ⟨-20.0, 47.0, 20.0, 59.0⟩⟩

theorem finiteSides_farApart : ∀ l ∈ [farApart], ∀ w ∈ l.words, w.box.FiniteSides := by
  have hsides : ∀ l ∈ [farApart], ∀ w ∈ l.words,
      w.box.x0.isFinite = true ∧ w.box.x1.isFinite = true := by
    decide +kernel
  exact fun l hl w hw => ⟨(hsides l hl w hw).1, (hsides l hl w hw).2⟩

theorem detect_distributes_farApart
    : let layout := detect ColumnOptions.default [farApart] 600.0
      let flagged := [farApart].zip (ColumnOptions.default.spanning [farApart])
      layout.columns.length = layout.gaps.length + 1 ∧
        layout.gaps.length + 1 ≤ max 1 (ColumnOptions.default : ColumnOptions Float).maxColumns ∧
        layout.columns.map Column.xMin = 0.0 :: layout.gaps.map Gap.midpoint ∧
        layout.columns.map Column.xMax = layout.gaps.map Gap.midpoint ++ [600.0] ∧
        (layout.columns.flatMap fun column => column.lines.flatMap Line.words).Perm
          ([farApart].flatMap Line.words) ∧
        ∀ k column, layout.columns[k]? = some column →
          column.lines = flagged.filterMap (fun p => share layout.gaps k p.1 p.2) ∧
            (∀ p ∈ flagged, p.2 = true → IsNumber p.1.box.centerX →
              bandOf layout.gaps p.1.box.centerX = k →
                layout.Holds k column p.1.box.centerX) ∧
            ∀ p ∈ flagged, p.2 = false → ∀ w ∈ p.1.words,
              bandOf layout.gaps w.box.centerX = k → layout.Holds k column w.box.centerX :=
  detect_distributes .default [farApart] 600.0 finiteSides_farApart

/-- Columns to be told apart by a quantum that is too small to count with. -/
def tinyQuantum : ColumnOptions Float := ⟨20.0, 4, 1e-310⟩

theorem exists_center_outside_band
    : (∀ w ∈ farApart.words, w.box.x0.isFinite = true ∧ w.box.x1.isFinite = true) ∧
        tinyQuantum.spanning [farApart] = [false] ∧
        ∃ column ∈ (detect tinyQuantum [farApart] 600.0).columns, ∃ l ∈ column.lines,
          ∃ w ∈ l.words, 0.0 ≤ w.box.centerX ∧ w.box.centerX < 600.0 ∧
            ¬ (column.xMin ≤ w.box.centerX ∧ w.box.centerX < column.xMax) := by
  have hspans : (farApart.words.map tinyQuantum.span).mergeSort ColumnOptions.spanBefore =
      farApart.words.map tinyQuantum.span :=
    List.mergeSort_of_pairwise (by decide +kernel)
  have hgaps : tinyQuantum.gapsExcluding [farApart] [false] =
      Gap.keepBest 3 (Gap.join 20.0 ((Gap.ofRuns (ColumnOptions.runs
        (farApart.words.map tinyQuantum.span))).filter fun g => decide (20.0 ≤ g.width))) := by
    rw [← hspans]
    rfl
  have hspanning : tinyQuantum.spanning [farApart] = [false] := by
    decide +kernel
  refine ⟨by decide +kernel, hspanning, ?_⟩
  unfold detect
  dsimp only
  rw [hspanning, hgaps]
  decide +kernel

end ColumnLayout

end Galley
