import Galley.Proofs.Rendering.Cell
import Galley.Proofs.Turning.Line

/-!
This module contains the text of turned lines, which is that of the lines: gaps between words, the
steps from line to line and the places on a grid are all measured along and across the direction.
-/

namespace Galley

open Binary64

theorem Word.Turned.averageWidth {w w' : Word Float} (h : w.Turned w')
    : w'.averageWidth = w.averageWidth := by
  have hwidth : rank (w'.stop - w'.start) = rank (w.stop - w.start) :=
    rank_sub_congr h.stop (congrArg rank h.start)
  have hlength : w'.length = w.length := by
    unfold Word.length
    rw [h.glyphs, List.length_map]
  unfold Word.averageWidth
  dsimp only
  rw [h.size, hlength, h.glyphs]
  simp only [lt_congr (x := 0.0) rfl hwidth, ne_eq, List.map_eq_nil_iff]
  split
  next hpositive =>
    have hrank := ((lt_iff _ _).mp hpositive.1).2.2
    rw [rank_zero] at hrank
    rw [eq_of_rank_eq hwidth (by omega)]
  next => rfl

theorem SpacingThresholds.separates_turned (spacing : SpacingThresholds Float)
    {v v' w w' : Word Float} (hv : v.Turned v') (hw : w.Turned w')
    : spacing.separates v' w' = spacing.separates v w := by
  have hgap : rank (w.start - v'.stop) = rank (w.start - v.stop) := rank_sub_congr rfl hv.stop
  have hratio := rank_div_congr hgap v.averageWidth
  have hnan := Bool.eq_iff_iff.mpr (isNaN_congr hratio)
  unfold separates Word.lastChar? Word.firstChar?
  dsimp only
  rw [hw.start, hv.averageWidth, hv.text, hw.text, hnan]
  simp only [lt_congr hratio (y := spacing.mergeBelow) rfl,
    lt_congr (x := spacing.splitAbove) rfl hratio]

namespace Rendering

section Plain

theorem wordsAfter_turned (spacing : SpacingThresholds Float) {v v' : Word Float}
    (hv : v.Turned v') {words words' : List (Word Float)}
    (h : List.Forall₂ Word.Turned words words')
    : wordsAfter spacing v' words' = wordsAfter spacing v words := by
  induction h generalizing v v' with
  | nil => rfl
  | cons hw _ ih =>
    unfold wordsAfter
    rw [spacing.separates_turned hv hw, hw.text, ih hw]

theorem lineText_turned (spacing : SpacingThresholds Float) {l l' : Line Float}
    (h : l.Turned l') : lineText spacing l' = lineText spacing l := by
  have hwords := h.words
  unfold lineText
  generalize l.words = words at hwords
  generalize l'.words = words' at hwords
  cases hwords with
  | nil => rfl
  | cons hw hrest =>
    dsimp only
    rw [hw.text, wordsAfter_turned spacing hw hrest]

variable {r : Direction} (settings : Settings Float)

theorem startsParagraph_turned {k k' l l' : Line Float} (hk : Line.TurnedFrom r k k')
    (hl : Line.TurnedFrom r l l')
    : startsParagraph settings k' l' = startsParagraph settings k l := by
  have hstep : rank (Scalar.abs (l'.base - k'.base)) = rank (Scalar.abs (l.base - k.base)) := by
    rw [hl.2.base, hk.2.base, hl.1, hk.1, Direction.rank_abs_turnBase_sub]
  unfold startsParagraph
  rw [hk.2.size, hl.2.size]
  simp only [lt_congr (x := settings.paragraphGap * Scalar.greatest k.size l.size) rfl hstep]

theorem linesAfter_turned {k k' : Line Float} (hk : Line.TurnedFrom r k k')
    {lines lines' : List (Line Float)} (h : List.Forall₂ (Line.TurnedFrom r) lines lines')
    : linesAfter settings k' lines' = linesAfter settings k lines := by
  induction h generalizing k k' with
  | nil => rfl
  | cons hl _ ih =>
    unfold linesAfter
    rw [startsParagraph_turned settings hk hl, lineText_turned settings.spacing hl.2, ih hl]

theorem linesText_turned {lines lines' : List (Line Float)}
    (h : List.Forall₂ (Line.TurnedFrom r) lines lines')
    : linesText settings lines' = linesText settings lines := by
  cases h with
  | nil => rfl
  | cons hl hrest =>
    unfold linesText
    dsimp only
    rw [lineText_turned settings.spacing hl.2, linesAfter_turned settings hl hrest]

end Plain

section Grid

variable (r : Direction) (page : Box Float)

theorem origin_turned : origin (r.turned 1) page.turn = origin r page := by
  cases r with
  | right => rfl
  | up => exact neg_neg page.y0
  | left => rfl
  | down => rfl

theorem depth_turned (base : Float)
    : depth (r.turned 1) page.turn (r.turnBase base) = depth r page base := by
  cases r with
  | right => exact neg_sub_neg base page.y1
  | up => rfl
  | left => exact neg_sub_neg page.y0 base
  | down => rfl

theorem target_turned (cell : Cell Float) {w w' : Word Float} (h : w.Turned w')
    : target page.turn cell (r.turned 1) w' = target page cell r w := by
  unfold target
  rw [h.start, origin_turned]

variable (settings : Settings Float)

theorem spacesBefore_turned (target cursor : Nat) {previous previous' : Option (Word Float)}
    (hprevious : Option.Rel Word.Turned previous previous') {w w' : Word Float} (h : w.Turned w')
    : spacesBefore settings target cursor previous' w' =
        spacesBefore settings target cursor previous w := by
  cases hprevious with
  | none => rfl
  | some hv =>
    unfold spacesBefore
    dsimp only
    rw [settings.spacing.separates_turned hv h]

theorem rowFrom_turned {target target' : Word Float → Nat}
    (htarget : ∀ {w w'}, w.Turned w' → target' w' = target w) (cursor : Nat)
    {previous previous' : Option (Word Float)}
    (hprevious : Option.Rel Word.Turned previous previous') {words words' : List (Word Float)}
    (h : List.Forall₂ Word.Turned words words')
    : rowFrom settings target' cursor previous' words' =
        rowFrom settings target cursor previous words := by
  induction h generalizing cursor previous previous' with
  | nil => rfl
  | cons hw _ ih =>
    unfold rowFrom
    dsimp only
    rw [htarget hw, spacesBefore_turned settings _ cursor hprevious hw, hw.text, ih _ (.some hw)]

variable {r}

theorem row_turned (cell : Cell Float) {l l' : Line Float} (h : Line.TurnedFrom r l l')
    : row settings page.turn cell l' = row settings page cell l := by
  unfold row
  rw [h.2.direction, h.1,
    rowFrom_turned settings (target_turned r page cell) 0 .none h.2.words]

theorem depth_line_turned {l l' : Line Float} (h : Line.TurnedFrom r l l')
    : depth l'.direction page.turn l'.base = depth l.direction page l.base := by
  rw [h.2.direction, h.2.base, depth_turned]

theorem rowsAfter_turned (cell : Cell Float) (above : Float) {lines lines' : List (Line Float)}
    (h : List.Forall₂ (Line.TurnedFrom r) lines lines')
    : rowsAfter settings page.turn cell above lines'
        =
      rowsAfter settings page cell above lines := by
  induction h generalizing above with
  | nil => rfl
  | cons hl _ ih =>
    unfold rowsAfter
    dsimp only
    rw [depth_line_turned page hl, row_turned page settings cell hl, ih]

theorem gridLines_turned (cell : Cell Float) {lines lines' : List (Line Float)}
    (h : List.Forall₂ (Line.TurnedFrom r) lines lines')
    : gridLines settings page.turn cell lines' = gridLines settings page cell lines := by
  have hrows : rows settings page.turn cell lines' = rows settings page cell lines := by
    cases h with
    | nil => rfl
    | cons hl hrest =>
      unfold rows
      dsimp only
      rw [depth_line_turned page hl, row_turned page settings cell hl,
        rowsAfter_turned page settings cell _ hrest]
  unfold gridLines
  rw [hrows]

end Grid

section Cell

/-- A cell of a given width does not depend on the turn. -/
theorem cell_turned {options : GridOptions Float} (hwidth : options.cellWidth.isSome)
    {drawn drawn' : List (Word Float)} (h : List.Forall₂ Word.Turned drawn drawn')
    (bucketHeight : Float)
    : cell options (.ofWords bucketHeight drawn') = cell options (.ofWords bucketHeight drawn) := by
  have hsizes : drawn'.map Word.size = drawn.map Word.size := by
    induction h with
    | nil => rfl
    | cons hw _ ih => rw [List.map_cons, List.map_cons, hw.size, ih]
  exact cell_ofWords hwidth hsizes bucketHeight bucketHeight

end Cell

end Rendering

end Galley
