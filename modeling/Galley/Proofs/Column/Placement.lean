import Mathlib.Data.List.Perm.Basic
import Mathlib.Data.List.TakeWhile
import Galley.Column
import Galley.Proofs.Line.Group

/-!
This module contains how lines are distributed over columns: the lines that are placed are those
that came in, cut at the gaps, and every column holds the placed ones of its own band.
-/

namespace Galley

section Classes

variable {β : Type} (key : β → Nat)

theorem filter_lt_succ_perm (n : Nat) (l : List β)
    : ((l.filter fun a => decide (key a < n)) ++ l.filter fun a => key a == n).Perm
        (l.filter fun a => decide (key a < n + 1)) := by
  have h := List.filter_append_perm (fun a => decide (key a < n))
    (l.filter fun a => decide (key a < n + 1))
  rw [List.filter_filter, List.filter_filter] at h
  have hlow : ∀ a ∈ l, (decide (key a < n) && decide (key a < n + 1)) = decide (key a < n) := by
    intro a _
    rw [Bool.eq_iff_iff]
    simp
    omega
  have hhigh : ∀ a ∈ l, (!decide (key a < n) && decide (key a < n + 1)) = (key a == n) := by
    intro a _
    rw [Bool.eq_iff_iff]
    simp
    omega
  rw [List.filter_congr hlow, List.filter_congr hhigh] at h
  exact h

theorem flatMap_filter_perm_filter (n : Nat) (l : List β)
    : ((List.range n).flatMap fun k => l.filter fun a => key a == k).Perm
        (l.filter fun a => decide (key a < n)) := by
  induction n with
  | zero => simp
  | succ n ih =>
    rw [List.range_succ, List.flatMap_append, List.flatMap_singleton]
    exact (ih.append_right _).trans (filter_lt_succ_perm key n l)

variable {key}

theorem flatMap_filter_perm {n : Nat} {l : List β} (h : ∀ a ∈ l, key a < n)
    : ((List.range n).flatMap fun k => l.filter fun a => key a == k).Perm l := by
  have hall : (l.filter fun a => decide (key a < n)) = l := by
    rw [List.filter_eq_self]
    exact fun a ha => decide_eq_true (h a ha)
  have hperm := flatMap_filter_perm_filter key n l
  rw [hall] at hperm
  exact hperm

theorem filter_filterMap_range {f : Nat → Option β} (h : ∀ i a, f i = some a → key a = i)
    (n k : Nat)
    : ((List.range n).filterMap f).filter (fun a => key a == k) =
        if k < n then (f k).toList else [] := by
  induction n with
  | zero => rfl
  | succ n ih =>
    have hlast : [n].filterMap f = (f n).toList := by
      rw [List.filterMap_eq_flatMap_toList, List.flatMap_singleton]
    have hkeep : (f n).toList.filter (fun a => key a == k) =
        if k = n then (f k).toList else [] := by
      cases hf : f n with
      | none =>
        by_cases hk : k = n
        . rw [if_pos hk, hk, hf]
          rfl
        . rw [if_neg hk]
          rfl
      | some a =>
        have hkey := h n a hf
        by_cases hk : k = n
        . rw [if_pos hk, hk, hf]
          simp [hkey]
        . rw [if_neg hk]
          simp [hkey]
          omega
    rw [List.range_succ, List.filterMap_append, List.filter_append, ih, hlast, hkeep]
    by_cases hlt : k < n
    . rw [if_pos hlt, if_neg (by omega), if_pos (by omega), List.append_nil]
    . by_cases hk : k = n
      . rw [if_neg hlt, if_pos hk, if_pos (by omega), List.nil_append]
      . rw [if_neg hlt, if_neg hk, if_neg (by omega), List.nil_append]

end Classes

variable {α : Type} [Scalar α]

namespace ColumnLayout

omit [Scalar α] in
theorem map_fst_bands (boundaries : List α)
    : (bands boundaries).map Prod.fst = boundaries.dropLast := by
  induction boundaries with
  | nil => rfl
  | cons a rest ih =>
    cases rest with
    | nil => rfl
    | cons b rest =>
      rw [bands, List.map_cons, ih]
      rfl

omit [Scalar α] in
theorem map_snd_bands (boundaries : List α)
    : (bands boundaries).map Prod.snd = boundaries.tail := by
  induction boundaries with
  | nil => rfl
  | cons a rest ih =>
    cases rest with
    | nil => rfl
    | cons b rest =>
      rw [bands, List.map_cons, ih]
      rfl

theorem bandOf_lt (gaps : List (Gap α)) (x : α) : bandOf gaps x < gaps.length + 1 := by
  have h :=
    (List.takeWhile_sublist (fun b => decide (b ≤ x)) (l := gaps.map Gap.midpoint)).length_le
  rw [List.length_map] at h
  unfold bandOf
  omega

/-- What a line gives to the column of a band. -/
def share (gaps : List (Gap α)) (band : Nat) (l : Line α) (whole : Bool) : Option (Line α) :=
  if whole then if bandOf gaps l.box.centerX = band then some l else none
  else Line.ofWords? (l.words.filter fun w => bandOf gaps w.box.centerX == band) l.base l.direction

theorem flatMap_words_toList (words : List (Word α)) (base : α) (direction : Direction)
    : (Line.ofWords? words base direction).toList.flatMap Line.words = words := by
  cases h : Line.ofWords? words base direction with
  | none =>
    cases words with
    | nil => rfl
    | cons w rest => contradiction
  | some l => simp [(Line.words_of_ofWords? h).1]

theorem flatMap_words_pieces_perm (gaps : List (Gap α)) (l : Line α)
    : ((pieces gaps l).flatMap Line.words).Perm l.words := by
  unfold pieces
  rw [List.filterMap_eq_flatMap_toList, List.flatMap_assoc]
  simp only [flatMap_words_toList]
  exact flatMap_filter_perm fun w _ => bandOf_lt gaps w.box.centerX

theorem flatMap_words_placed_perm (gaps : List (Gap α)) {lines : List (Line α)}
    {spanning : List Bool} (h : spanning.length = lines.length)
    : ((placed gaps lines spanning).flatMap Line.words).Perm (lines.flatMap Line.words) := by
  have hlines : (lines.zip spanning).map Prod.fst = lines := by
    rw [List.map_fst_zip]
    omega
  have hzip := List.flatMap_map Prod.fst Line.words (lines.zip spanning)
  rw [hlines] at hzip
  unfold placed
  rw [hzip, List.flatMap_assoc]
  apply List.Perm.flatMap_left
  rintro ⟨l, whole⟩ _
  cases whole with
  | true => simp
  | false => exact flatMap_words_pieces_perm gaps l

theorem length_spanning (options : ColumnOptions α) (lines : List (Line α))
    : (options.spanning lines).length = lines.length := by
  unfold ColumnOptions.spanning
  dsimp only
  split <;> rw [List.length_map]

theorem length_keepBest_le (n : Nat) (gaps : List (Gap α)) : (Gap.keepBest n gaps).length ≤ n := by
  unfold Gap.keepBest
  split
  . assumption
  . rw [List.length_mergeSort, List.length_take]
    omega

section Detect

variable (options : ColumnOptions α) (lines : List (Line α)) (pageWidth : α)

theorem length_gaps_detect
    : (detect options lines pageWidth).gaps.length + 1 ≤ max 1 options.maxColumns := by
  have h : (detect options lines pageWidth).gaps.length ≤ options.maxColumns - 1 := by
    apply length_keepBest_le
  omega

theorem getElem?_columns_detect (k : Nat)
    : (detect options lines pageWidth).columns[k]? =
        ((bands (boundaries (detect options lines pageWidth).gaps 0.0 pageWidth))[k]?).map
          fun band => ⟨band.1, band.2,
            (placed (detect options lines pageWidth).gaps lines (options.spanning lines)).filter
              fun l => bandOf (detect options lines pageWidth).gaps l.box.centerX == k⟩ := by
  unfold detect
  dsimp only
  rw [List.getElem?_mapIdx]

theorem xMin_columns_detect
    : (detect options lines pageWidth).columns.map Column.xMin =
        (boundaries (detect options lines pageWidth).gaps 0.0 pageWidth).dropLast := by
  rw [← map_fst_bands]
  apply List.ext_getElem?
  intro k
  rw [List.getElem?_map, List.getElem?_map, getElem?_columns_detect, Option.map_map]
  rfl

theorem xMax_columns_detect
    : (detect options lines pageWidth).columns.map Column.xMax =
        (boundaries (detect options lines pageWidth).gaps 0.0 pageWidth).tail := by
  rw [← map_snd_bands]
  apply List.ext_getElem?
  intro k
  rw [List.getElem?_map, List.getElem?_map, getElem?_columns_detect, Option.map_map]
  rfl

theorem length_columns_detect
    : (detect options lines pageWidth).columns.length =
        (detect options lines pageWidth).gaps.length + 1 := by
  have h := congrArg List.length (xMax_columns_detect options lines pageWidth)
  rw [List.length_map] at h
  rw [h]
  simp [boundaries]

theorem lines_columns_detect
    : (detect options lines pageWidth).columns.map Column.lines =
        (List.range ((detect options lines pageWidth).gaps.length + 1)).map fun k =>
          (placed (detect options lines pageWidth).gaps lines (options.spanning lines)).filter
            fun l => bandOf (detect options lines pageWidth).gaps l.box.centerX == k := by
  have hlength := length_columns_detect options lines pageWidth
  apply List.ext_getElem?
  intro k
  by_cases hk : k < (detect options lines pageWidth).gaps.length + 1
  . have hcolumn := getElem?_columns_detect options lines pageWidth k
    rw [List.getElem?_eq_getElem (by omega)] at hcolumn
    obtain ⟨band, _, hband⟩ := Option.map_eq_some_iff.mp hcolumn.symm
    rw [List.getElem?_map, List.getElem?_eq_getElem (by omega), ← hband, List.getElem?_map,
      List.getElem?_range hk]
    rfl
  . rw [List.getElem?_eq_none (by rw [List.length_map]; omega),
      List.getElem?_eq_none (by rw [List.length_map, List.length_range]; omega)]

theorem flatMap_words_detect_perm
    : ((detect options lines pageWidth).columns.flatMap fun column =>
        column.lines.flatMap Line.words).Perm (lines.flatMap Line.words) := by
  have hplaced := flatMap_words_placed_perm (detect options lines pageWidth).gaps
    (length_spanning options lines)
  apply List.Perm.trans _ hplaced
  have hcolumns := List.flatMap_map Column.lines (List.flatMap Line.words)
    (detect options lines pageWidth).columns
  rw [← hcolumns, lines_columns_detect, List.flatMap_map, ← List.flatMap_assoc]
  apply List.Perm.flatMap_right
  apply flatMap_filter_perm
  exact fun l _ => bandOf_lt _ l.box.centerX

/-- Whether the pieces of a line go to the column that their words go to. -/
def Settles (gaps : List (Gap α)) (l : Line α) : Prop :=
  ∀ band piece, share gaps band l false = some piece → bandOf gaps piece.box.centerX = band

theorem filter_pieces {gaps : List (Gap α)} {l : Line α} (h : Settles gaps l) {k : Nat}
    (hk : k < gaps.length + 1)
    : (pieces gaps l).filter (fun piece => bandOf gaps piece.box.centerX == k) =
        (share gaps k l false).toList := by
  have hfilter := filter_filterMap_range h (gaps.length + 1) k
  rw [if_pos hk] at hfilter
  exact hfilter

theorem lines_of_getElem?_columns
    (h : ∀ p ∈ lines.zip (options.spanning lines), p.2 = false →
      Settles (detect options lines pageWidth).gaps p.1)
    {k : Nat} {column : Column α}
    (hcolumn : (detect options lines pageWidth).columns[k]? = some column)
    : column.lines =
        (lines.zip (options.spanning lines)).filterMap fun p =>
          share (detect options lines pageWidth).gaps k p.1 p.2 := by
  have hk := (List.getElem?_eq_some_iff.mp hcolumn).1
  rw [length_columns_detect] at hk
  rw [getElem?_columns_detect] at hcolumn
  obtain ⟨band, _, hband⟩ := Option.map_eq_some_iff.mp hcolumn
  rw [← hband]
  unfold placed
  rw [List.filter_flatMap, List.filterMap_eq_flatMap_toList]
  apply List.flatMap_congr
  rintro ⟨l, whole⟩ hp
  cases whole with
  | true =>
    by_cases hcenter : bandOf (detect options lines pageWidth).gaps l.box.centerX = k
    . simp [share, hcenter]
    . simp [share, hcenter]
  | false => exact filter_pieces (h (l, false) hp rfl) hk

end Detect

end ColumnLayout

end Galley
