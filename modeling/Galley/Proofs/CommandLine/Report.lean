import Galley.CommandLine.Report
import Galley.Proofs.Csv

/-!
This module shows when the tables of glyphs, words and matches that are printed with commas are
read back: always, but for texts and names of fonts that hold a bare carriage return.
-/

namespace Galley.Decimal

/-- A number is written with digits, a point and a minus, or as a word. -/
theorem return_notMem_twoPlaces (x : Float) : '\r' ∉ (twoPlaces x).toList := by
  unfold twoPlaces
  split
  next b _ =>
    have hdigits : '\r' ∉ digitChars (ofPlaces 2 b).digits := by
      intro h
      have := Nat.isDigit_of_mem_toDigits (by decide) (by decide) h
      contradiction
    have hplaced : '\r' ∉ placePoint (digitChars (ofPlaces 2 b).digits) 2 := by
      unfold placePoint
      intro h
      simp only [Nat.reduceEqDiff, if_false, List.mem_append, List.mem_cons] at h
      rcases h with h | h | h
      . simpa [hdigits] using List.mem_of_mem_take h
      . contradiction
      . simpa [hdigits] using List.mem_of_mem_drop h
    by_cases hminus : (ofPlaces 2 b).negative <;> simp [hminus, hplaced]
  next =>
    unfold nonFinite
    split
    . decide
    . split <;> decide

end Galley.Decimal

namespace Galley.CommandLine

open Csv

theorem not_isBare_twoPlaces (x : Float) : ¬ IsBare (Decimal.twoPlaces x) := by
  rintro ⟨h, _⟩
  exact Decimal.return_notMem_twoPlaces x h

theorem not_isBare_angle (d : Direction) : ¬ IsBare (angle d) := by
  cases d <;> decide

theorem isBare_singleton_iff (c : Char) : IsBare (String.singleton c) ↔ c = '\r' := by
  unfold IsBare
  constructor
  . rintro ⟨h, _⟩
    have hc : '\r' = c := by simpa using h
    exact hc.symm
  . rintro rfl
    refine ⟨by simp, ?_⟩
    intro c hc
    have hreturn : c = '\r' := by simpa using hc
    subst hreturn
    decide

/-!
The columns that may hold a bare text.
-/

theorem mem_glyph_columns {glyphs : List (Glyph Float)} {row : List String}
    (hrow : row ∈ (glyphTable glyphs).rows) (i : Nat) (text : String) (htext : row[i]? = some text)
    (hbare : IsBare text)
    : i ∈ [0, 7] := by
  rcases List.mem_map.mp hrow with ⟨g, _, rfl⟩
  match i with
  | 0 | 7 => decide
  | 1 | 2 | 3 | 4 | 5 =>
    cases htext
    exact absurd hbare (not_isBare_twoPlaces _)
  | 6 =>
    cases htext
    exact absurd hbare (not_isBare_angle _)
  | i + 8 => cases htext

theorem mem_word_columns {words : List (Word Float)} {row : List String}
    (hrow : row ∈ (wordTable words).rows) (i : Nat) (text : String) (htext : row[i]? = some text)
    (hbare : IsBare text)
    : i ∈ [0] := by
  rcases List.mem_map.mp hrow with ⟨w, _, rfl⟩
  match i with
  | 0 => decide
  | 1 | 2 | 3 | 4 | 5 =>
    cases htext
    exact absurd hbare (not_isBare_twoPlaces _)
  | 6 =>
    cases htext
    exact absurd hbare (not_isBare_angle _)
  | i + 7 => cases htext

theorem mem_match_columns {found : List (SearchMatch Float)} {row : List String}
    (hrow : row ∈ (matchTable found).rows) (i : Nat) (text : String) (htext : row[i]? = some text)
    (hbare : IsBare text)
    : i ∈ [0] := by
  rcases List.mem_map.mp hrow with ⟨m, _, rfl⟩
  match i with
  | 0 => decide
  | 1 | 2 | 3 | 4 =>
    cases htext
    exact absurd hbare (not_isBare_twoPlaces _)
  | i + 5 => cases htext

/-!
What is printed.
-/

theorem readsBack_reportGlyphs (glyphs : List (Glyph Float))
    : ReadsBack (reportGlyphs glyphs .csv)
          ["char", "x", "y", "dx", "dy", "size", "rotation", "font"]
          (fun record g => record[0]? = some g.char.toString ∧ record[7]? = some g.font) glyphs
        ↔
      ∀ g ∈ glyphs, g.char ≠ '\r' ∧ ¬ IsBare g.font := by
  have h := Table.readsBack_commas_iff (t := glyphTable glyphs) (by simp [glyphTable])
    (by simp only [glyphTable]; decide) (by simp [glyphTable])
    fun _ => mem_glyph_columns
  simpa [ReadsBack, reportGlyphs, listing, glyphTable, Agree, isBare_singleton_iff,
    not_isBare_twoPlaces, not_isBare_angle] using h

theorem readsBack_reportWords (words : List (Word Float))
    : ReadsBack (reportWords words .csv) ["text", "x0", "y0", "x1", "y1", "size", "rotation"]
          (fun record w => record[0]? = some w.text) words
        ↔
      ∀ w ∈ words, ¬ IsBare w.text := by
  have h := Table.readsBack_commas_iff (t := wordTable words) (by simp [wordTable])
    (by simp only [wordTable]; decide) (by simp [wordTable])
    fun _ => mem_word_columns
  simpa [ReadsBack, reportWords, listing, wordTable, boxFields, Agree, not_isBare_twoPlaces,
    not_isBare_angle] using h

theorem readsBack_reportMatches (found : List (SearchMatch Float))
    : ReadsBack (reportMatches found .csv) ["text", "x0", "y0", "x1", "y1"]
          (fun record m => record[0]? = some m.text) found
        ↔
      ∀ m ∈ found, ¬ IsBare m.text := by
  have h := Table.readsBack_commas_iff (t := matchTable found) (by simp [matchTable])
    (by simp only [matchTable]; decide) (by simp [matchTable])
    fun _ => mem_match_columns
  simpa [ReadsBack, reportMatches, listing, matchTable, boxFields, Agree,
    not_isBare_twoPlaces] using h

/--
A table that is printed with commas is read back, with the texts and the names of fonts as they
were, if and only if none of these holds a bare carriage return.
-/
theorem tables_read_back (glyphs : List (Glyph Float)) (words : List (Word Float))
    (found : List (SearchMatch Float))
    : (ReadsBack (reportGlyphs glyphs .csv)
          ["char", "x", "y", "dx", "dy", "size", "rotation", "font"]
          (fun record g => record[0]? = some g.char.toString ∧ record[7]? = some g.font) glyphs
        ↔
        ∀ g ∈ glyphs, g.char ≠ '\r' ∧ ¬ IsBare g.font) ∧
      (ReadsBack (reportWords words .csv) ["text", "x0", "y0", "x1", "y1", "size", "rotation"]
          (fun record w => record[0]? = some w.text) words
        ↔
        ∀ w ∈ words, ¬ IsBare w.text) ∧
      (ReadsBack (reportMatches found .csv) ["text", "x0", "y0", "x1", "y1"]
          (fun record m => record[0]? = some m.text) found
        ↔
        ∀ m ∈ found, ¬ IsBare m.text) :=
  ⟨readsBack_reportGlyphs glyphs, readsBack_reportWords words, readsBack_reportMatches found⟩

/-- A glyph that shows a carriage return. -/
def returnGlyph : Glyph Float :=
  { char := '\r', code := 13, index := 0, x := 0, y := 0, dx := 6, dy := 0, size := 12,
    direction := .right, mode := .horizontal, font := "F1" }

theorem not_readsBack_returnGlyph
    : ¬ ReadsBack (reportGlyphs [returnGlyph] .csv)
        ["char", "x", "y", "dx", "dy", "size", "rotation", "font"]
        (fun record g => record[0]? = some g.char.toString ∧ record[7]? = some g.font)
        [returnGlyph] := by
  rw [readsBack_reportGlyphs]
  simp [returnGlyph]

end Galley.CommandLine
