import Galley.Proofs.Search.Touched

/-!
This module contains searches for a text itself: what is found are its occurrences from left to
right, whatever characters it has.
-/

namespace Galley.Search

open Regex

/-- A text always makes a pattern, whose matches are the occurrences of the text. -/
theorem pattern?_literal {text : String} (htext : text ≠ "")
    : ∃ p, pattern? { regex := false, caseSensitive := true } text = some p ∧
        ∀ cs : List Char, p.findAll cs.toArray = occurrences text.toList 0 cs := by
  refine ⟨_, Pattern.parse?_escape false text, fun cs => ?_⟩
  have hpiece := mt String.toList_eq_nil_iff.mp htext
  exact Pattern.findAll_of_reads (Pattern.reads_sequence text.toList) hpiece

variable {α : Type} [Scalar α]

/--
A search for a text itself never fails, and finds the occurrences of the text without those between
words.
-/
theorem search?_literal {text : String} (htext : text ≠ "") (words : List (Word α))
    : ∃ found, search? { regex := false, caseSensitive := true } text words = some found ∧
        Reports words (occurrences text.toList 0 (searched words)) found ∧
          ∀ m ∈ found, m.text = text := by
  obtain ⟨p, hp, hfind⟩ := pattern?_literal htext
  have hreports : Reports words (p.findAll (searched words).toArray)
      (matchesAt words (p.findAll (searched words).toArray)) :=
    reports_matchesAt (Pattern.inOrder_findAll p _)
  rw [hfind] at hreports
  refine ⟨_, search?_eq hp htext words, ?_⟩
  rw [hfind]
  refine ⟨hreports, hreports.forall_mem ?_⟩
  intro span hspan m hnames
  have hextract : (searched words).extract span.1 span.2 = text.toList :=
    extract_of_mem_occurrences (mt String.toList_eq_nil_iff.mp htext) rfl hspan
  rw [hnames.text, hextract, String.ofList_toList]

/-- Two words with signs that mean something else in patterns. -/
def signs : List (Word Float) :=
  [⟨"a.*", [], ⟨0.0, 0.0, 15.0, 12.0⟩, 3.0, 12.0, .right, .horizontal, [0.0, 5.0, 10.0, 15.0], 0⟩,
    ⟨".*b", [], ⟨15.0, 0.0, 30.0, 12.0⟩, 3.0, 12.0, .right, .horizontal,
      [15.0, 20.0, 25.0, 30.0], 1⟩]

theorem search?_literal_signs
    : ".*" ≠ "" ∧
      ∃ found, search? { regex := false, caseSensitive := true } ".*" signs = some found ∧
        Reports signs (occurrences ".*".toList 0 (searched signs)) found ∧
          ∀ m ∈ found, m.text = ".*" := by
  have htext : ".*" ≠ "" := by decide
  exact ⟨htext, search?_literal htext signs⟩

end Galley.Search
