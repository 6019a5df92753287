import Galley.Proofs.Line.Group
import Galley.Proofs.Page.Conservation
import Galley.Proofs.Rendering.Grid

/-!
This module contains what the texts of a page have in common: each renderer writes the words of the
page in their order, and none of them joins or splits one.
-/

namespace Galley

open Unicode Rendering

variable {α : Type} [Scalar α]

namespace Pool

theorem mem_of_mem_lines {options : LineOptions α} {p : Pool α} {l : Line α}
    (h : l ∈ p.lines options) : l.words ≠ [] ∧ ∀ w ∈ l.words, w ∈ p.words := by
  unfold lines at h
  obtain ⟨_, hne, hmem⟩ := Line.mem_of_mem_ofPool h
  refine ⟨hne, ?_⟩
  intro w hw
  have hbucket := hmem w hw
  unfold words
  split at hbucket
  . rw [List.mem_flatMap] at hbucket ⊢
    obtain ⟨bucket, hin, hw⟩ := hbucket
    exact ⟨bucket, List.mem_reverse.mp hin, hw⟩
  . exact hbucket

/-- Words that white space does not split make lines that can be read. -/
theorem legible_of_mem_lines {options : LineOptions α} {p : Pool α}
    (h : ∀ w ∈ p.words, IsToken w.letters) : ∀ l ∈ p.lines options, l.Legible := by
  intro l hl
  obtain ⟨hne, hmem⟩ := mem_of_mem_lines hl
  exact ⟨hne, fun w hw => h w (hmem w hw)⟩

end Pool

namespace Page

variable (fonts : FontBook α) (sheet : Sheet α) (settings : Settings α)
variable (ops : List (Content.Operator α))

theorem isToken_of_mem_drawn {w : Word α} (h : w ∈ (ofOperators fonts sheet settings ops).drawn)
    : IsToken w.letters := by
  rw [drawn_ofOperators] at h
  have haccounts := segmented_accounts fonts sheet settings ops
  obtain ⟨hne, htext⟩ := haccounts.sound.spelled w h
  have hletters : w.letters = w.glyphs.map Glyph.char := by
    unfold Word.letters
    rw [htext, String.toList_ofList]
  rw [hletters]
  constructor
  . simp [hne]
  . intro c hc
    obtain ⟨g, hg, rfl⟩ := List.mem_map.mp hc
    have hbreaks := Segmenter.breaksWord_of_mem_words haccounts h hg
    unfold CharClass.breaksWord at hbreaks
    rw [Bool.or_eq_false_iff] at hbreaks
    exact hbreaks.1

theorem legible_of_mem_lines {options : LineOptions α}
    : ∀ pool ∈ (ofOperators fonts sheet settings ops).pools.all,
        ∀ l ∈ pool.lines options, l.Legible := by
  intro pool hpool
  apply Pool.legible_of_mem_lines
  intro w hw
  apply isToken_of_mem_drawn fonts sheet settings ops
  rw [← (words_pools_ofOperators_perm fonts sheet settings ops).mem_iff]
  exact List.mem_flatMap.mpr ⟨pool, hpool, hw⟩

theorem isToken_of_mem_words
    : ∀ t ∈ (ofOperators fonts sheet settings ops).words.map Word.letters, IsToken t := by
  intro t ht
  obtain ⟨w, hw, rfl⟩ := List.mem_map.mp ht
  cases hstream : (ofOperators fonts sheet settings ops).settings.streamOrder with
  | true =>
    rw [words_of_streamOrder hstream] at hw
    exact isToken_of_mem_drawn fonts sheet settings ops hw
  | false =>
    rw [words_of_not_streamOrder hstream] at hw
    unfold Pools.readingOrder at hw
    obtain ⟨l, hl, hw⟩ := List.mem_flatMap.mp hw
    obtain ⟨pool, hpool, hl⟩ := List.mem_flatMap.mp hl
    exact (legible_of_mem_lines fonts sheet settings ops pool hpool l hl).isToken w hw

theorem joined_plainText (hstream : settings.streamOrder = false)
    : Joined (· ∈ plainSeparators) ((ofOperators fonts sheet settings ops).words.map Word.letters)
        (ofOperators fonts sheet settings ops).plainText.toList := by
  rw [words_of_not_streamOrder hstream, plainText_of_not_streamOrder hstream]
  apply joined_plain
  apply legible_of_mem_lines

theorem joined_plainText_stream (hstream : settings.streamOrder = true)
    : Joined (· ∈ streamSeparators) ((ofOperators fonts sheet settings ops).words.map Word.letters)
        (ofOperators fonts sheet settings ops).plainText.toList := by
  rw [words_of_streamOrder hstream, plainText_of_streamOrder hstream]
  apply joined_stream

theorem tokens_gridText (hstream : settings.streamOrder = false)
    (hspaces : 1 ≤ settings.grid.maxSpaces)
    : tokens (ofOperators fonts sheet settings ops).gridText.toList =
        tokens (ofOperators fonts sheet settings ops).plainText.toList := by
  rw [plainText_of_not_streamOrder hstream]
  apply tokens_grid hspaces
  apply legible_of_mem_lines

theorem joined_gridText (hstream : settings.streamOrder = false)
    (hspaces : settings.grid.maxSpaces = 0)
    : Joined IsNewlines ((ofOperators fonts sheet settings ops).words.map Word.letters)
        (ofOperators fonts sheet settings ops).gridText.toList := by
  rw [words_of_not_streamOrder hstream]
  apply joined_grid hspaces
  apply legible_of_mem_lines

theorem space_not_mem_gridText (hstream : settings.streamOrder = false)
    (hspaces : settings.grid.maxSpaces = 0)
    : ' ' ∉ (ofOperators fonts sheet settings ops).gridText.toList := by
  intro hmem
  obtain ⟨front, back, hsplit⟩ := List.append_of_mem hmem
  have hjoined := joined_gridText fonts sheet settings ops hstream hspaces
  have hwithin : [' '] <:+: (ofOperators fonts sheet settings ops).gridText.toList := by
    rw [hsplit]
    exact ⟨front, back, by simp⟩
  obtain ⟨s, hs, hwithin⟩ := hjoined.exists_separator_of_infix
    (isToken_of_mem_words fonts sheet settings ops) (by simp) (by decide) hwithin
  have hspace := hs ' ' (hwithin.subset (by simp))
  contradiction

theorem texts_of_ofOperators (fonts : FontBook α) (sheet : Sheet α) (settings : Settings α)
    (ops : List (Content.Operator α))
    : let page := ofOperators fonts sheet settings ops
      let words := page.words.map Word.letters
      let plain := page.plainText.toList
      let grid := page.gridText.toList
      (settings.streamOrder = false →
        (Joined (· ∈ plainSeparators) words plain ∧
          (∀ c ∈ plain.head?, isWhiteSpace c = false) ∧
          (∀ c ∈ plain.getLast?, isWhiteSpace c = false) ∧
          ¬ [' ', ' '] <:+: plain ∧
          ¬ ['\n', '\n', '\n'] <:+: plain ∧
          plain.filter (fun c => !isWhiteSpace c) = words.flatten) ∧
        (1 ≤ settings.grid.maxSpaces → tokens grid = tokens plain) ∧
        (settings.grid.maxSpaces = 0 → ' ' ∉ grid ∧ Joined IsNewlines words grid)) ∧
      (settings.streamOrder = true → Joined (· ∈ streamSeparators) words plain) := by
  intro page words plain grid
  have htokens : ∀ w ∈ words, IsToken w := isToken_of_mem_words fonts sheet settings ops
  constructor
  . intro hstream
    have hjoined : Joined (· ∈ plainSeparators) words plain :=
      joined_plainText fonts sheet settings ops hstream
    refine ⟨⟨hjoined, ?_, ?_, ?_, ?_, ?_⟩, ?_, ?_⟩
    . intro c hc
      exact hjoined.isWhiteSpace_of_mem_head? htokens hc
    . intro c hc
      exact hjoined.isWhiteSpace_of_mem_getLast? htokens hc
    . exact not_infix_of_joined hjoined htokens (by simp) (by decide) (by decide)
    . exact not_infix_of_joined hjoined htokens (by simp) (by decide) (by decide)
    . exact hjoined.filter_eq_flatten htokens fun s hs => isBlank_of_mem_plainSeparators hs
    . exact tokens_gridText fonts sheet settings ops hstream
    . intro hspaces
      exact ⟨space_not_mem_gridText fonts sheet settings ops hstream hspaces,
        joined_gridText fonts sheet settings ops hstream hspaces⟩
  . exact joined_plainText_stream fonts sheet settings ops

end Page
end Galley
