import Galley.Proofs.Rendering.Joined
import Galley.Rendering.Plain

/-!
This module contains what running text is made of: the texts of the words in their order, joined by
separators, and the pieces that white space splits it into line by line.
-/

namespace Galley

open Unicode

namespace Word

variable {α : Type}

/-- The text of a word character by character. -/
def letters (w : Word α) : List Char := w.text.toList

end Word

namespace Line

variable {α : Type}

/-- A line that has words, each of them a piece that white space does not split. -/
structure Legible (l : Line α) : Prop where
  words_ne_nil : l.words ≠ []
  isToken : ∀ w ∈ l.words, IsToken w.letters

theorem Legible.isToken_letters {l : Line α} (h : l.Legible)
    : ∀ t ∈ l.words.map Word.letters, IsToken t := by
  intro t ht
  obtain ⟨w, hw, rfl⟩ := List.mem_map.mp ht
  exact h.isToken w hw

end Line

namespace Rendering

variable {α : Type} [Scalar α]

/-- The separators of running text. -/
def plainSeparators : List (List Char) := [[], [' '], ['\n'], ['\n', '\n']]

/-- The separators of words in the order in which they were drawn. -/
def streamSeparators : List (List Char) := [[], [' '], ['\n']]

theorem isBlank_of_mem_plainSeparators {s : List Char} (h : s ∈ plainSeparators) : IsBlank s := by
  unfold plainSeparators at h
  simp only [List.mem_cons, List.not_mem_nil, or_false] at h
  rcases h with rfl | rfl | rfl | rfl <;> decide

theorem not_infix_of_joined {words : List (List Char)} {text blank : List Char}
    (h : Joined (· ∈ plainSeparators) words text) (hwords : ∀ w ∈ words, IsToken w)
    (hne : blank ≠ []) (hblank : IsBlank blank)
    (hlong : ∀ s ∈ plainSeparators, ¬ blank <:+: s) : ¬ blank <:+: text := by
  intro hwithin
  obtain ⟨s, hs, hwithin⟩ := h.exists_separator_of_infix hwords hne hblank hwithin
  exact hlong s hs hwithin

theorem joined_wordsAfter (spacing : SpacingThresholds α) (v : Word α) (words : List (Word α))
    : Joined (· ∈ plainSeparators) ((v :: words).map Word.letters)
        (v.letters ++ (wordsAfter spacing v words).toList) := by
  induction words generalizing v with
  | nil =>
    simp only [wordsAfter, String.toList_empty, List.append_nil]
    exact .single v.letters
  | cons w rest ih =>
    unfold wordsAfter
    rw [String.toList_append, String.toList_append, List.append_assoc, ← List.append_assoc]
    apply Joined.cons
    . split <;> decide
    . exact ih w

theorem joined_lineText (spacing : SpacingThresholds α) (l : Line α)
    : Joined (· ∈ plainSeparators) (l.words.map Word.letters) (lineText spacing l).toList := by
  unfold lineText
  split
  next hwords =>
    rw [hwords]
    exact .nil
  next w rest hwords =>
    rw [hwords, String.toList_append]
    apply joined_wordsAfter

theorem joined_linesAfter (settings : Settings α) (k : Line α) (lines : List (Line α))
    (h : ∀ l ∈ k :: lines, l.Legible)
    : Joined (· ∈ plainSeparators) ((k :: lines).flatMap fun l => l.words.map Word.letters)
        ((lineText settings.spacing k).toList ++ (linesAfter settings k lines).toList) := by
  induction lines generalizing k with
  | nil =>
    simp only [linesAfter, String.toList_empty, List.append_nil, List.flatMap_cons,
      List.flatMap_nil]
    apply joined_lineText
  | cons l rest ih =>
    unfold linesAfter
    rw [List.flatMap_cons, String.toList_append, String.toList_append, List.append_assoc,
      ← List.append_assoc]
    apply Joined.append
    . apply joined_lineText
    . simp [(h k (by simp)).words_ne_nil]
    . split <;> decide
    . exact ih l (fun m hm => h m (by simp [hm]))
    . simp [(h l (by simp)).words_ne_nil]

theorem joined_linesText (settings : Settings α) (lines : List (Line α))
    (h : ∀ l ∈ lines, l.Legible)
    : Joined (· ∈ plainSeparators) (lines.flatMap fun l => l.words.map Word.letters)
        (linesText settings lines).toList := by
  unfold linesText
  split
  . exact .nil
  . rw [String.toList_append]
    apply joined_linesAfter
    exact h

theorem toList_joinBlocks (blocks : List String)
    : (joinBlocks blocks).toList =
        ['\n', '\n'].intercalate ((blocks.map String.toList).filter fun t => !t.isEmpty) := by
  unfold joinBlocks
  rw [String.toList_intercalate, List.filter_map]
  congr 2
  apply List.filter_congr
  intro block _
  rw [Bool.eq_iff_iff]
  simp

omit [Scalar α] in
theorem isToken_of_mem_letters {lines : List (Line α)} (h : ∀ l ∈ lines, l.Legible)
    : ∀ t ∈ lines.flatMap fun l => l.words.map Word.letters, IsToken t := by
  intro t ht
  obtain ⟨l, hl, ht⟩ := List.mem_flatMap.mp ht
  exact (h l hl).isToken_letters t ht

theorem map_letters_readingOrder (options : LineOptions α) (p : Pools α)
    : (p.readingOrder options).map Word.letters =
        p.all.flatMap fun pool =>
          (pool.lines options).flatMap fun l => l.words.map Word.letters := by
  unfold Pools.readingOrder
  rw [List.map_flatMap, List.flatMap_assoc]

theorem joined_plain (settings : Settings α) (p : Pools α)
    (h : ∀ pool ∈ p.all, ∀ l ∈ pool.lines settings.lineOptions, l.Legible)
    : Joined (· ∈ plainSeparators)
        ((p.readingOrder settings.lineOptions).map Word.letters) (plain settings p).toList := by
  unfold plain
  rw [toList_joinBlocks, List.map_map, map_letters_readingOrder]
  apply Joined.intercalate
  . decide
  . intro pool hpool
    apply joined_linesText
    exact h pool hpool
  . intro pool hpool
    exact isToken_of_mem_letters (h pool hpool)

theorem mem_streamSeparators (settings : Settings α) (v w : Word α)
    : (streamSeparator settings v w).toList ∈ streamSeparators := by
  unfold streamSeparator
  split
  . decide
  . split <;> decide

theorem joined_streamAfter (settings : Settings α) (v : Word α) (words : List (Word α))
    : Joined (· ∈ streamSeparators) ((v :: words).map Word.letters)
        (v.letters ++ (streamAfter settings v words).toList) := by
  induction words generalizing v with
  | nil =>
    simp only [streamAfter, String.toList_empty, List.append_nil]
    exact .single v.letters
  | cons w rest ih =>
    unfold streamAfter
    rw [String.toList_append, String.toList_append, List.append_assoc, ← List.append_assoc]
    apply Joined.cons
    . apply mem_streamSeparators
    . exact ih w

theorem joined_stream (settings : Settings α) (words : List (Word α))
    : Joined (· ∈ streamSeparators) (words.map Word.letters) (stream settings words).toList := by
  unfold stream
  split
  . exact .nil
  . rw [String.toList_append]
    apply joined_streamAfter

theorem tokens_linesAfter (settings : Settings α) (k : Line α) (lines : List (Line α))
    : tokens ((lineText settings.spacing k).toList ++ (linesAfter settings k lines).toList) =
        (k :: lines).flatMap fun l => tokens (lineText settings.spacing l).toList := by
  induction lines generalizing k with
  | nil => simp [linesAfter]
  | cons l rest ih =>
    unfold linesAfter
    rw [String.toList_append, String.toList_append, List.append_assoc,
      tokens_append_blank_append, ih l]
    . rfl
    . split <;> decide
    . split <;> decide

theorem tokens_linesText (settings : Settings α) (lines : List (Line α))
    : tokens (linesText settings lines).toList =
        lines.flatMap fun l => tokens (lineText settings.spacing l).toList := by
  unfold linesText
  split
  . simp
  . rw [String.toList_append]
    apply tokens_linesAfter

theorem tokens_joinBlocks (blocks : List String)
    : tokens (joinBlocks blocks).toList = blocks.flatMap fun b => tokens b.toList := by
  rw [toList_joinBlocks, tokens_intercalate (by simp) (by decide),
    flatMap_tokens_filter_not_isEmpty, List.flatMap_map]

end Rendering
end Galley
