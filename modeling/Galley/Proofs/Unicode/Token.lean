import Galley.Unicode.WhiteSpace

/-!
This module contains text split at white space: what a piece of text adds to the pieces of a longer
one depends only on whether white space stands next to it.
-/

namespace Galley.Unicode

/-- The pieces of a text between white space. -/
def tokens (text : List Char) : List (List Char) :=
  (text.splitOnP isWhiteSpace).filter fun token => !token.isEmpty

/-- Whether a text is white space only. -/
def IsBlank (text : List Char) : Prop := ∀ c ∈ text, isWhiteSpace c = true

instance (text : List Char) : Decidable (IsBlank text) :=
  List.decidableBAll _ text

/-- Whether a text is a piece that white space does not split. -/
structure IsToken (text : List Char) : Prop where
  ne_nil : text ≠ []
  solid : ∀ c ∈ text, isWhiteSpace c = false

theorem IsBlank.nil : IsBlank [] := by
  intro c hc
  contradiction

theorem IsBlank.cons {c : Char} {text : List Char} (hc : isWhiteSpace c = true)
    (h : IsBlank text) : IsBlank (c :: text) := by
  intro d hd
  cases hd with
  | head => exact hc
  | tail _ hd => exact h d hd

theorem IsBlank.replicate (n : Nat) {c : Char} (hc : isWhiteSpace c = true)
    : IsBlank (List.replicate n c) := by
  intro d hd
  rw [List.eq_of_mem_replicate hd]
  exact hc

theorem IsToken.exists_cons {text : List Char} (h : IsToken text)
    : ∃ c rest, text = c :: rest ∧ isWhiteSpace c = false := by
  cases text with
  | nil => exact absurd rfl h.ne_nil
  | cons c rest => exact ⟨c, rest, rfl, h.solid c (by simp)⟩

theorem IsToken.exists_concat {text : List Char} (h : IsToken text)
    : ∃ rest c, text = rest ++ [c] ∧ isWhiteSpace c = false := by
  refine ⟨_, _, (List.dropLast_concat_getLast h.ne_nil).symm, ?_⟩
  apply h.solid
  apply List.getLast_mem

@[simp]
theorem tokens_nil : tokens [] = [] := by
  simp [tokens]

theorem tokens_cons_of_isWhiteSpace {c : Char} (hc : isWhiteSpace c = true) (text : List Char)
    : tokens (c :: text) = tokens text := by
  unfold tokens
  rw [List.splitOnP_cons_eq_if_modifyHead]
  simp [hc]

theorem tokens_blank_append {blank : List Char} (h : IsBlank blank) (text : List Char)
    : tokens (blank ++ text) = tokens text := by
  induction blank with
  | nil => rfl
  | cons c blank ih =>
    rw [List.cons_append, tokens_cons_of_isWhiteSpace (h c (by simp))]
    apply ih
    intro d hd
    exact h d (List.mem_cons_of_mem c hd)

theorem tokens_append_cons (text : List Char) {c : Char} (hc : isWhiteSpace c = true)
    (rest : List Char) : tokens (text ++ c :: rest) = tokens text ++ tokens rest := by
  unfold tokens
  rw [List.splitOnP_append_cons _ _ hc, List.filter_append]

theorem tokens_append_blank_append (text : List Char) {blank : List Char} (hne : blank ≠ [])
    (h : IsBlank blank) (rest : List Char)
    : tokens (text ++ (blank ++ rest)) = tokens text ++ tokens rest := by
  cases blank with
  | nil => contradiction
  | cons c blank =>
    rw [List.cons_append, tokens_append_cons text (h c (by simp)), tokens_blank_append]
    intro d hd
    exact h d (List.mem_cons_of_mem c hd)

theorem tokens_append_blank (text : List Char) {blank : List Char} (h : IsBlank blank)
    : tokens (text ++ blank) = tokens text := by
  by_cases hne : blank = []
  . rw [hne, List.append_nil]
  . have happend := tokens_append_blank_append text hne h []
    rw [List.append_nil, tokens_nil, List.append_nil] at happend
    exact happend

theorem splitOnP_solid_append {word : List Char} (h : ∀ c ∈ word, isWhiteSpace c = false)
    (text : List Char)
    : (word ++ text).splitOnP isWhiteSpace =
        (text.splitOnP isWhiteSpace).modifyHead (word ++ ·) := by
  induction word with
  | nil =>
    rw [List.nil_append]
    cases text.splitOnP isWhiteSpace <;> rfl
  | cons c word ih =>
    rw [List.cons_append, List.splitOnP_cons_eq_if_modifyHead, h c (by simp),
      ih fun d hd => h d (List.mem_cons_of_mem c hd)]
    cases text.splitOnP isWhiteSpace <;> rfl

theorem tokens_solid_append {word : List Char} (h : ∀ c ∈ word, isWhiteSpace c = false) {c : Char}
    (hc : isWhiteSpace c = false) (rest : List Char)
    : tokens (word ++ c :: rest) = (tokens (c :: rest)).modifyHead (word ++ ·) := by
  unfold tokens
  rw [splitOnP_solid_append h, List.splitOnP_cons_eq_if_modifyHead, hc]
  cases rest.splitOnP isWhiteSpace with
  | nil => rfl
  | cons token others => simp

theorem tokens_intercalate {blank : List Char} (hne : blank ≠ []) (h : IsBlank blank)
    (texts : List (List Char)) : tokens (blank.intercalate texts) = texts.flatMap tokens := by
  induction texts with
  | nil => simp
  | cons text texts ih =>
    cases texts with
    | nil => simp
    | cons next rest =>
      rw [List.intercalate_cons_cons, List.append_assoc, tokens_append_blank_append text hne h, ih]
      rfl

theorem flatMap_tokens_filter_not_isEmpty (texts : List (List Char))
    : (texts.filter fun text => !text.isEmpty).flatMap tokens = texts.flatMap tokens := by
  induction texts with
  | nil => rfl
  | cons text texts ih =>
    cases text with
    | nil =>
      rw [List.flatMap_cons, tokens_nil, List.nil_append]
      exact ih
    | cons c text =>
      rw [List.filter_cons_of_pos (by rfl), List.flatMap_cons, List.flatMap_cons, ih]

end Galley.Unicode
