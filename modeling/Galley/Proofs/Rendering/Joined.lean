import Galley.Proofs.Unicode.Token

/-!
This module contains words joined by separators, and what can be read off from a text that is known
to be joined that way.
-/

namespace Galley.Rendering

open Unicode

/-- A text that consists of these words, with a separator between any two neighbours. -/
inductive Joined (separates : List Char → Prop) : List (List Char) → List Char → Prop
  | nil : Joined separates [] []
  | single (word : List Char) : Joined separates [word] word
  | cons {word next : List Char} {rest : List (List Char)} {separator text : List Char} :
      separates separator → Joined separates (next :: rest) text →
        Joined separates (word :: next :: rest) (word ++ separator ++ text)

namespace Joined

variable {separates : List Char → Prop} {words others : List (List Char)} {text other : List Char}

theorem append (h : Joined separates words text) (hne : words ≠ []) {separator : List Char}
    (hseparator : separates separator) (hother : Joined separates others other)
    (hothers : others ≠ []) : Joined separates (words ++ others) (text ++ separator ++ other) := by
  induction h with
  | nil => contradiction
  | single word =>
    cases others with
    | nil => contradiction
    | cons next rest => exact .cons hseparator hother
  | @cons word next rest s t hs _ ih =>
    have htail : Joined separates (word :: (next :: rest ++ others))
        (word ++ s ++ (t ++ separator ++ other)) := cons hs (ih (by simp))
    simp only [List.append_assoc] at htail ⊢
    exact htail

variable (h : Joined separates words text)
include h

theorem filter_eq_flatten (hwords : ∀ w ∈ words, IsToken w) (hblank : ∀ s, separates s → IsBlank s)
    : text.filter (fun c => !isWhiteSpace c) = words.flatten := by
  have hsolid : ∀ w ∈ words, w.filter (fun c => !isWhiteSpace c) = w := by
    intro w hw
    rw [List.filter_eq_self]
    intro c hc
    rw [(hwords w hw).solid c hc]
    rfl
  induction h with
  | nil => rfl
  | single word =>
    rw [hsolid word (by simp)]
    simp
  | @cons word next rest s t hs _ ih =>
    have hseparator : s.filter (fun c => !isWhiteSpace c) = [] := by
      rw [List.filter_eq_nil_iff]
      intro c hc
      simp [hblank s hs c hc]
    rw [List.filter_append, List.filter_append, hseparator, List.append_nil,
      hsolid word (by simp),
      ih (fun w hw => hwords w (by simp [hw])) (fun w hw => hsolid w (by simp [hw]))]
    rfl

theorem exists_cons (hwords : ∀ w ∈ words, IsToken w) (hne : words ≠ [])
    : ∃ c rest, text = c :: rest ∧ isWhiteSpace c = false := by
  cases h with
  | nil => contradiction
  | single => exact (hwords text (by simp)).exists_cons
  | @cons word _ _ s t =>
    obtain ⟨c, rest, hword, hc⟩ := (hwords word (by simp)).exists_cons
    refine ⟨c, rest ++ s ++ t, ?_, hc⟩
    rw [hword]
    rfl

theorem exists_concat (hwords : ∀ w ∈ words, IsToken w) (hne : words ≠ [])
    : ∃ rest c, text = rest ++ [c] ∧ isWhiteSpace c = false := by
  induction h with
  | nil => contradiction
  | single word => exact (hwords word (by simp)).exists_concat
  | @cons word _ _ s _ _ _ ih =>
    obtain ⟨rest, c, htext, hc⟩ := ih (fun w hw => hwords w (by simp [hw])) (by simp)
    refine ⟨word ++ s ++ rest, c, ?_, hc⟩
    rw [htext, List.append_assoc (word ++ s)]

theorem isWhiteSpace_of_mem_head? (hwords : ∀ w ∈ words, IsToken w) {c : Char}
    (hc : c ∈ text.head?) : isWhiteSpace c = false := by
  cases words with
  | nil =>
    cases h
    contradiction
  | cons word rest =>
    obtain ⟨d, others, htext, hd⟩ := h.exists_cons hwords (by simp)
    rw [htext, List.head?_cons, Option.mem_some] at hc
    rw [← hc]
    exact hd

theorem isWhiteSpace_of_mem_getLast? (hwords : ∀ w ∈ words, IsToken w) {c : Char}
    (hc : c ∈ text.getLast?) : isWhiteSpace c = false := by
  cases words with
  | nil =>
    cases h
    contradiction
  | cons word rest =>
    obtain ⟨others, d, htext, hd⟩ := h.exists_concat hwords (by simp)
    rw [htext, List.getLast?_concat, Option.mem_some] at hc
    rw [← hc]
    exact hd

theorem eq_nil_iff (hwords : ∀ w ∈ words, IsToken w) : text = [] ↔ words = [] := by
  constructor
  . intro htext
    cases words with
    | nil => rfl
    | cons word rest =>
      obtain ⟨c, _, hcons, _⟩ := h.exists_cons hwords (by simp)
      rw [htext] at hcons
      contradiction
  . intro hnil
    subst hnil
    cases h
    rfl

end Joined

theorem infix_of_infix_solid_append {blank word text : List Char} (hne : blank ≠ [])
    (hblank : IsBlank blank) (hword : ∀ c ∈ word, isWhiteSpace c = false)
    (h : blank <:+: word ++ text) : blank <:+: text := by
  have hsolid : ∀ c ∈ blank, c ∉ word := by
    intro c hc hmem
    have hwhite := hblank c hc
    rw [hword c hmem] at hwhite
    contradiction
  obtain ⟨c, rest, rfl⟩ := List.exists_cons_of_ne_nil hne
  rcases List.infix_append_iff.mp h with hwithin | hwithin | ⟨l, m, hsplit, hsuffix, hhead⟩
  . exact absurd (hwithin.subset (by simp)) (hsolid c (by simp))
  . exact hwithin
  . cases l with
    | nil =>
      rw [hsplit]
      exact hhead.isInfix
    | cons d l =>
      have hd : d ∈ c :: rest := by simp [hsplit]
      exact absurd (hsuffix.subset (by simp)) (hsolid d hd)

theorem infix_of_infix_append_solid {blank separator text : List Char}
    (hblank : IsBlank blank) (htext : ∃ c rest, text = c :: rest ∧ isWhiteSpace c = false)
    (h : blank <:+: separator ++ text) : blank <:+: separator ∨ blank <:+: text := by
  obtain ⟨c, rest, htext, hc⟩ := htext
  rcases List.infix_append_iff.mp h with hwithin | hwithin | ⟨l, m, hsplit, hsuffix, hhead⟩
  . exact .inl hwithin
  . exact .inr hwithin
  . cases m with
    | nil =>
      rw [hsplit, List.append_nil]
      exact .inl hsuffix.isInfix
    | cons d m =>
      rw [htext] at hhead
      have hd : d = c := (List.cons_prefix_cons.mp hhead).1
      have hwhite := hblank d (by simp [hsplit])
      rw [hd, hc] at hwhite
      contradiction

theorem Joined.exists_separator_of_infix {separates : List Char → Prop}
    {words : List (List Char)} {text blank : List Char} (h : Joined separates words text)
    (hwords : ∀ w ∈ words, IsToken w) (hne : blank ≠ []) (hblank : IsBlank blank)
    (hwithin : blank <:+: text) : ∃ s, separates s ∧ blank <:+: s := by
  -- white space in joined text is part of a single separator
  induction h with
  | nil =>
    rw [List.infix_nil] at hwithin
    contradiction
  | single word =>
    rw [← List.append_nil word] at hwithin
    have hnil := infix_of_infix_solid_append hne hblank (hwords word (by simp)).solid hwithin
    rw [List.infix_nil] at hnil
    contradiction
  | @cons word next rest s t hs htail ih =>
    have hrest : ∀ w ∈ next :: rest, IsToken w := fun w hw => hwords w (by simp [hw])
    rw [List.append_assoc] at hwithin
    have htext := infix_of_infix_solid_append hne hblank (hwords word (by simp)).solid hwithin
    rcases infix_of_infix_append_solid hblank (htail.exists_cons hrest (by simp)) htext
      with hs' | ht
    . exact ⟨s, hs, hs'⟩
    . exact ih hrest ht

theorem intercalate_eq_nil_iff (separator : List Char) {texts : List (List Char)}
    (h : ∀ t ∈ texts, t ≠ []) : separator.intercalate texts = [] ↔ texts = [] := by
  cases texts with
  | nil => simp
  | cons text rest =>
    have htext := h text (by simp)
    cases rest <;> simp [htext]

theorem Joined.intercalate {β : Type} {separates : List Char → Prop} {words : β → List (List Char)}
    {text : β → List Char} {separator : List Char} (hseparator : separates separator)
    (parts : List β) (h : ∀ p ∈ parts, Joined separates (words p) (text p))
    (hwords : ∀ p ∈ parts, ∀ w ∈ words p, IsToken w)
    : Joined separates (parts.flatMap words)
        (separator.intercalate ((parts.map text).filter fun t => !t.isEmpty)) := by
  -- joined texts joined once more, without those of no words
  induction parts with
  | nil => exact .nil
  | cons p parts ih =>
    have hrest := ih (fun q hq => h q (by simp [hq])) (fun q hq => hwords q (by simp [hq]))
    have hfirst := h p (by simp)
    have hnil := hfirst.eq_nil_iff (hwords p (by simp))
    by_cases hp : words p = []
    . rw [List.flatMap_cons, hp, List.nil_append, List.map_cons,
        List.filter_cons_of_neg (by simp [hnil.mpr hp])]
      exact hrest
    . have htext : text p ≠ [] := fun ht => hp (hnil.mp ht)
      have hothers : ∀ w ∈ parts.flatMap words, IsToken w := by
        intro w hw
        obtain ⟨q, hq, hw⟩ := List.mem_flatMap.mp hw
        exact hwords q (by simp [hq]) w hw
      have hothers := hrest.eq_nil_iff hothers
      rw [intercalate_eq_nil_iff separator (by simp)] at hothers
      rw [List.flatMap_cons, List.map_cons, List.filter_cons_of_pos (by simp [htext])]
      by_cases hparts : (parts.map text).filter (fun t => !t.isEmpty) = []
      . rw [hparts, hothers.mp hparts, List.append_nil, List.intercalate_singleton]
        exact hfirst
      . rw [List.intercalate_cons_of_ne_nil hparts]
        apply hfirst.append hp hseparator hrest
        intro hnone
        exact hparts (hothers.mpr hnone)

end Galley.Rendering
