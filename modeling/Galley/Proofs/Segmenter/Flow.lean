import Galley.Proofs.Segmenter.Call

/-!
This module contains the way of glyphs through a segmenter: every accepted glyph joins the open
word, and closing a word hands its glyphs over without a change, so no word is ever lost.
-/

namespace Galley

namespace OpenWord

variable {α : Type} [Scalar α]

omit [Scalar α] in
def glyphs (w : OpenWord α) : List (Glyph α) := (w.last :: w.earlier).reverse

omit [Scalar α] in
/-- There is one more edge than glyphs, as a finished word has to have. -/
def Fits (w : OpenWord α) : Prop := w.edges.length = w.glyphs.length + 1

omit [Scalar α] in
theorem glyphs_ne_nil (w : OpenWord α) : w.glyphs ≠ [] := by
  simp [glyphs]

@[simp]
theorem glyphs_ofGlyph (g : Glyph α) : (ofGlyph g).glyphs = [g] := by
  rfl

@[simp]
theorem glyphs_push (w : OpenWord α) (g : Glyph α) : (w.push g).glyphs = w.glyphs ++ [g] := by
  simp [glyphs, push]

theorem Fits.ofGlyph (g : Glyph α) : (ofGlyph g).Fits := by
  rfl

theorem Fits.push {w : OpenWord α} (h : w.Fits) (g : Glyph α) : (w.push g).Fits := by
  unfold Fits at *
  rw [glyphs_push]
  simp only [OpenWord.push, List.length_cons, List.length_tail, List.length_append]
  have : w.glyphs.length ≠ 0 := by simp [glyphs]
  simp only [List.length_nil]
  omega

end OpenWord

namespace Word

variable {α : Type} [Scalar α]

omit [Scalar α] in
/-- A word of at least one glyph whose text is what its glyphs spell. -/
def Spelled (w : Word α) : Prop :=
  w.glyphs ≠ [] ∧ w.text = String.ofList (w.glyphs.map Glyph.char)

end Word

namespace OpenWord

variable {α : Type} [Scalar α]

theorem exists_finish? {w : OpenWord α} (h : w.Fits) (order : Nat)
    : ∃ word, w.finish? order = some word ∧ word.glyphs = w.glyphs ∧ word.order = order ∧
        word.direction = w.direction ∧ word.Spelled := by
  unfold Fits at h
  unfold finish? Word.ofParts?
  have hglyphs : (w.last :: w.earlier).reverse = w.glyphs := by rfl
  rw [hglyphs]
  rw [List.length_reverse]
  rw [if_neg]
  . exact ⟨_, rfl, rfl, rfl, rfl, w.glyphs_ne_nil, rfl⟩
  . rw [not_or]
    constructor
    . exact w.glyphs_ne_nil
    . omega

end OpenWord

namespace Segmenter

variable {α : Type} [Scalar α]

omit [Scalar α] in
/-- The glyphs taken so far: those of the finished words and then those of the open one. -/
def flow (s : Segmenter α) : List (Glyph α) :=
  s.words.flatMap Word.glyphs ++ s.opened.elim [] OpenWord.glyphs

omit [Scalar α] in
structure Sound (s : Segmenter α) : Prop where
  fits : ∀ w, s.opened = some w → w.Fits
  orders : s.words.map Word.order = List.range s.tally.words
  spelled : ∀ w ∈ s.words, w.Spelled

omit [Scalar α] in
theorem Sound.empty : (empty : Segmenter α).Sound where
  fits := by simp [Segmenter.empty]
  orders := by rfl
  spelled := by simp [Segmenter.empty, words]

omit [Scalar α] in
theorem Sound.withTally {s : Segmenter α} (h : s.Sound) {t : Tally} (ht : t.words = s.tally.words)
    : (s.withTally t).Sound where
  fits := h.fits
  orders := by
    rw [show (s.withTally t).tally.words = s.tally.words from ht]
    exact h.orders
  spelled := h.spelled

omit [Scalar α] in
@[simp]
theorem flow_withTally (s : Segmenter α) (t : Tally) : (s.withTally t).flow = s.flow := by
  rfl

theorem close_cases {s : Segmenter α} (h : s.Sound)
    : (s.opened = none ∧ s.close = s) ∨
        ∃ w word, s.opened = some w ∧ word.glyphs = w.glyphs ∧ word.order = s.tally.words ∧
          word.Spelled ∧
          s.close = { s with
            opened := none
            finished := word :: s.finished
            tally := { s.tally with words := s.tally.words + 1 } } := by
  -- what closing does: an open word always becomes the next finished one
  unfold close
  cases hopened : s.opened with
  | none => exact Or.inl ⟨rfl, rfl⟩
  | some w =>
    obtain ⟨word, hfinish, hglyphs, horder, _, hspelled⟩ :=
      OpenWord.exists_finish? (h.fits w hopened) s.tally.words
    refine Or.inr ⟨w, word, rfl, hglyphs, horder, hspelled, ?_⟩
    simp only [hfinish]

@[simp]
theorem opened_close (s : Segmenter α) : s.close.opened = none := by
  unfold close
  split
  . assumption
  . split <;> rfl

theorem flow_close {s : Segmenter α} (h : s.Sound) : s.close.flow = s.flow := by
  cases close_cases h with
  | inl hnone => rw [hnone.2]
  | inr hsome =>
    obtain ⟨w, word, hopened, hglyphs, _, _, hclose⟩ := hsome
    rw [hclose]
    simp [flow, words, hopened, hglyphs]

theorem Sound.close {s : Segmenter α} (h : s.Sound) : s.close.Sound := by
  cases close_cases h with
  | inl hnone =>
    rw [hnone.2]
    exact h
  | inr hsome =>
    obtain ⟨w, word, hopened, hglyphs, horder, hspelled, hclose⟩ := hsome
    rw [hclose]
    constructor
    . simp
    . have horders := h.orders
      unfold words at *
      simp only [List.reverse_cons, List.map_append, List.map_cons, List.map_nil]
      rw [horders, horder, List.range_succ]
    . intro v hv
      simp only [words, List.reverse_cons, List.mem_append, List.mem_singleton] at hv
      cases hv with
      | inl hv => exact h.spelled v hv
      | inr hv =>
        rw [hv]
        exact hspelled

theorem tally_close (s : Segmenter α)
    : ∃ words, s.close.tally = { s.tally with words := words } := by
  unfold Segmenter.close
  split
  . exact ⟨s.tally.words, rfl⟩
  . split
    . exact ⟨s.tally.words, rfl⟩
    . exact ⟨s.tally.words + 1, rfl⟩

theorem direction_of_opened_separate {settings : Settings α} {s : Segmenter α} {g : Glyph α}
    {w : OpenWord α} (h : (s.separate settings g).opened = some w) : w.direction = g.direction := by
  -- a word that stays open behind a glyph has the direction of the glyph
  unfold separate at h
  split at h
  . next hnone => simp [hnone] at h
  . next v hsome =>
    simp only at h
    split at h
    . simp at h
    . next hbreaks =>
      rw [hsome] at h
      injection h with h
      rw [← h]
      simp only [OpenWord.isApart, Bool.or_eq_true, not_or, bne_iff_ne, ne_eq, not_not] at hbreaks
      exact hbreaks.2.2.symm

theorem accept_eq (settings : Settings α) (s : Segmenter α) (g : Glyph α)
    : s.accept settings g =
        if isReversed g then ((s.separate settings g).close).extend (anchored g)
        else (s.separate settings g).extend (anchored g) := by
  unfold accept
  rw [anchored_eq, isReversed_eq]
  dsimp only
  cases hopened : (s.separate settings g).opened with
  | none =>
    simp only [decide_eq_true_eq]
    by_cases h : g.direction.primary g.dx g.dy < 0.0
    . simp [h]
    . simp [h]
  | some w =>
    have hdirection := direction_of_opened_separate hopened
    simp only [hdirection, decide_eq_true_eq]
    by_cases h : g.direction.primary g.dx g.dy < 0.0
    . simp [h]
    . simp [h]

theorem flow_extend (s : Segmenter α) (g : Glyph α) : (s.extend g).flow = s.flow ++ [g] := by
  unfold extend flow words
  cases s.opened with
  | none => simp
  | some w => simp

theorem Sound.extend {s : Segmenter α} (h : s.Sound) (g : Glyph α) : (s.extend g).Sound where
  fits := by
    intro w hw
    unfold Segmenter.extend at hw
    cases hopened : s.opened with
    | none =>
      simp only [hopened, Option.some.injEq] at hw
      rw [← hw]
      apply OpenWord.Fits.ofGlyph
    | some v =>
      simp only [hopened, Option.some.injEq] at hw
      rw [← hw]
      apply OpenWord.Fits.push
      exact h.fits v hopened
  orders := h.orders
  spelled := h.spelled

omit [Scalar α] in
theorem Sound.withRepeated {s : Segmenter α} (h : s.Sound) (again : Bool)
    : ({ s with repeated := again } : Segmenter α).Sound where
  fits := h.fits
  orders := h.orders
  spelled := h.spelled

theorem Sound.separate {s : Segmenter α} (h : s.Sound) (settings : Settings α) (g : Glyph α)
    : (s.separate settings g).Sound := by
  unfold Segmenter.separate
  split
  . exact h.withRepeated false
  . apply Sound.withRepeated
    split
    . exact h.close
    . exact h

theorem flow_separate {s : Segmenter α} (h : s.Sound) (settings : Settings α) (g : Glyph α)
    : (s.separate settings g).flow = s.flow := by
  unfold Segmenter.separate
  split
  . rfl
  . simp only
    split
    . exact flow_close h
    . rfl

theorem tally_separate (settings : Settings α) (s : Segmenter α) (g : Glyph α)
    : ∃ words, (s.separate settings g).tally = { s.tally with words := words } := by
  unfold Segmenter.separate
  split
  . exact ⟨s.tally.words, rfl⟩
  . simp only
    split
    . exact tally_close s
    . exact ⟨s.tally.words, rfl⟩

theorem Sound.accept {s : Segmenter α} (h : s.Sound) (settings : Settings α) (g : Glyph α)
    : (s.accept settings g).Sound := by
  have hseparate := h.separate settings g
  rw [accept_eq]
  split
  . exact hseparate.close.extend (anchored g)
  . exact hseparate.extend (anchored g)

theorem flow_accept {s : Segmenter α} (h : s.Sound) (settings : Settings α) (g : Glyph α)
    : (s.accept settings g).flow = s.flow ++ [anchored g] := by
  have hseparate := h.separate settings g
  rw [accept_eq]
  split
  . rw [flow_extend, flow_close hseparate, flow_separate h]
  . rw [flow_extend, flow_separate h]

theorem tally_accept (settings : Settings α) (s : Segmenter α) (g : Glyph α)
    : ∃ words, (s.accept settings g).tally =
        { s.tally with words := words, accepted := s.tally.accepted + 1 } := by
  rw [accept_eq]
  obtain ⟨m, hm⟩ := tally_separate settings s g
  split
  . obtain ⟨n, hn⟩ := tally_close (s.separate settings g)
    refine ⟨n, ?_⟩
    simp only [extend]
    rw [hn, hm]
  . refine ⟨m, ?_⟩
    simp only [extend]
    rw [hm]

end Segmenter
end Galley
