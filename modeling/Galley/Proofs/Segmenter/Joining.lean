import Galley.Proofs.Segmenter.Coherence

/-!
This module contains the step of a segmenter that takes in a visible glyph: the glyph joins the open
word or begins a new one, and either way every word stays coherent.
-/

namespace Galley

namespace Segmenter

section Step

variable {α : Type} [Scalar α] (settings : Settings α) (s : Segmenter α) (g : Glyph α)

/-- Whether a glyph joins the word that is open. -/
structure Joins (w : OpenWord α) : Prop where
  opened : s.opened = some w
  fresh : s.repeated = false
  apart : w.isApart settings.word g = false
  single : w.isRepeat settings.word g = false
  forward : isReversed g = false

/-- Whether a glyph is drawn over the last one of the open word. -/
def repeatsLast : Bool := s.opened.elim false fun w => w.isRepeat settings.word g

omit [Scalar α] in
def withRepeated (again : Bool) : Segmenter α := { s with repeated := again }

/-- The state after a glyph joined the open word. -/
def joined (w : OpenWord α) : Segmenter α :=
  { s with
    opened := some (w.push g)
    repeated := false
    tally := { s.tally with accepted := s.tally.accepted + 1 } }

/-- The state after a glyph began a new word. -/
def begun : Segmenter α :=
  { s.close with
    opened := some (.ofGlyph (anchored g))
    repeated := repeatsLast settings s g
    tally := { s.close.tally with accepted := s.close.tally.accepted + 1 } }

variable {settings s g} in
theorem Joins.direction {w : OpenWord α} (h : Joins settings s g w)
    : g.direction = w.direction := by
  have hapart := h.apart
  unfold OpenWord.isApart at hapart
  dsimp only at hapart
  rw [Bool.or_eq_false_iff, bne_eq_false_iff_eq] at hapart
  exact hapart.2

theorem close_of_opened_eq_none {s : Segmenter α} (h : s.opened = none) : s.close = s := by
  unfold close
  rw [h]

theorem close_withRepeated (again : Bool)
    : (s.withRepeated again).close = s.close.withRepeated again := by
  unfold close
  cases hopened : s.opened with
  | none =>
    have hopened' : (s.withRepeated again).opened = none := hopened
    simp only [hopened']
  | some w =>
    have hopened' : (s.withRepeated again).opened = some w := hopened
    have htally : (s.withRepeated again).tally = s.tally := rfl
    simp only [hopened', htally]
    cases w.finish? s.tally.words <;> rfl

theorem extend_of_opened_eq_none {s : Segmenter α} (h : s.opened = none)
    : s.extend g =
        { s with
          opened := some (.ofGlyph g)
          tally := { s.tally with accepted := s.tally.accepted + 1 } } := by
  unfold extend
  rw [h]

theorem extend_close_withRepeated
    : (s.close.withRepeated (repeatsLast settings s g)).extend (anchored g) =
        begun settings s g := by
  rw [extend_of_opened_eq_none]
  . rfl
  . apply opened_close

theorem separate_of_none {s : Segmenter α} (h : s.opened = none)
    : s.separate settings g = s.close.withRepeated (repeatsLast settings s g) := by
  have hlast : repeatsLast settings s g = false := by
    unfold repeatsLast
    rw [h]
    rfl
  rw [hlast, close_of_opened_eq_none h]
  unfold separate
  split
  . rfl
  next w hsome =>
    rw [h] at hsome
    contradiction

theorem separate_of_some {s : Segmenter α} {w : OpenWord α} (h : s.opened = some w)
    : s.separate settings g =
        (if w.isRepeat settings.word g || s.repeated || w.isApart settings.word g then s.close
          else s).withRepeated (repeatsLast settings s g) := by
  unfold separate repeatsLast
  rw [h]
  rfl

theorem accept_of_separate_eq_close
    (h : s.separate settings g = s.close.withRepeated (repeatsLast settings s g))
    : s.accept settings g = begun settings s g := by
  have hopened : (s.close.withRepeated (repeatsLast settings s g)).opened = none := opened_close s
  rw [accept_eq, h, close_of_opened_eq_none hopened, ite_self, extend_close_withRepeated]

theorem accept_of_isReversed
    (h : s.separate settings g = s.withRepeated (repeatsLast settings s g))
    (hreversed : isReversed g = true) : s.accept settings g = begun settings s g := by
  rw [accept_eq, h, if_pos hreversed, close_withRepeated, extend_close_withRepeated]

variable {settings s g}

theorem repeatsLast_of_opened {w : OpenWord α} (h : s.opened = some w)
    : repeatsLast settings s g = w.isRepeat settings.word g := by
  unfold repeatsLast
  rw [h, Option.elim_some]

theorem Joins.eq_of_opened {v w : OpenWord α} (h : Joins settings s g v)
    (hopened : s.opened = some w) : v = w := by
  have hsome := h.opened
  rw [hopened, Option.some_inj] at hsome
  exact hsome.symm

theorem Joins.accept {w : OpenWord α} (h : Joins settings s g w)
    : s.accept settings g = joined s g w := by
  have hseparate := separate_of_some settings g h.opened
  rw [repeatsLast_of_opened h.opened, h.single, h.fresh, h.apart, if_neg (by simp)] at hseparate
  rw [accept_eq, hseparate, h.forward, if_neg (by simp)]
  unfold extend joined anchored withRepeated
  rw [h.forward]
  simp only [h.opened]
  rfl

theorem accept_of_not_joins {w : OpenWord α} (hopened : s.opened = some w)
    (h : ¬ Joins settings s g w) : s.accept settings g = begun settings s g := by
  have hseparate := separate_of_some settings g hopened
  cases hbreaks : w.isRepeat settings.word g || s.repeated || w.isApart settings.word g with
  | true =>
    rw [hbreaks, if_pos rfl] at hseparate
    exact accept_of_separate_eq_close settings s g hseparate
  | false =>
    rw [hbreaks, if_neg (by simp)] at hseparate
    rw [Bool.or_eq_false_iff, Bool.or_eq_false_iff] at hbreaks
    obtain ⟨⟨hover, hfresh⟩, hapart⟩ := hbreaks
    cases hreversed : isReversed g with
    | true => exact accept_of_isReversed settings s g hseparate hreversed
    | false => exact absurd ⟨hopened, hfresh, hapart, hover, hreversed⟩ h

variable (settings s g)

theorem accept_cases
    : (∃ w, Joins settings s g w ∧ s.accept settings g = joined s g w) ∨
        ((∀ w, ¬ Joins settings s g w) ∧ s.accept settings g = begun settings s g) := by
  cases hopened : s.opened with
  | none =>
    right
    constructor
    . intro w hjoins
      have hsome := hjoins.opened
      rw [hopened] at hsome
      contradiction
    . apply accept_of_separate_eq_close
      exact separate_of_none settings g hopened
  | some w =>
    by_cases hjoins : Joins settings s g w
    . exact .inl ⟨w, hjoins, hjoins.accept⟩
    . right
      constructor
      . intro v hv
        rw [hv.eq_of_opened hopened] at hv
        exact hjoins hv
      . exact accept_of_not_joins hopened hjoins

end Step

section Carries

variable {α : Type} [Scalar α] {P : OpenWord α → Prop} {Q : Word α → Prop}
variable {settings : Settings α} {s : Segmenter α}

/-- A segmenter whose open word has one property and whose finished words have another. -/
structure Carries (P : OpenWord α → Prop) (Q : Word α → Prop) (s : Segmenter α) : Prop where
  opened : ∀ w, s.opened = some w → P w
  words : ∀ v ∈ s.words, Q v

/-- The properties of words that a segmenter carries on through every call. -/
structure Carried (settings : Settings α) (P : OpenWord α → Prop) (Q : Word α → Prop) : Prop where
  begin : ∀ g : Glyph α, g.isFinite = true → CharClass.breaksWord g.char = false →
    P (.ofGlyph (anchored g))
  join : ∀ (s : Segmenter α) (g : Glyph α) (w : OpenWord α), g.isFinite = true →
    CharClass.breaksWord g.char = false → P w → Joins settings s g w → P (w.push g)
  finish : ∀ (w : OpenWord α) (order : Nat) (v : Word α), P w → w.finish? order = some v → Q v

omit [Scalar α] in
theorem Carries.empty : (empty : Segmenter α).Carries P Q where
  opened := by simp [Segmenter.empty]
  words := by simp [Segmenter.empty, Segmenter.words]

theorem Carries.close (h : s.Carries P Q)
    (hfinish : ∀ (w : OpenWord α) (order : Nat) (v : Word α), P w → w.finish? order = some v → Q v)
    : s.close.Carries P Q where
  opened := by simp
  words := by
    unfold Segmenter.close
    cases hopened : s.opened with
    | none => exact h.words
    | some w =>
      dsimp only
      cases hword : w.finish? s.tally.words with
      | none => exact h.words
      | some word =>
        intro v hv
        simp only [Segmenter.words, List.reverse_cons, List.mem_append, List.mem_singleton] at hv
        rcases hv with hv | hv
        . exact h.words v hv
        . rw [hv]
          exact hfinish w _ word (h.opened w hopened) hword

namespace Carried

variable (hcarried : Carried settings P Q)
include hcarried

theorem close (h : s.Carries P Q) : s.close.Carries P Q :=
  h.close hcarried.finish

theorem accept (h : s.Carries P Q) {g : Glyph α} (hg : g.isFinite = true)
    (hvisible : CharClass.breaksWord g.char = false) : (s.accept settings g).Carries P Q := by
  rcases accept_cases settings s g with ⟨w, hjoins, haccept⟩ | ⟨_, haccept⟩
  . rw [haccept]
    refine ⟨?_, h.words⟩
    intro v hv
    injection hv with hv
    rw [← hv]
    exact hcarried.join s g w hg hvisible (h.opened w hjoins.opened) hjoins
  . rw [haccept]
    refine ⟨?_, (hcarried.close h).words⟩
    intro v hv
    injection hv with hv
    rw [← hv]
    exact hcarried.begin g hg hvisible

theorem push (page : Box α) (h : s.Carries P Q) (g : Glyph α)
    : (s.push page settings g).Carries P Q := by
  rw [push_eq_meet]
  generalize s.tally.note (isCounted page g) (fateAt page settings s.tally.tiny g) = tally
  have hnoted : (s.withTally tally).Carries P Q := ⟨h.opened, h.words⟩
  cases hfate : fateAt page settings s.tally.tiny g with
  | accepted =>
    obtain ⟨hg, _, hvisible⟩ := fateAt_eq_accepted hfate
    exact hcarried.accept hnoted hg hvisible
  | blank => exact hcarried.close hnoted
  | _ => exact hnoted

theorem foldl_call (page : Box α) (h : s.Carries P Q) (calls : List (Call α))
    : (calls.foldl (call page settings) s).Carries P Q := by
  induction calls generalizing s with
  | nil => exact h
  | cons c rest ih =>
    rw [List.foldl_cons]
    apply ih
    cases c with
    | push g => exact hcarried.push page h g
    | close => exact hcarried.close h

theorem of_mem_words (page : Box α) (calls : List (Call α))
    : ∀ w ∈ (after page settings calls).close.words, Q w :=
  (hcarried.close (hcarried.foldl_call page .empty calls)).words

end Carried

end Carries

end Segmenter

section Coherence

open Binary64

theorem advance_anchored {g : Glyph Float} (h : g.isFinite = true)
    : 0.0 ≤ g.direction.primary (Segmenter.anchored g).dx (Segmenter.anchored g).dy := by
  obtain ⟨_, _, hdx, hdy, _⟩ := Glyph.isFinite_fields h
  have hnumber := isNumber_of_isFinite (isFinite_primary hdx hdy g.direction)
  unfold Segmenter.anchored
  cases hreversed : Segmenter.isReversed g with
  | true =>
    rw [if_pos rfl]
    rw [Segmenter.isReversed_eq] at hreversed
    have hlt := of_decide_eq_true hreversed
    rw [lt_iff_rank_lt hnumber isNumber_zero, rank_zero] at hlt
    show 0.0 ≤ g.direction.primary (-g.dx) (-g.dy)
    rw [primary_neg, le_iff_rank_le isNumber_zero (isNumber_neg hnumber), rank_zero,
      rank_neg hnumber]
    omega
  | false =>
    rw [Segmenter.isReversed_eq] at hreversed
    rw [if_neg (by simp)]
    exact (not_lt_iff_le hnumber isNumber_zero).mp (of_decide_eq_false hreversed)

theorem rank_size_bound_nonneg : 0 ≤ rank (1e-3 : Float) := by
  decide +kernel

theorem abs_sub_self_le_size_bound {x : Float} (h : x.isFinite = true)
    : Scalar.abs (x - x) ≤ (1e-3 : Float) := by
  have hsub := isNumber_sub h h
  show (x - x).abs ≤ 1e-3
  rw [le_iff_rank_le (isNumber_abs hsub) OpenWord.Traces.isNumber_size_bound, rank_abs hsub,
    rank_sub_eq_zero h h rfl]
  exact rank_size_bound_nonneg

@[simp]
theorem Segmenter.anchored_direction (g : Glyph Float)
    : (anchored g).direction = g.direction := by
  unfold anchored
  split <;> rfl

@[simp]
theorem Segmenter.anchored_size (g : Glyph Float) : (anchored g).size = g.size := by
  unfold anchored
  split <;> rfl

theorem Coherent.anchored (tolerances : WordTolerances Float) {g : Glyph Float}
    (h : g.isFinite = true) (hvisible : CharClass.breaksWord g.char = false)
    : Coherent tolerances ((Segmenter.anchored g).baseline (Segmenter.anchored g).direction)
        (Segmenter.anchored g).size (Segmenter.anchored g).direction (Segmenter.anchored g).mode
        [Segmenter.anchored g] where
  directions := by simp
  modes := by simp
  sizes := by
    obtain ⟨_, _, _, _, hsize⟩ := Glyph.isFinite_fields h
    simpa using abs_sub_self_le_size_bound hsize
  advances := by
    have hadvance := advance_anchored h
    simpa using hadvance
  visible := by simpa using hvisible
  baselines := ⟨_, [], rfl, rfl, by simp⟩

theorem Coherent.concat {tolerances : WordTolerances Float} {first : Glyph Float}
    {rest : List (Glyph Float)} {g : Glyph Float}
    (h : Coherent tolerances (first.baseline first.direction) first.size first.direction first.mode
      (first :: rest))
    (hcontinues : Continues tolerances first rest g) (hg : g.isFinite = true)
    (hvisible : CharClass.breaksWord g.char = false) (hforward : Segmenter.isReversed g = false)
    : Coherent tolerances (first.baseline first.direction) first.size first.direction first.mode
        (first :: rest ++ [g]) where
  directions := by
    rw [List.forall_mem_append, List.forall_mem_singleton]
    exact ⟨h.directions, hcontinues.direction⟩
  modes := by
    rw [List.forall_mem_append, List.forall_mem_singleton]
    exact ⟨h.modes, hcontinues.mode⟩
  sizes := by
    rw [List.forall_mem_append, List.forall_mem_singleton]
    exact ⟨h.sizes, hcontinues.size⟩
  advances := by
    rw [List.forall_mem_append, List.forall_mem_singleton]
    refine ⟨h.advances, ?_⟩
    have hadvance := advance_anchored hg
    unfold Segmenter.anchored at hadvance
    rw [hforward, hcontinues.direction] at hadvance
    exact hadvance
  visible := by
    rw [List.forall_mem_append, List.forall_mem_singleton]
    exact ⟨h.visible, hvisible⟩
  baselines := by
    obtain ⟨first', rest', hglyphs, _, hrest⟩ := h.baselines
    injection hglyphs with hfirst hglyphs
    refine ⟨first, rest ++ [g], rfl, rfl, ?_⟩
    rw [List.forall_mem_append, List.forall_mem_singleton]
    rw [← hglyphs] at hrest
    exact ⟨hrest, hcontinues.baseline⟩

/-- An open word that has grown from its first glyph, all of one kind. -/
def OpenWord.Grown (tolerances : WordTolerances Float) (w : OpenWord Float) : Prop :=
  ∃ first rest, w.Traces first rest ∧
    Coherent tolerances (first.baseline first.direction) first.size first.direction first.mode
      (first :: rest)

theorem OpenWord.Grown.anchored (tolerances : WordTolerances Float) {g : Glyph Float}
    (h : g.isFinite = true) (hvisible : CharClass.breaksWord g.char = false)
    : (OpenWord.ofGlyph (Segmenter.anchored g)).Grown tolerances :=
  ⟨_, [], .ofGlyph (.anchored h), .anchored tolerances h hvisible⟩

theorem OpenWord.fields_of_finish? {w : OpenWord Float} {order : Nat} {word : Word Float}
    (h : w.finish? order = some word)
    : word.glyphs = w.glyphs ∧ word.base = w.base ∧ word.size = w.size ∧
        word.direction = w.direction ∧ word.mode = w.mode := by
  unfold finish? Word.ofParts? at h
  split at h
  . contradiction
  . injection h with h
    rw [← h]
    exact ⟨rfl, rfl, rfl, rfl, rfl⟩

theorem OpenWord.Grown.coherent {tolerances : WordTolerances Float} {w : OpenWord Float}
    (h : w.Grown tolerances) {order : Nat} {word : Word Float}
    (hfinish : w.finish? order = some word)
    : Coherent tolerances word.base word.size word.direction word.mode word.glyphs := by
  obtain ⟨first, rest, htraces, hcoherent⟩ := h
  obtain ⟨hglyphs, hbase, hsize, hdirection, hmode⟩ := fields_of_finish? hfinish
  rw [hglyphs, hbase, hsize, hdirection, hmode, htraces.glyphs, htraces.base, htraces.size,
    htraces.direction, htraces.mode]
  exact hcoherent

namespace Segmenter

/-- A segmenter whose words, the open one included, are each of one kind. -/
structure Tidy (tolerances : WordTolerances Float) (s : Segmenter Float) : Prop where
  opened : ∀ w, s.opened = some w → w.Grown tolerances
  words : ∀ v ∈ s.words, Coherent tolerances v.base v.size v.direction v.mode v.glyphs

theorem tidy_iff_carries {tolerances : WordTolerances Float} {s : Segmenter Float}
    : s.Tidy tolerances ↔ s.Carries (OpenWord.Grown tolerances)
        fun v => Coherent tolerances v.base v.size v.direction v.mode v.glyphs :=
  ⟨fun h => ⟨h.opened, h.words⟩, fun h => ⟨h.opened, h.words⟩⟩

theorem Tidy.close {tolerances : WordTolerances Float} {s : Segmenter Float}
    (h : s.Tidy tolerances) : s.close.Tidy tolerances := by
  rw [tidy_iff_carries] at *
  exact h.close fun w order v hgrown hfinish => hgrown.coherent hfinish

section Finite

variable {settings : Settings Float} {s : Segmenter Float}
variable (hoverlap : settings.word.overlap.isFinite = true)
variable (hgap : settings.word.gap.isFinite = true) (hdrift : settings.word.drift.isFinite = true)
include hoverlap hgap hdrift

theorem carried_grown
    : Carried settings (OpenWord.Grown settings.word)
        fun v => Coherent settings.word v.base v.size v.direction v.mode v.glyphs where
  begin := fun g hg hvisible => .anchored settings.word hg hvisible
  join := by
    intro s g w hg hvisible hgrown hjoins
    obtain ⟨first, rest, htraces, hcoherent⟩ := hgrown
    have hcontinues := (htraces.isApart_eq_false_iff hoverlap hgap hdrift hg).mp hjoins.apart
    exact ⟨first, rest ++ [g], htraces.push (.of_isFinite hg),
      hcoherent.concat hcontinues hg hvisible hjoins.forward⟩
  finish := fun w order v hgrown hfinish => hgrown.coherent hfinish

theorem Tidy.push (page : Box Float) (h : s.Tidy settings.word) (g : Glyph Float)
    : (s.push page settings g).Tidy settings.word := by
  rw [tidy_iff_carries] at *
  exact (carried_grown hoverlap hgap hdrift).push page h g

end Finite

end Segmenter

end Coherence

end Galley
