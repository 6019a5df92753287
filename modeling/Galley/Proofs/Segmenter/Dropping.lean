import Galley.Proofs.Page.Storage
import Galley.Proofs.Segmenter.Joining

/-!
This module contains what dropped glyphs leave behind, which is nothing but their count: without
them the same words are opened, continued and finished, and of all later glyphs the same are
dropped.
-/

namespace Galley

namespace Tally

/-- How many glyphs were dropped. -/
def dropped (t : Tally) : Nat := t.nonFinite + t.offPage + t.tinyDropped

end Tally

namespace Segmenter

/-- Whether a glyph of this fate is left out altogether. A blank one is not: it ends a word. -/
def Fate.isDropped : Fate → Bool
  | .nonFinite | .offPage | .tinyDropped => true
  | .accepted | .blank => false

variable {α : Type} [Scalar α]

/-- Whether a call that comes behind `earlier` glyphs pushes a glyph that is dropped. -/
def Call.isDropped (page : Box α) (settings : Settings α) (earlier : List (Glyph α)) :
    Call α → Bool
  | .push g => (fate page settings earlier g).isDropped
  | .close => false

/-- These calls, which come behind `earlier` glyphs, without the glyphs that are dropped. -/
def withoutDropped (page : Box α) (settings : Settings α) (earlier : List (Glyph α)) :
    List (Call α) → List (Call α)
  | [] => []
  | c :: rest =>
    let rest := withoutDropped page settings (earlier ++ c.glyph?.toList) rest
    if c.isDropped page settings earlier then rest else c :: rest

/-- The finished words in the place where the settings want them. -/
def stored (settings : Settings α) (s : Segmenter α) : WordStore α :=
  s.words.foldl (WordStore.put settings) (.empty settings.bucketHeight)

omit [Scalar α] in
/-- Two states with the same words, which treat a glyph that both accept alike. -/
structure SameWords (s t : Segmenter α) : Prop where
  opened : t.opened = s.opened
  repeated : t.repeated = s.repeated
  finished : t.finished = s.finished
  accepted : t.tally.accepted = s.tally.accepted
  blank : t.tally.blank = s.tally.blank
  words : t.tally.words = s.tally.words

namespace SameWords

variable {s t : Segmenter α}

omit [Scalar α] in
theorem refl (s : Segmenter α) : SameWords s s :=
  ⟨rfl, rfl, rfl, rfl, rfl, rfl⟩

omit [Scalar α] in
theorem symm (h : SameWords s t) : SameWords t s :=
  ⟨h.opened.symm, h.repeated.symm, h.finished.symm, h.accepted.symm, h.blank.symm, h.words.symm⟩

omit [Scalar α] in
theorem trans {u : Segmenter α} (h : SameWords s t) (h' : SameWords t u) : SameWords s u where
  opened := h'.opened.trans h.opened
  repeated := h'.repeated.trans h.repeated
  finished := h'.finished.trans h.finished
  accepted := h'.accepted.trans h.accepted
  blank := h'.blank.trans h.blank
  words := h'.words.trans h.words

theorem stored (h : SameWords s t) (settings : Settings α)
    : t.stored settings = s.stored settings := by
  unfold Segmenter.stored Segmenter.words
  rw [h.finished]

theorem close (h : SameWords s t) : SameWords s.close t.close := by
  unfold Segmenter.close
  simp only [h.opened, h.words]
  cases s.opened with
  | none => exact h
  | some w =>
    dsimp only
    cases w.finish? s.tally.words with
    | none => exact ⟨rfl, h.repeated, h.finished, h.accepted, h.blank, h.words⟩
    | some word =>
      refine ⟨rfl, h.repeated, ?_, h.accepted, h.blank, rfl⟩
      dsimp only
      rw [h.finished]

theorem joins (h : SameWords s t) {settings : Settings α} {g : Glyph α} {w : OpenWord α}
    (hjoins : Joins settings s g w) : Joins settings t g w where
  opened := h.opened.trans hjoins.opened
  fresh := h.repeated.trans hjoins.fresh
  apart := hjoins.apart
  single := hjoins.single
  forward := hjoins.forward

theorem joined (h : SameWords s t) (g : Glyph α) (w : OpenWord α)
    : SameWords (s.joined g w) (t.joined g w) :=
  ⟨rfl, rfl, h.finished, congrArg (· + 1) h.accepted, h.blank, h.words⟩

theorem begun (h : SameWords s t) (settings : Settings α) (g : Glyph α)
    : SameWords (begun settings s g) (begun settings t g) := by
  have hclose := h.close
  refine ⟨rfl, ?_, hclose.finished, congrArg (· + 1) hclose.accepted, hclose.blank, hclose.words⟩
  show repeatsLast settings t g = repeatsLast settings s g
  unfold repeatsLast
  rw [h.opened]

theorem accept (h : SameWords s t) (settings : Settings α) (g : Glyph α)
    : SameWords (s.accept settings g) (t.accept settings g) := by
  rcases accept_cases settings s g with ⟨w, hjoins, haccept⟩ | ⟨hapart, haccept⟩
  . rw [haccept, (h.joins hjoins).accept]
    exact h.joined g w
  . rcases accept_cases settings t g with ⟨w, hjoins, _⟩ | ⟨_, haccept'⟩
    . exact absurd (h.symm.joins hjoins) (hapart w)
    . rw [haccept, haccept']
      exact h.begun settings g

omit [Scalar α] in
theorem note (h : SameWords s t) (isCounted : Bool) (fate : Fate)
    : SameWords (s.withTally (s.tally.note isCounted fate))
        (t.withTally (t.tally.note isCounted fate)) := by
  cases fate with
  | blank => exact ⟨h.opened, h.repeated, h.finished, h.accepted, congrArg (· + 1) h.blank, h.words⟩
  | _ => exact ⟨h.opened, h.repeated, h.finished, h.accepted, h.blank, h.words⟩

theorem meet (h : SameWords s t) (settings : Settings α) (g : Glyph α) (fate : Fate)
    : SameWords (s.meet settings g fate) (t.meet settings g fate) := by
  cases fate with
  | accepted => exact h.accept settings g
  | blank => exact h.close
  | _ => exact h

end SameWords

section Push

variable (page : Box α) (settings : Settings α) (s : Segmenter α) (g : Glyph α)

theorem fateAt_min (tiny : Nat)
    : fateAt page settings (min tiny settings.tinyLimit) g = fateAt page settings tiny g := by
  have hlimit : settings.tinyLimit ≤ min tiny settings.tinyLimit ↔ settings.tinyLimit ≤ tiny := by
    omega
  unfold fateAt
  simp only [hlimit]

variable {page settings s g}

theorem fateAt_of_isCounted (h : isCounted page g = true) (tiny : Nat)
    : fateAt page settings tiny g =
        if settings.tinyLimit ≤ tiny then .tinyDropped
        else if CharClass.breaksWord g.char then .blank
        else .accepted := by
  have hplace := h
  rw [isCounted_eq] at hplace
  simp only [Bool.and_eq_true, Bool.not_eq_true'] at hplace
  obtain ⟨⟨hfinite, hpage⟩, _⟩ := hplace
  unfold fateAt
  rw [hfinite, hpage, h]
  simp

theorem isDropped_of_isCounted (h : isCounted page g = true) (tiny : Nat)
    : (fateAt page settings tiny g).isDropped = decide (settings.tinyLimit ≤ tiny) := by
  rw [fateAt_of_isCounted h]
  by_cases hlimit : settings.tinyLimit ≤ tiny
  . simp [hlimit, Fate.isDropped]
  . by_cases hblank : CharClass.breaksWord g.char
    . simp [hlimit, hblank, Fate.isDropped]
    . simp [hlimit, hblank, Fate.isDropped]

theorem isCounted_eq_false_of_isDropped {tiny : Nat}
    (h : (fateAt page settings tiny g).isDropped = true)
    (hne : fateAt page settings tiny g ≠ .tinyDropped) : isCounted page g = false := by
  cases hcounted : isCounted page g with
  | false => rfl
  | true =>
    rw [isDropped_of_isCounted hcounted, decide_eq_true_iff] at h
    rw [fateAt_of_isCounted hcounted, if_pos h] at hne
    contradiction

theorem push_eq_withTally_of_isDropped
    (h : (fateAt page settings s.tally.tiny g).isDropped = true)
    : s.push page settings g =
        s.withTally (s.tally.note (isCounted page g) (fateAt page settings s.tally.tiny g)) := by
  rw [push_eq_meet]
  cases hfate : fateAt page settings s.tally.tiny g with
  | accepted => simp [hfate, Fate.isDropped] at h
  | blank => simp [hfate, Fate.isDropped] at h
  | _ => rfl

theorem sameWords_push_of_isDropped
    (h : (fateAt page settings s.tally.tiny g).isDropped = true)
    : SameWords s (s.push page settings g) := by
  rw [push_eq_withTally_of_isDropped h]
  cases hfate : fateAt page settings s.tally.tiny g with
  | blank => simp [hfate, Fate.isDropped] at h
  | _ => exact ⟨rfl, rfl, rfl, rfl, rfl, rfl⟩

variable (page settings s g)

theorem dropped_push
    : (s.push page settings g).tally.dropped =
        s.tally.dropped + (fateAt page settings s.tally.tiny g).isDropped.toNat := by
  have hnonFinite := count_push page settings s g .nonFinite
  have hoffPage := count_push page settings s g .offPage
  have htinyDropped := count_push page settings s g .tinyDropped
  simp only [Tally.count] at hnonFinite hoffPage htinyDropped
  unfold Tally.dropped
  rw [hnonFinite, hoffPage, htinyDropped]
  cases fateAt page settings s.tally.tiny g <;> simp [Fate.isDropped] <;> omega

theorem dropped_close : s.close.tally.dropped = s.tally.dropped := by
  obtain ⟨words, hwords⟩ := tally_close s
  rw [hwords]
  rfl

end Push

/-- A state and another one that knows nothing of dropped glyphs. It has counted tiny glyphs only as
far as they are let through, which is all that decides on the next one. -/
structure Shadows (settings : Settings α) (s t : Segmenter α) : Prop where
  words : SameWords s t
  tiny : t.tally.tiny = min s.tally.tiny settings.tinyLimit
  dropped : t.tally.dropped = 0

namespace Shadows

variable {page : Box α} {settings : Settings α} {s t : Segmenter α} {g : Glyph α}

omit [Scalar α] in
theorem empty (settings : Settings α) : Shadows settings (.empty : Segmenter α) .empty where
  words := .refl _
  tiny := (Nat.zero_min _).symm
  dropped := by rfl

theorem close (h : Shadows settings s t) : Shadows settings s.close t.close where
  words := h.words.close
  tiny := by rw [(tally_close_counts t).2.1, (tally_close_counts s).2.1, h.tiny]
  dropped := by rw [dropped_close, h.dropped]

theorem push_of_isDropped (h : Shadows settings s t)
    (hdropped : (fateAt page settings s.tally.tiny g).isDropped = true)
    : Shadows settings (s.push page settings g) t where
  words := (sameWords_push_of_isDropped hdropped).symm.trans h.words
  tiny := by
    rw [tiny_push, h.tiny]
    cases hcounted : isCounted page g with
    | false => rfl
    | true =>
      rw [isDropped_of_isCounted hcounted, decide_eq_true_iff] at hdropped
      rw [Bool.toNat_true]
      omega
  dropped := h.dropped

theorem push (h : Shadows settings s t)
    (hkept : (fateAt page settings s.tally.tiny g).isDropped = false)
    : Shadows settings (s.push page settings g) (t.push page settings g) := by
  have hfate : fateAt page settings t.tally.tiny g = fateAt page settings s.tally.tiny g := by
    rw [h.tiny, fateAt_min]
  constructor
  . rw [push_eq_meet, push_eq_meet, hfate]
    exact (h.words.note _ _).meet settings g _
  . rw [tiny_push, tiny_push, h.tiny]
    cases hcounted : isCounted page g with
    | false => rfl
    | true =>
      rw [isDropped_of_isCounted hcounted, decide_eq_false_iff_not] at hkept
      rw [Bool.toNat_true]
      omega
  . rw [dropped_push, h.dropped, hfate, hkept]
    rfl

theorem foldl_call (h : Shadows settings s t) {earlier : List (Glyph α)}
    (htiny : s.tally.tiny = earlier.countP (isCounted page)) (calls : List (Call α))
    : Shadows settings (calls.foldl (call page settings) s)
        ((withoutDropped page settings earlier calls).foldl (call page settings) t) := by
  induction calls generalizing s t earlier with
  | nil => exact h
  | cons c rest ih =>
    rw [List.foldl_cons, withoutDropped]
    cases c with
    | close =>
      apply ih h.close
      rw [(tally_close_counts s).2.1, htiny]
      simp [Call.glyph?]
    | push g =>
      have hnext : (s.push page settings g).tally.tiny =
          (earlier ++ [g]).countP (isCounted page) := by
        rw [tiny_push, htiny, List.countP_append]
        cases hcounted : isCounted page g <;> simp [hcounted]
      have hfate : (Call.push g).isDropped page settings earlier =
          (fateAt page settings s.tally.tiny g).isDropped := by
        rw [htiny]
        rfl
      rw [hfate]
      cases hdropped : (fateAt page settings s.tally.tiny g).isDropped with
      | true => exact ih (h.push_of_isDropped hdropped) hnext
      | false => exact ih (h.push hdropped) hnext

end Shadows

section Calls

variable (page : Box α) (settings : Settings α)

theorem after_shadows (calls : List (Call α))
    : Shadows settings (after page settings calls)
        (after page settings (withoutDropped page settings [] calls)) :=
  (Shadows.empty settings).foldl_call rfl calls

theorem withoutDropped_append (earlier : List (Glyph α)) (before behind : List (Call α))
    : withoutDropped page settings earlier (before ++ behind) =
        withoutDropped page settings earlier before ++
          withoutDropped page settings (earlier ++ before.filterMap Call.glyph?) behind := by
  induction before generalizing earlier with
  | nil => simp [withoutDropped]
  | cons c rest ih =>
    have hglyphs : (c :: rest).filterMap Call.glyph? =
        c.glyph?.toList ++ rest.filterMap Call.glyph? := by
      cases c <;> rfl
    rw [List.cons_append, withoutDropped, ih, withoutDropped, hglyphs, List.append_assoc]
    split <;> rfl

theorem withoutDropped_sublist (earlier : List (Glyph α)) (calls : List (Call α))
    : (withoutDropped page settings earlier calls).Sublist calls := by
  induction calls generalizing earlier with
  | nil => exact .slnil
  | cons c rest ih =>
    rw [withoutDropped]
    split
    . exact (ih _).cons _
    . exact (ih _).cons_cons _

theorem dropped_call (before : List (Call α)) (c : Call α)
    : (call page settings (after page settings before) c).tally.dropped =
        (after page settings before).tally.dropped +
          (c.isDropped page settings (before.filterMap Call.glyph?)).toNat := by
  cases c with
  | close => exact dropped_close _
  | push g =>
    unfold call Call.isDropped fate
    rw [dropped_push, (after_accounts page settings before).tiny]

theorem length_withoutDropped (calls : List (Call α))
    : (withoutDropped page settings [] calls).length +
        (after page settings calls).tally.dropped = calls.length := by
  induction calls using List.reverseRecOn with
  | nil => rfl
  | append_singleton before c ih =>
    have hafter : after page settings (before ++ [c]) =
        call page settings (after page settings before) c := by
      unfold after
      rw [List.foldl_append]
      rfl
    rw [hafter, dropped_call, withoutDropped_append, List.nil_append, List.length_append,
      List.length_append, ← ih]
    simp only [withoutDropped]
    cases c.isDropped page settings (before.filterMap Call.glyph?) with
    | true =>
      simp
      omega
    | false =>
      simp
      omega

end Calls

theorem after_withoutDropped (page : Box α) (settings : Settings α) (calls : List (Call α))
    : let kept := withoutDropped page settings [] calls
      let s := after page settings calls
      let t := after page settings kept
      (kept.Sublist calls ∧
        kept.length + (s.tally.nonFinite + s.tally.offPage + s.tally.tinyDropped) = calls.length) ∧
      (∀ k, withoutDropped page settings [] (calls.take k) <+: kept ∧
        SameWords (after page settings (calls.take k))
          (after page settings (withoutDropped page settings [] (calls.take k)))) ∧
      (t.close.stored settings = s.close.stored settings ∧ SameWords s.close t.close ∧
        t.tally.nonFinite + t.tally.offPage + t.tally.tinyDropped = 0) ∧
      ∀ (u : Segmenter α) (g : Glyph α), (fateAt page settings u.tally.tiny g).isDropped = true →
        SameWords u (u.push page settings g) ∧
          (fateAt page settings u.tally.tiny g ≠ .tinyDropped →
            (u.push page settings g).tally.tiny = u.tally.tiny) := by
  intro kept s t
  have hshadows := after_shadows page settings calls
  refine ⟨⟨?_, ?_⟩, ?_, ⟨?_, ?_, ?_⟩, ?_⟩
  . exact withoutDropped_sublist page settings [] calls
  . exact length_withoutDropped page settings calls
  . intro k
    refine ⟨?_, (after_shadows page settings (calls.take k)).words⟩
    have happend := withoutDropped_append page settings [] (calls.take k) (calls.drop k)
    rw [List.take_append_drop] at happend
    exact ⟨_, happend.symm⟩
  . exact hshadows.words.close.stored settings
  . exact hshadows.words.close
  . exact hshadows.dropped
  . intro u g hdropped
    refine ⟨sameWords_push_of_isDropped hdropped, ?_⟩
    intro hne
    rw [tiny_push, isCounted_eq_false_of_isDropped hdropped hne]
    rfl

/-- A speck where the letter after it begins. -/
def speck : Glyph Float := ⟨'.', 46, 1, 110.0, 700.0, 1.0, 0.0, 12.0, .right, .horizontal, "F1"⟩

def speckled : List (Call Float) :=
  [.push { speck with char := 'a', x := 100.0, dx := 10.0 }, .push speck,
    .push { speck with char := 'b', dx := 10.0 }]

theorem after_withoutDropped_speckled
    : let page : Box Float := ⟨0.0, 0.0, 612.0, 792.0⟩
      let settings : Settings Float := { Settings.default with tinyLimit := 0 }
      let s := after page settings speckled
      let t := after page settings (withoutDropped page settings [] speckled)
      (withoutDropped page settings [] speckled).length = 2 ∧
        s.close.words.map Word.text = ["ab"] ∧ SameWords s.close t.close ∧
        Call.push speck ∈ speckled ∧
        (fateAt page settings s.tally.tiny speck).isDropped = true ∧
        SameWords s (s.push page settings speck) := by
  intro page settings s t
  have hall := after_withoutDropped page settings speckled
  have hdropped : (fateAt page settings s.tally.tiny speck).isDropped = true := by decide +kernel
  refine ⟨by decide +kernel, by decide +kernel, hall.2.2.1.2.1, ?_, hdropped, ?_⟩
  . simp [speckled]
  . exact (hall.2.2.2 s speck hdropped).1

end Segmenter
end Galley
