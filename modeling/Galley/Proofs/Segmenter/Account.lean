import Galley.Proofs.Segmenter.Flow

/-!
This module contains the account that a segmenter keeps of its glyphs: after any calls its counters
are the numbers of glyphs of each fate, and its words hold the accepted glyphs in their order.
-/

namespace Galley

namespace Tally

@[simp]
theorem words_note (t : Tally) (isCounted : Bool) (fate : Segmenter.Fate)
    : (t.note isCounted fate).words = t.words := by
  cases fate <;> rfl

@[simp]
theorem seen_note (t : Tally) (isCounted : Bool) (fate : Segmenter.Fate)
    : (t.note isCounted fate).seen = t.seen + 1 := by
  cases fate <;> rfl

@[simp]
theorem tiny_note (t : Tally) (isCounted : Bool) (fate : Segmenter.Fate)
    : (t.note isCounted fate).tiny = t.tiny + isCounted.toNat := by
  cases fate <;> rfl

theorem count_note (t : Tally) (isCounted : Bool) {fate f : Segmenter.Fate}
    (h : fate ≠ .accepted)
    : (t.note isCounted fate).count f = t.count f + if fate = f then 1 else 0 := by
  cases fate with
  | accepted => contradiction
  | _ => cases f <;> rfl

theorem count_note_accepted (t : Tally) (isCounted : Bool) (f : Segmenter.Fate)
    : (t.note isCounted .accepted).count f = t.count f := by
  cases f <;> rfl

end Tally

namespace Segmenter

variable {α : Type} [Scalar α]

theorem tally_close_counts (s : Segmenter α)
    : s.close.tally.seen = s.tally.seen ∧ s.close.tally.tiny = s.tally.tiny ∧
        ∀ f, s.close.tally.count f = s.tally.count f := by
  obtain ⟨words, hwords⟩ := tally_close s
  rw [hwords]
  refine ⟨rfl, rfl, ?_⟩
  intro f
  cases f <;> rfl

theorem tally_accept_counts (settings : Settings α) (s : Segmenter α) (g : Glyph α)
    : (s.accept settings g).tally.seen = s.tally.seen ∧
        (s.accept settings g).tally.tiny = s.tally.tiny ∧
        ∀ f, (s.accept settings g).tally.count f =
          s.tally.count f + if f = .accepted then 1 else 0 := by
  obtain ⟨words, hwords⟩ := tally_accept settings s g
  rw [hwords]
  refine ⟨rfl, rfl, ?_⟩
  intro f
  cases f <;> rfl

section Push

variable (page : Box α) (settings : Settings α) (s : Segmenter α) (g : Glyph α)

theorem seen_push : (s.push page settings g).tally.seen = s.tally.seen + 1 := by
  rw [push_eq_meet]
  generalize fateAt page settings s.tally.tiny g = fate
  cases fate with
  | accepted =>
    rw [meet, (tally_accept_counts settings _ g).1]
    simp [withTally]
  | blank =>
    rw [meet, (tally_close_counts _).1]
    simp [withTally]
  | _ => simp [meet, withTally]

theorem tiny_push
    : (s.push page settings g).tally.tiny = s.tally.tiny + (isCounted page g).toNat := by
  rw [push_eq_meet]
  generalize fateAt page settings s.tally.tiny g = fate
  cases fate with
  | accepted =>
    rw [meet, (tally_accept_counts settings _ g).2.1]
    simp [withTally]
  | blank =>
    rw [meet, (tally_close_counts _).2.1]
    simp [withTally]
  | _ => simp [meet, withTally]

theorem count_push (f : Fate)
    : (s.push page settings g).tally.count f =
        s.tally.count f + if fateAt page settings s.tally.tiny g = f then 1 else 0 := by
  rw [push_eq_meet]
  generalize fateAt page settings s.tally.tiny g = fate
  cases fate with
  | accepted =>
    rw [meet, (tally_accept_counts settings _ g).2.2]
    simp only [withTally]
    rw [Tally.count_note_accepted]
    simp only [eq_comm]
  | blank =>
    rw [meet, (tally_close_counts _).2.2]
    simp only [withTally]
    rw [Tally.count_note _ _ (by decide)]
  | _ =>
    simp only [meet, withTally]
    rw [Tally.count_note _ _ (by decide)]

variable {s}

theorem Sound.push (h : s.Sound) : (s.push page settings g).Sound := by
  rw [push_eq_meet]
  have hnoted : (s.withTally
      (s.tally.note (isCounted page g) (fateAt page settings s.tally.tiny g))).Sound := by
    apply h.withTally
    rw [Tally.words_note]
  cases hfate : fateAt page settings s.tally.tiny g with
  | accepted =>
    rw [hfate] at hnoted
    exact hnoted.accept settings g
  | blank =>
    rw [hfate] at hnoted
    exact hnoted.close
  | _ =>
    rw [hfate] at hnoted
    exact hnoted

theorem flow_push (h : s.Sound)
    : (s.push page settings g).flow =
        s.flow ++ if fateAt page settings s.tally.tiny g = .accepted then [anchored g] else [] := by
  rw [push_eq_meet]
  have hnoted : ∀ fate, (s.withTally (s.tally.note (isCounted page g) fate)).Sound := by
    intro fate
    apply h.withTally
    rw [Tally.words_note]
  cases fateAt page settings s.tally.tiny g with
  | accepted =>
    rw [meet, flow_accept (hnoted _), flow_withTally]
    simp
  | blank =>
    rw [meet, flow_close (hnoted _), flow_withTally]
    simp
  | _ =>
    simp only [meet]
    rw [flow_withTally]
    simp

end Push

/-- What a segmenter that was given these glyphs knows of them. -/
structure Accounts (page : Box α) (settings : Settings α) (s : Segmenter α)
    (glyphs : List (Glyph α)) : Prop where
  sound : s.Sound
  seen : s.tally.seen = glyphs.length
  tiny : s.tally.tiny = glyphs.countP (isCounted page)
  count : ∀ f, s.tally.count f = (judge page settings [] glyphs).countP fun p => p.2 == f
  flow : s.flow = (accepted page settings glyphs).map anchored

namespace Accounts

variable {page : Box α} {settings : Settings α} {s : Segmenter α} {glyphs : List (Glyph α)}

theorem empty : Accounts page settings Segmenter.empty [] where
  sound := Sound.empty
  seen := by rfl
  tiny := by rfl
  count := by
    intro f
    cases f <;> rfl
  flow := by rfl

theorem close (h : Accounts page settings s glyphs) : Accounts page settings s.close glyphs where
  sound := h.sound.close
  seen := by rw [(tally_close_counts s).1, h.seen]
  tiny := by rw [(tally_close_counts s).2.1, h.tiny]
  count := by
    intro f
    rw [(tally_close_counts s).2.2, h.count]
  flow := by rw [flow_close h.sound, h.flow]

theorem push (h : Accounts page settings s glyphs) (g : Glyph α)
    : Accounts page settings (s.push page settings g) (glyphs ++ [g]) := by
  have hfate : fateAt page settings s.tally.tiny g = fate page settings glyphs g := by
    rw [h.tiny]
    rfl
  constructor
  . exact h.sound.push page settings g
  . rw [seen_push, h.seen, List.length_append]
    rfl
  . rw [tiny_push, h.tiny, List.countP_append]
    cases hcounted : isCounted page g <;> simp [hcounted]
  . intro f
    rw [count_push, h.count, hfate, judge_concat, List.countP_append]
    by_cases hf : fate page settings glyphs g = f
    . simp [hf]
    . simp [hf]
  . rw [flow_push _ _ _ h.sound, h.flow, hfate, accepted_concat]
    by_cases haccepted : fate page settings glyphs g = .accepted
    . simp [haccepted]
    . simp [haccepted]

theorem foldl_call (h : Accounts page settings s glyphs) (calls : List (Call α))
    : Accounts page settings (calls.foldl (call page settings) s)
        (glyphs ++ calls.filterMap Call.glyph?) := by
  induction calls generalizing s glyphs with
  | nil => simpa using h
  | cons c rest ih =>
    rw [List.foldl_cons]
    cases c with
    | push g =>
      have hstep := ih (h.push g)
      simp only [List.append_assoc, List.singleton_append] at hstep
      exact hstep
    | close => exact ih h.close

end Accounts

theorem after_accounts (page : Box α) (settings : Settings α) (calls : List (Call α))
    : Accounts page settings (after page settings calls) (calls.filterMap Call.glyph?) := by
  have hempty : Accounts page settings Segmenter.empty [] := Accounts.empty
  have h := hempty.foldl_call calls
  rw [List.nil_append] at h
  exact h

theorem mem_accepted_of_mem_words {page : Box α} {settings : Settings α} {s : Segmenter α}
    {glyphs : List (Glyph α)} (h : Accounts page settings s glyphs) {w : Word α}
    (hw : w ∈ s.words) {g : Glyph α} (hg : g ∈ w.glyphs)
    : ∃ shown ∈ accepted page settings glyphs, g = anchored shown := by
  have hmem : g ∈ s.flow := by
    unfold flow
    apply List.mem_append_left
    exact List.mem_flatMap.mpr ⟨w, hw, hg⟩
  rw [h.flow] at hmem
  obtain ⟨shown, hshown, heq⟩ := List.mem_map.mp hmem
  exact ⟨shown, hshown, heq.symm⟩

theorem breaksWord_of_mem_words {page : Box α} {settings : Settings α} {s : Segmenter α}
    {glyphs : List (Glyph α)} (h : Accounts page settings s glyphs) {w : Word α}
    (hw : w ∈ s.words) {g : Glyph α} (hg : g ∈ w.glyphs)
    : CharClass.breaksWord g.char = false := by
  obtain ⟨shown, hshown, heq⟩ := mem_accepted_of_mem_words h hw hg
  rw [heq, anchored_char]
  exact breaksWord_of_mem_accepted hshown

end Segmenter
end Galley
