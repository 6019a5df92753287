import Galley.Proofs.Segmenter.Account

/-!
This module contains the limit of tiny glyphs: it drops those that come behind the first ones, as
many as it lets through, and has no say in what becomes of any other glyph.
-/

namespace Galley

namespace Segmenter

variable {α : Type} [Scalar α]

/-- What becomes of a glyph where tiny glyphs are like all others. -/
def plainFate (page : Box α) (g : Glyph α) : Fate :=
  if !g.isFinite then .nonFinite
  else if isOffPage page g then .offPage
  else if CharClass.breaksWord g.char then .blank
  else .accepted

/-- Take in a glyph without a limit of tiny glyphs, which are only counted. -/
def pushFreely (page : Box α) (settings : Settings α) (s : Segmenter α) (g : Glyph α) :
    Segmenter α :=
  (s.withTally (s.tally.note (isCounted page g) (plainFate page g))).meet settings g
    (plainFate page g)

omit [Scalar α] in
/-- Leave a tiny glyph out. -/
def dropTiny (s : Segmenter α) : Segmenter α := s.withTally (s.tally.note true .tinyDropped)

section Limit

variable (page : Box α) (settings : Settings α) (tiny : Nat) (g : Glyph α)

theorem plainFate_ne_tinyDropped : plainFate page g ≠ .tinyDropped := by
  unfold plainFate
  split
  . decide
  . split
    . decide
    . split <;> decide

theorem fateAt_eq_ite
    : fateAt page settings tiny g
        =
      if isCounted page g = true ∧ settings.tinyLimit ≤ tiny then .tinyDropped
      else plainFate page g := by
  unfold fateAt plainFate
  rw [isCounted_eq]
  by_cases hfinite : g.isFinite = true
  . by_cases hpage : isOffPage page g = true
    . simp [hfinite, hpage]
    . by_cases htiny : isTiny g = true
      . simp [hfinite, hpage, htiny]
      . simp [hfinite, hpage, htiny]
  . simp [hfinite]

theorem fateAt_eq_tinyDropped_iff
    : fateAt page settings tiny g = .tinyDropped ↔
        isCounted page g = true ∧ settings.tinyLimit ≤ tiny := by
  rw [fateAt_eq_ite]
  split
  . next h => exact iff_of_true rfl h
  . next h => exact iff_of_false (plainFate_ne_tinyDropped page g) h

theorem push_eq_ite (s : Segmenter α)
    : s.push page settings g
        =
      if isCounted page g = true ∧ settings.tinyLimit ≤ s.tally.tiny then s.dropTiny
      else s.pushFreely page settings g := by
  rw [push_eq_meet, fateAt_eq_ite]
  split
  . next h =>
    rw [h.1]
    rfl
  . rfl

end Limit

/-- As many tiny glyphs were dropped as there were too many. -/
def DropsExcess (settings : Settings α) (s : Segmenter α) : Prop :=
  s.tally.tinyDropped = s.tally.tiny - settings.tinyLimit

namespace DropsExcess

variable {settings : Settings α} {s : Segmenter α}

omit [Scalar α] in
theorem limitReached_iff (h : DropsExcess settings s)
    : s.limitReached settings = true ↔ 0 < s.tally.tinyDropped := by
  unfold limitReached
  rw [decide_eq_true_iff, h]
  omega

theorem close (h : DropsExcess settings s) : DropsExcess settings s.close := by
  obtain ⟨_, htiny, hcount⟩ := tally_close_counts s
  have hdropped := hcount .tinyDropped
  unfold DropsExcess at *
  rw [htiny, ← h]
  exact hdropped

theorem push (h : DropsExcess settings s) (page : Box α) (g : Glyph α)
    : DropsExcess settings (s.push page settings g) := by
  have hdropped := count_push page settings s g .tinyDropped
  simp only [Tally.count, fateAt_eq_tinyDropped_iff] at hdropped
  unfold DropsExcess at *
  rw [hdropped, tiny_push, h]
  cases hcounted : isCounted page g with
  | false => simp
  | true =>
    simp only [true_and, Bool.toNat_true]
    split <;> omega

theorem call (h : DropsExcess settings s) (page : Box α) (c : Call α)
    : DropsExcess settings (s.call page settings c) := by
  cases c with
  | push g => exact h.push page g
  | close => exact h.close

theorem foldl_call (h : DropsExcess settings s) (page : Box α) (calls : List (Call α))
    : DropsExcess settings (calls.foldl (Segmenter.call page settings) s) := by
  induction calls generalizing s with
  | nil => exact h
  | cons c rest ih => exact ih (h.call page c)

end DropsExcess

theorem after_dropsExcess (page : Box α) (settings : Settings α) (calls : List (Call α))
    : DropsExcess settings (after page settings calls) := by
  have hempty : DropsExcess settings (empty : Segmenter α) := (Nat.zero_sub _).symm
  exact hempty.foldl_call page calls

end Segmenter
end Galley
