import Galley.Proofs.Content.Report
import Galley.Proofs.Page.Conservation
import Galley.Proofs.Segmenter.TinyLimit

/-!
This module contains how a page reports its limit of tiny glyphs: with the first glyph that is
dropped, and never again.
-/

namespace Galley

variable {α : Type} [Scalar α]

namespace Content

theorem RunState.warningsIn_resourceLimitReached_execute (setting : Setting α) (index : Nat)
    (s : RunState α) (command : Command α)
    : warningsIn .resourceLimitReached (s.execute setting index command).2 = [] := by
  cases command with
  | showText bytes => apply warningsIn_showString <;> decide
  | showTextArray items => apply warningsIn_showItems <;> decide
  | nextLineShowText bytes => apply warningsIn_showString <;> decide
  | nextLineShowSpaced wordSpacing charSpacing bytes => apply warningsIn_showString <;> decide
  | restore =>
    unfold execute
    dsimp only
    split <;> rfl
  | _ => rfl

/-- A run knows nothing of the limit, which is for the page to report. -/
theorem RunState.warningsIn_resourceLimitReached_run (setting : Setting α) (index : Nat)
    (s : RunState α) (ops : List (Operator α))
    : warningsIn .resourceLimitReached (s.run setting index ops).2 = [] := by
  induction ops generalizing s index with
  | nil => rfl
  | cons op rest ih =>
    simp only [run]
    rw [warningsIn_append, warningsIn_resourceLimitReached_execute, ih]
    rfl

end Content

namespace Segmenter

theorem limitReached_push {settings : Settings α} {s : Segmenter α}
    (h : s.limitReached settings = true) (page : Box α) (g : Glyph α)
    : (s.push page settings g).limitReached settings = true := by
  unfold limitReached at *
  rw [tiny_push]
  simp only [decide_eq_true_iff] at *
  omega

theorem limitReached_close (settings : Settings α) (s : Segmenter α)
    : s.close.limitReached settings = s.limitReached settings := by
  unfold limitReached
  rw [(tally_close_counts s).2.1]

end Segmenter

def limitWarnings (warnings : List Warning) : List Warning :=
  warnings.filter fun w => w.code = .resourceLimitReached

namespace Collector

omit [Scalar α] in
/-- Whether the limit was reported is whether it was passed, and there is one warning if so. -/
structure ReportsLimit (settings : Settings α) (c : Collector α) : Prop where
  reported : c.limitReported = c.segmenter.limitReached settings
  warnings : limitWarnings c.warnings =
    if settings.collectWarnings && c.limitReported then [.tinyGlyphs settings.tinyLimit] else []

omit [Scalar α] in
theorem limitWarnings_warn_tinyGlyphs (settings : Settings α) (c : Collector α) (limit : Nat)
    : limitWarnings (c.warn settings (.tinyGlyphs limit)).warnings
        =
      (if settings.collectWarnings then [.tinyGlyphs limit] else []) ++
        limitWarnings c.warnings := by
  unfold warn
  split
  . rfl
  . rfl

omit [Scalar α] in
theorem reportsLimit_checkLimit {settings : Settings α} {c : Collector α}
    (hreported : c.limitReported = true → c.segmenter.limitReached settings = true)
    (hwarnings : limitWarnings c.warnings =
      if settings.collectWarnings && c.limitReported then [.tinyGlyphs settings.tinyLimit] else [])
    : ReportsLimit settings (c.checkLimit settings) := by
  unfold checkLimit
  split
  . next h =>
    rw [Bool.and_eq_true, Bool.not_eq_true'] at h
    obtain ⟨hfirst, hreached⟩ := h
    obtain ⟨warnings, hwarn⟩ := exists_warn_eq settings { c with limitReported := true }
      (.tinyGlyphs settings.tinyLimit)
    constructor
    . rw [hwarn]
      exact hreached.symm
    . rw [limitWarnings_warn_tinyGlyphs, hwarnings, hfirst, hwarn]
      simp
  . next h =>
    refine ⟨?_, hwarnings⟩
    rw [Bool.and_eq_true, Bool.not_eq_true', not_and, Bool.not_eq_true] at h
    cases hfirst : c.limitReported with
    | true => exact (hreported hfirst).symm
    | false => exact (h hfirst).symm

namespace ReportsLimit

variable {settings : Settings α} {c : Collector α}

omit [Scalar α] in
theorem empty (settings : Settings α) : ReportsLimit settings (.empty settings) where
  reported := by simp [Collector.empty, Segmenter.limitReached, Segmenter.empty]
  warnings := by simp [Collector.empty, limitWarnings]

theorem close (h : c.ReportsLimit settings)
    : (c.advance settings c.segmenter.close).ReportsLimit settings where
  reported := h.reported.trans (c.segmenter.limitReached_close settings).symm
  warnings := h.warnings

theorem accept (h : c.ReportsLimit settings) (page : Box α) {event : Content.Event α}
    (hevent : Content.warningsIn .resourceLimitReached [event] = [])
    : (c.accept page settings event).ReportsLimit settings := by
  cases event with
  | glyph g =>
    have hpush : c.limitReported = true →
        (c.segmenter.push page settings g).limitReached settings = true := by
      intro hreported
      exact Segmenter.limitReached_push (h.reported.symm.trans hreported) page g
    exact reportsLimit_checkLimit (c := c.advance settings (c.segmenter.push page settings g))
      hpush h.warnings
  | textEnd => exact h.close
  | warning w =>
    have hcode : ¬w.code = .resourceLimitReached := by
      intro hcode
      rw [Content.warningsIn_warning, if_pos hcode] at hevent
      contradiction
    rw [Collector.accept]
    unfold warn
    split
    . refine ⟨h.reported, ?_⟩
      rw [← h.warnings]
      exact List.filter_cons_of_neg (by simpa using hcode)
    . exact h

theorem foldl_accept (h : c.ReportsLimit settings) (page : Box α)
    {events : List (Content.Event α)}
    (hevents : Content.warningsIn .resourceLimitReached events = [])
    : (events.foldl (Collector.accept page settings) c).ReportsLimit settings := by
  induction events generalizing c with
  | nil => exact h
  | cons event rest ih =>
    rw [← List.singleton_append, Content.warningsIn_append, List.append_eq_nil_iff] at hevents
    exact ih (h.accept page hevents.1) hevents.2

end ReportsLimit
end Collector

namespace Page

variable (fonts : FontBook α) (sheet : Sheet α) (settings : Settings α)
variable (ops : List (Content.Operator α))

theorem segmented_dropsExcess
    : Segmenter.DropsExcess settings (segmented fonts sheet settings ops) :=
  (Segmenter.after_dropsExcess sheet.bounds settings (calls fonts sheet settings ops)).close

theorem limitWarnings_ofOperators
    : limitWarnings (ofOperators fonts sheet settings ops).warnings
        =
      if settings.collectWarnings && (segmented fonts sheet settings ops).limitReached settings then
        [.tinyGlyphs settings.tinyLimit]
      else [] := by
  have hempty := Collector.ReportsLimit.empty settings
  have hgathered := (hempty.foldl_accept sheet.bounds
    (Content.RunState.warningsIn_resourceLimitReached_run ⟨fonts, settings.form⟩ 0
      (.initial sheet) ops)).close
  have hwarnings := hgathered.warnings
  rw [hgathered.reported] at hwarnings
  rw [segmented_eq]
  -- the warnings of a page are those gathered, turned round, and of this kind there is one at most
  apply Eq.trans (List.filter_reverse ..)
  apply Eq.trans (congrArg List.reverse hwarnings)
  rw [apply_ite List.reverse]
  rfl

theorem tinyGlyphs_capped (settings : Settings α)
    : (∀ (page : Box α) (calls : List (Segmenter.Call α)),
        let s := Segmenter.after page settings calls
        let counted := (calls.filterMap Segmenter.Call.glyph?).countP (Segmenter.isCounted page)
        s.tally.tiny = counted ∧
          s.tally.tinyDropped = counted - settings.tinyLimit ∧
          (s.limitReached settings = true ↔ 0 < s.tally.tinyDropped) ∧
          ∀ g, s.push page settings g
              =
            if Segmenter.isCounted page g = true ∧ settings.tinyLimit ≤ counted then s.dropTiny
            else s.pushFreely page settings g) ∧
      ∀ (fonts : FontBook α) (sheet : Sheet α) (ops : List (Content.Operator α)),
        let page := ofOperators fonts sheet settings ops
        page.tally.tinyDropped = page.tally.tiny - settings.tinyLimit ∧
          limitWarnings page.warnings
            =
          if settings.collectWarnings = true ∧ 0 < page.tally.tinyDropped then
            [.tinyGlyphs settings.tinyLimit]
          else [] := by
  constructor
  . intro page calls s counted
    have hexcess := Segmenter.after_dropsExcess page settings calls
    have htiny : s.tally.tiny = counted := (Segmenter.after_accounts page settings calls).tiny
    refine ⟨htiny, ?_, hexcess.limitReached_iff, ?_⟩
    . rw [← htiny]
      exact hexcess
    . intro g
      rw [← htiny]
      apply Segmenter.push_eq_ite
  . intro fonts sheet ops page
    have hexcess := segmented_dropsExcess fonts sheet settings ops
    have htally : page.tally = (segmented fonts sheet settings ops).tally := tally_ofOperators ..
    rw [htally]
    refine ⟨hexcess, ?_⟩
    rw [limitWarnings_ofOperators]
    simp only [Bool.and_eq_true, hexcess.limitReached_iff]

end Page
end Galley
