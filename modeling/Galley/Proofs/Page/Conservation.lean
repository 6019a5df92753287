import Galley.Proofs.Content.Emission
import Galley.Proofs.Page.Storage

/-!
This module contains the account of a whole page: each shown glyph is in exactly one word or was
left out for exactly one reason.
-/

namespace Galley

variable {α : Type} [Scalar α]

omit [Scalar α] in
def Content.Event.call? : Content.Event α → Option (Segmenter.Call α)
  | .glyph g => some (.push g)
  | .textEnd => some .close
  | .warning _ => none

omit [Scalar α] in
theorem Content.filterMap_glyph?_call? (events : List (Content.Event α))
    : (events.filterMap Event.call?).filterMap Segmenter.Call.glyph? = glyphsIn events := by
  rw [List.filterMap_filterMap]
  unfold glyphsIn
  congr
  funext event
  cases event <;> rfl

namespace Collector

theorem segmenter_foldl_accept (page : Box α) (settings : Settings α) (c : Collector α)
    (events : List (Content.Event α))
    : (events.foldl (accept page settings) c).segmenter =
        (events.filterMap Content.Event.call?).foldl (Segmenter.call page settings)
          c.segmenter := by
  induction events generalizing c with
  | nil => rfl
  | cons event rest ih =>
    rw [List.foldl_cons, ih]
    cases event with
    | glyph g =>
      obtain ⟨reported, warnings, hcheck⟩ :=
        exists_checkLimit_eq settings (c.advance settings (c.segmenter.push page settings g))
      rw [accept, hcheck]
      rfl
    | textEnd => rfl
    | warning w =>
      obtain ⟨warnings, hwarn⟩ := exists_warn_eq settings c w
      rw [accept, hwarn]
      rfl

end Collector

theorem glyphsOf_eq_glyphsIn (fonts : FontBook α) (form : Normalization) (sheet : Sheet α)
    (ops : List (Content.Operator α))
    : glyphsOf fonts form sheet ops =
        Content.glyphsIn (Content.events ⟨fonts, form⟩ sheet ops) := by
  rfl

namespace Page

variable (fonts : FontBook α) (sheet : Sheet α) (settings : Settings α)
variable (ops : List (Content.Operator α))

/-- The calls with which a page makes its words. -/
def calls : List (Segmenter.Call α) :=
  (Content.events ⟨fonts, settings.form⟩ sheet ops).filterMap Content.Event.call?

theorem filterMap_glyph?_calls
    : (calls fonts sheet settings ops).filterMap Segmenter.Call.glyph? =
        glyphsOf fonts settings.form sheet ops := by
  unfold calls
  rw [Content.filterMap_glyph?_call?, glyphsOf_eq_glyphsIn]

/-- The segmenter of a page when the last word is closed. -/
def segmented : Segmenter α :=
  (Segmenter.after sheet.bounds settings (calls fonts sheet settings ops)).close

theorem segmented_eq
    : segmented fonts sheet settings ops =
        ((Content.events ⟨fonts, settings.form⟩ sheet ops).foldl
          (Collector.accept sheet.bounds settings) (.empty settings)).segmenter.close := by
  rw [Collector.segmenter_foldl_accept]
  rfl

theorem tally_ofOperators
    : (ofOperators fonts sheet settings ops).tally =
        (segmented fonts sheet settings ops).tally := by
  rw [segmented_eq]
  rfl

theorem segmented_accounts
    : Segmenter.Accounts sheet.bounds settings (segmented fonts sheet settings ops)
        (glyphsOf fonts settings.form sheet ops) := by
  rw [← filterMap_glyph?_calls]
  apply Segmenter.Accounts.close
  apply Segmenter.after_accounts

/-- Whichever place the settings chose for the words, they are all there. -/
theorem holds_ofOperators
    : (ofOperators fonts sheet settings ops).Holds (segmented fonts sheet settings ops).words := by
  have hempty := Collector.Filed.empty settings
  have hfiled := (hempty.foldl_accept sheet.bounds
    (Content.events ⟨fonts, settings.form⟩ sheet ops)).close
  constructor
  . rw [segmented_eq]
    exact hfiled.store
  . have horders := (segmented_accounts fonts sheet settings ops).sound.orders
    have hlength := congrArg List.length horders
    rw [List.length_map, List.length_range] at hlength
    rw [horders, hlength]

theorem drawn_ofOperators
    : (ofOperators fonts sheet settings ops).drawn =
        (segmented fonts sheet settings ops).words :=
  (holds_ofOperators fonts sheet settings ops).drawn_eq

theorem words_pools_ofOperators_perm
    : (ofOperators fonts sheet settings ops).pools.words.Perm
        (ofOperators fonts sheet settings ops).drawn := by
  rw [drawn_ofOperators]
  exact (holds_ofOperators fonts sheet settings ops).words_pools_perm

end Page

namespace Segmenter

end Segmenter

namespace Page

end Page
end Galley
