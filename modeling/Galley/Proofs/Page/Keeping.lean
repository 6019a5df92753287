import Galley.Proofs.Page.Conservation

/-!
This module contains what does not depend on the way in which words are kept, in stream order or in
pools and in buckets of whatever height: which words there are, the account of the glyphs, the
warnings, and how lines are turned into text.
-/

namespace Galley

variable {α : Type} [Scalar α]

namespace Settings

omit [Scalar α] in
/-- The same settings, with another way to keep the words. -/
def storing (settings : Settings α) (streamOrder : Bool) (bucketHeight : α) : Settings α :=
  { settings with streamOrder := streamOrder, bucketHeight := bucketHeight }

end Settings

namespace Rendering

variable (settings : Settings α) (streamOrder : Bool) (bucketHeight : α)

theorem linesAfter_storing (k : Line α) (lines : List (Line α))
    : linesAfter (settings.storing streamOrder bucketHeight) k lines =
        linesAfter settings k lines := by
  induction lines generalizing k with
  | nil => rfl
  | cons l rest ih =>
    unfold linesAfter
    rw [ih]
    rfl

theorem linesText_storing
    : linesText (settings.storing streamOrder bucketHeight) = linesText settings := by
  funext lines
  cases lines with
  | nil => rfl
  | cons l rest =>
    unfold linesText
    dsimp only
    rw [linesAfter_storing]
    rfl

theorem poolText_storing
    : poolText (settings.storing streamOrder bucketHeight) = poolText settings := by
  funext p
  unfold poolText
  rw [linesText_storing]
  rfl

theorem plain_storing : plain (settings.storing streamOrder bucketHeight) = plain settings := by
  funext p
  unfold plain
  rw [poolText_storing]

theorem columns_storing
    : columns (settings.storing streamOrder bucketHeight) = columns settings := by
  funext page p
  unfold columns columnsText
  rw [poolText_storing, linesText_storing]
  rfl

theorem streamAfter_storing (v : Word α) (words : List (Word α))
    : streamAfter (settings.storing streamOrder bucketHeight) v words =
        streamAfter settings v words := by
  induction words generalizing v with
  | nil => rfl
  | cons w rest ih =>
    unfold streamAfter
    rw [ih]
    rfl

theorem stream_storing : stream (settings.storing streamOrder bucketHeight) = stream settings := by
  funext words
  cases words with
  | nil => rfl
  | cons w rest =>
    unfold stream
    dsimp only
    rw [streamAfter_storing]

theorem rowFrom_storing
    : rowFrom (settings.storing streamOrder bucketHeight) = rowFrom settings := by
  funext target cursor previous words
  induction words generalizing cursor previous with
  | nil => rfl
  | cons w rest ih =>
    unfold rowFrom
    dsimp only
    rw [ih]
    rfl

theorem row_storing : row (settings.storing streamOrder bucketHeight) = row settings := by
  funext page cell l
  unfold row
  rw [rowFrom_storing]

theorem rowsAfter_storing
    : rowsAfter (settings.storing streamOrder bucketHeight) = rowsAfter settings := by
  funext page cell above lines
  induction lines generalizing above with
  | nil => rfl
  | cons l rest ih =>
    unfold rowsAfter
    dsimp only
    rw [ih, row_storing]
    rfl

theorem rows_storing : rows (settings.storing streamOrder bucketHeight) = rows settings := by
  funext page cell lines
  cases lines with
  | nil => rfl
  | cons l rest =>
    unfold rows
    dsimp only
    rw [row_storing, rowsAfter_storing]

theorem grid_storing : grid (settings.storing streamOrder bucketHeight) = grid settings := by
  funext page p
  unfold grid gridLines
  rw [rows_storing]
  rfl

end Rendering

namespace Segmenter

variable (page : Box α) (settings : Settings α) (streamOrder : Bool) (bucketHeight : α)

theorem push_storing (s : Segmenter α) (g : Glyph α)
    : s.push page (settings.storing streamOrder bucketHeight) g = s.push page settings g := by
  rfl

theorem call_storing
    : call page (settings.storing streamOrder bucketHeight) = call page settings := by
  funext s c
  cases c with
  | push g => apply push_storing
  | close => rfl

theorem after_storing (calls : List (Call α))
    : after page (settings.storing streamOrder bucketHeight) calls = after page settings calls := by
  unfold after
  rw [call_storing]

end Segmenter

namespace Collector

/-- Two collectors that differ at most in the place where they put the words. -/
structure Alike (c d : Collector α) : Prop where
  segmenter : c.segmenter = d.segmenter
  limitReported : c.limitReported = d.limitReported
  warnings : c.warnings = d.warnings

namespace Alike

variable {c d : Collector α} {settings : Settings α} {a b : Bool} {x y : α}

omit [Scalar α] in
theorem warn (h : c.Alike d) (w : Warning)
    : (c.warn (settings.storing a x) w).Alike (d.warn (settings.storing b y) w) := by
  unfold Collector.warn Settings.storing
  dsimp only
  split
  . constructor
    . exact h.segmenter
    . exact h.limitReported
    . simp only [h.warnings]
  . exact h

omit [Scalar α] in
theorem checkLimit (h : c.Alike d)
    : (c.checkLimit (settings.storing a x)).Alike (d.checkLimit (settings.storing b y)) := by
  have hreached : c.segmenter.limitReached (settings.storing a x) =
      d.segmenter.limitReached (settings.storing b y) := by
    rw [h.segmenter]
    rfl
  unfold Collector.checkLimit
  rw [h.limitReported, hreached]
  split
  . apply Alike.warn
    exact ⟨h.segmenter, rfl, h.warnings⟩
  . exact h

theorem advance (h : c.Alike d) (s : Segmenter α)
    : (c.advance (settings.storing a x) s).Alike (d.advance (settings.storing b y) s) where
  segmenter := by rfl
  limitReported := h.limitReported
  warnings := h.warnings

theorem accept (h : c.Alike d) (page : Box α) (event : Content.Event α)
    : (c.accept page (settings.storing a x) event).Alike
        (d.accept page (settings.storing b y) event) := by
  cases event with
  | glyph g =>
    apply Alike.checkLimit
    rw [h.segmenter, Segmenter.push_storing, Segmenter.push_storing]
    exact h.advance _
  | textEnd =>
    unfold Collector.accept
    rw [h.segmenter]
    exact h.advance _
  | warning w => exact h.warn w

theorem foldl_accept (h : c.Alike d) (page : Box α) (events : List (Content.Event α))
    : (events.foldl (Collector.accept page (settings.storing a x)) c).Alike
        (events.foldl (Collector.accept page (settings.storing b y)) d) := by
  induction events generalizing c d with
  | nil => exact h
  | cons event rest ih => exact ih (h.accept page event)

end Alike
end Collector

namespace Page

variable (fonts : FontBook α) (sheet : Sheet α) (settings : Settings α) (streamOrder : Bool)
variable (bucketHeight : α) (ops : List (Content.Operator α))

theorem segmented_storing
    : segmented fonts sheet (settings.storing streamOrder bucketHeight) ops =
        segmented fonts sheet settings ops := by
  unfold segmented
  rw [Segmenter.after_storing]
  rfl

theorem tally_storing
    : (ofOperators fonts sheet (settings.storing streamOrder bucketHeight) ops).tally =
        (ofOperators fonts sheet settings ops).tally := by
  rw [tally_ofOperators, tally_ofOperators, segmented_storing]

theorem drawn_storing
    : (ofOperators fonts sheet (settings.storing streamOrder bucketHeight) ops).drawn =
        (ofOperators fonts sheet settings ops).drawn := by
  rw [drawn_ofOperators, drawn_ofOperators, segmented_storing]

theorem warnings_storing
    : (ofOperators fonts sheet (settings.storing streamOrder bucketHeight) ops).warnings =
        (ofOperators fonts sheet settings ops).warnings := by
  let gathered (settings' : Settings α) : Collector α :=
    (Content.events ⟨fonts, settings.form⟩ sheet ops).foldl
      (Collector.accept sheet.bounds settings') (.empty settings')
  have halike : (gathered (settings.storing streamOrder bucketHeight)).Alike
      (gathered (settings.storing settings.streamOrder settings.bucketHeight)) := by
    apply Collector.Alike.foldl_accept
    exact ⟨rfl, rfl, rfl⟩
  exact congrArg List.reverse halike.warnings

end Page
end Galley
