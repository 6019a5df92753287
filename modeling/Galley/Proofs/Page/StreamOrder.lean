import Galley.Proofs.Page.Keeping

/-!
This module contains what the stream order of words changes, which is their order alone: reading a
page goes through the same states either way, but for the place where the words are put.
-/

namespace Galley

variable {α : Type} [Scalar α]

namespace Settings

omit [Scalar α] in
/-- The same settings, with the words kept in stream order or in pools. -/
def keeping (settings : Settings α) (streamOrder : Bool) : Settings α :=
  { settings with streamOrder := streamOrder }

omit [Scalar α] in
theorem keeping_eq_storing (settings : Settings α) (streamOrder : Bool)
    : settings.keeping streamOrder = settings.storing streamOrder settings.bucketHeight := by
  rfl

end Settings

namespace Page

section Keeping

variable (fonts : FontBook α) (sheet : Sheet α) (settings : Settings α) (streamOrder : Bool)
variable (ops : List (Content.Operator α))

theorem tally_keeping
    : (ofOperators fonts sheet (settings.keeping streamOrder) ops).tally =
        (ofOperators fonts sheet settings ops).tally := by
  apply tally_storing

theorem pools_keeping
    : (ofOperators fonts sheet (settings.keeping streamOrder) ops).pools =
        (ofOperators fonts sheet settings ops).pools := by
  rw [(holds_ofOperators ..).pools_eq, (holds_ofOperators ..).pools_eq,
    settings.keeping_eq_storing, segmented_storing]
  rfl

theorem drawn_eq_sortByOrder
    : (ofOperators fonts sheet settings ops).drawn =
        Word.sortByOrder (ofOperators fonts sheet settings ops).pools.words := by
  rw [(holds_ofOperators ..).sortByOrder_pools, drawn_ofOperators]

theorem words_streamOrder
    : (ofOperators fonts sheet (settings.keeping true) ops).words =
        Word.sortByOrder (ofOperators fonts sheet (settings.keeping false) ops).pools.words := by
  rw [words_of_streamOrder rfl, drawn_eq_sortByOrder, pools_keeping, pools_keeping]

theorem gridText_keeping
    : (ofOperators fonts sheet (settings.keeping streamOrder) ops).gridText =
        (ofOperators fonts sheet settings ops).gridText := by
  unfold gridText
  rw [pools_keeping]
  exact congrFun₂ (Rendering.grid_storing settings streamOrder settings.bucketHeight) ..

theorem columnText_keeping
    : (ofOperators fonts sheet (settings.keeping streamOrder) ops).columnText =
        (ofOperators fonts sheet settings ops).columnText := by
  unfold columnText
  rw [pools_keeping]
  exact congrFun₂ (Rendering.columns_storing settings streamOrder settings.bucketHeight) ..

theorem columnLayout_keeping
    : (ofOperators fonts sheet (settings.keeping streamOrder) ops).columnLayout =
        (ofOperators fonts sheet settings ops).columnLayout := by
  unfold columnLayout
  rw [pools_keeping]
  rfl

theorem warnings_keeping (a b : Bool)
    : (ofOperators fonts sheet (settings.keeping a) ops).warnings =
        (ofOperators fonts sheet (settings.keeping b) ops).warnings := by
  rw [settings.keeping_eq_storing, settings.keeping_eq_storing, warnings_storing, warnings_storing]

end Keeping

theorem ofOperators_streamOrder (fonts : FontBook α) (sheet : Sheet α) (settings : Settings α)
    (ops : List (Content.Operator α))
    : let streamed := ofOperators fonts sheet { settings with streamOrder := true } ops
      let pooled := ofOperators fonts sheet { settings with streamOrder := false } ops
      (streamed.tally = pooled.tally ∧ streamed.warnings = pooled.warnings) ∧
      streamed.pools = pooled.pools ∧
      (streamed.gridText = pooled.gridText ∧ streamed.columnText = pooled.columnText ∧
        streamed.columnLayout = pooled.columnLayout) ∧
      streamed.words = pooled.pools.words.mergeSort (fun v w => v.order ≤ w.order) := by
  refine ⟨⟨?_, ?_⟩, ?_, ⟨?_, ?_, ?_⟩, ?_⟩
  . exact (tally_keeping fonts sheet settings true ops).trans
      (tally_keeping fonts sheet settings false ops).symm
  . exact warnings_keeping fonts sheet settings ops true false
  . exact (pools_keeping fonts sheet settings true ops).trans
      (pools_keeping fonts sheet settings false ops).symm
  . exact (gridText_keeping fonts sheet settings true ops).trans
      (gridText_keeping fonts sheet settings false ops).symm
  . exact (columnText_keeping fonts sheet settings true ops).trans
      (columnText_keeping fonts sheet settings false ops).symm
  . exact (columnLayout_keeping fonts sheet settings true ops).trans
      (columnLayout_keeping fonts sheet settings false ops).symm
  . exact words_streamOrder fonts sheet settings ops

end Page
end Galley
