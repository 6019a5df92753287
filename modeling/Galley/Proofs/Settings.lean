import Mathlib.Tactic.MkIffOfInductiveProp
import Galley.Proofs.Real.Scalar
import Galley.Settings

/-!
This module contains what it means that settings are accepted.
-/

namespace Galley

namespace Settings

section Valid

variable {α : Type} [Scalar α]

/-- Settings by which pages can be read. -/
@[mk_iff]
structure IsValid (s : Settings α) : Prop where
  bucketHeight : Scalar.isPositive s.bucketHeight = true
  lineTolerance : Scalar.isPositive s.lineTolerance = true
  paragraphGap : Scalar.isPositive s.paragraphGap = true
  minGap : Scalar.isPositive s.columns.minGap = true
  quantum : Scalar.isPositive s.columns.quantum = true
  maxColumns : s.columns.maxColumns ≠ 0
  spacing : ¬ s.spacing.splitAbove < s.spacing.mergeBelow
  cellWidth : ∀ v ∈ s.grid.cellWidth, Scalar.isPositive v = true
  lineHeight : ∀ v ∈ s.grid.lineHeight, Scalar.isPositive v = true

theorem requirePositive_eq_ok_iff {field : String} {value : α}
    : requirePositive field value = .ok () ↔ Scalar.isPositive value = true := by
  unfold requirePositive
  split <;> simp_all

theorem bind_eq_ok_iff {ε : Type} {x : Except ε Unit} {f : Unit → Except ε Unit}
    : (x >>= f) = .ok () ↔ x = .ok () ∧ f () = .ok () := by
  cases x <;> simp [bind, Except.bind]

theorem refuse_eq_ok_iff {ε : Type} {refused : Prop} [Decidable refused] {e : ε}
    {f : PUnit → Except ε Unit} {x : Except ε Unit}
    : (if refused then throw e >>= f else x) = .ok () ↔ ¬ refused ∧ x = .ok () := by
  split <;> simp_all [throw, throwThe, MonadExceptOf.throw, bind, Except.bind]

theorem validate_eq_ok_iff {s : Settings α} : s.validate = .ok () ↔ s.IsValid := by
  unfold validate
  rw [isValid_iff]
  simp only [bind_eq_ok_iff, requirePositive_eq_ok_iff, refuse_eq_ok_iff]
  cases s.grid.cellWidth <;> cases s.grid.lineHeight <;>
    simp [pure, Except.pure, bind_eq_ok_iff, requirePositive_eq_ok_iff]

end Valid

/-- The defaults pass their own check. -/
theorem isValid_default : (default : Settings ℝ).IsValid := by
  constructor <;>
    simp [default, ColumnOptions.default, SpacingThresholds.default, GridOptions.default,
      Scalar.isPositive_real] <;>
    norm_num

end Settings

end Galley
