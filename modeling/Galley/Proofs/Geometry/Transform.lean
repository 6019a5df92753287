import Mathlib.Tactic.Ring
import Galley.Geometry.Transform
import Galley.Proofs.Real.Scalar

/-!
This module contains the algebra of affine maps over the reals: a displacement in front of a map
moves its image, and leaves the images of displacements alone.
-/

namespace Galley

/-- A point as the vector to it. -/
def Point.vector (p : Point ℝ) : ℝ × ℝ := (p.x, p.y)

namespace Transform

variable (m n : Transform ℝ) (v w : ℝ × ℝ)

/-- The image of a displacement. -/
noncomputable def image : ℝ × ℝ := (m.applyDelta v.1 v.2).vector

/-- The map and then a displacement. -/
def shift : Transform ℝ := { m with e := m.e + v.1, f := m.f + v.2 }

@[simp]
theorem image_shift : (m.shift v).image w = m.image w := by
  rfl

theorem shift_zero : m.shift 0 = m := by
  simp [shift]

theorem shift_shift : (m.shift v).shift w = m.shift (v + w) := by
  simp [shift, add_assoc]

theorem vector_apply_shift (x y : ℝ)
    : ((m.shift v).apply x y).vector = (m.apply x y).vector + v := by
  ext <;> simp [Point.vector, apply, shift, add_assoc]

theorem image_concat : (m.concat n).image v = n.image (m.image v) := by
  unfold image Point.vector applyDelta concat
  ext
  . ring
  . ring

theorem shift_concat : (m.shift v).concat n = (m.concat n).shift (n.image v) := by
  simp only [shift, concat, image, Point.vector, applyDelta, mk.injEq, true_and]
  constructor
  . ring
  . ring

theorem translate_concat (tx ty : ℝ) : (translate tx ty).concat m = m.shift (m.image (tx, ty)) := by
  simp only [shift, concat, translate, image, Point.vector, applyDelta, mk.injEq, Scalar.zero_real,
    Scalar.one_real]
  refine ⟨?_, ?_, ?_, ?_, ?_, ?_⟩ <;> ring

/-- A displacement in front of two maps moves the image by what both make of it. -/
theorem translate_concat_concat (tx ty : ℝ)
    : ((translate tx ty).concat m).concat n = (m.concat n).shift ((m.concat n).image (tx, ty)) := by
  rw [translate_concat, shift_concat, image_concat]

end Transform
end Galley
