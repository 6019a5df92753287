import Galley.Scalar

/-!
Points and affine maps of the plane. The y axis points up.
-/

namespace Galley

structure Point (α : Type) where
  x : α
  y : α
deriving DecidableEq, Repr, Inhabited

/-- The map from `(x, y)` to `(a x + c y + e, b x + d y + f)`. -/
structure Transform (α : Type) where
  a : α
  b : α
  c : α
  d : α
  e : α
  f : α
deriving DecidableEq, Repr, Inhabited

namespace Transform

variable {α : Type} [Scalar α]

def identity : Transform α := ⟨1.0, 0.0, 0.0, 1.0, 0.0, 0.0⟩

def translate (tx ty : α) : Transform α := ⟨1.0, 0.0, 0.0, 1.0, tx, ty⟩

/-- The map that applies `m` first and `n` second. -/
def concat (m n : Transform α) : Transform α where
  a := m.a * n.a + m.b * n.c
  b := m.a * n.b + m.b * n.d
  c := m.c * n.a + m.d * n.c
  d := m.c * n.b + m.d * n.d
  e := m.e * n.a + m.f * n.c + n.e
  f := m.e * n.b + m.f * n.d + n.f

/-- The image of a point. -/
def apply (m : Transform α) (x y : α) : Point α :=
  ⟨m.a * x + m.c * y + m.e, m.b * x + m.d * y + m.f⟩

/-- The image of a displacement, which no translation moves. -/
def applyDelta (m : Transform α) (dx dy : α) : Point α :=
  ⟨m.a * dx + m.c * dy, m.b * dx + m.d * dy⟩

def isFinite (m : Transform α) : Bool :=
  [m.a, m.b, m.c, m.d, m.e, m.f].all Scalar.isFinite

end Transform
end Galley
