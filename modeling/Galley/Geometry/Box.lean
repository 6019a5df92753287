import Galley.Scalar

/-!
Boxes with sides along the axes; `y0` is the bottom edge.
-/

namespace Galley

structure Box (α : Type) where
  x0 : α
  y0 : α
  x1 : α
  y1 : α
deriving DecidableEq, Repr, Inhabited

namespace Box

variable {α : Type} [Scalar α]

/-- The box with these two opposite corners. -/
def ofCorners (ax ay bx bY : α) : Box α :=
  ⟨Scalar.least ax bx, Scalar.least ay bY, Scalar.greatest ax bx, Scalar.greatest ay bY⟩

def width (b : Box α) : α := b.x1 - b.x0

def height (b : Box α) : α := b.y1 - b.y0

def centerX (b : Box α) : α := (b.x0 + b.x1) / 2.0

def centerY (b : Box α) : α := (b.y0 + b.y1) / 2.0

/-- The smallest box that covers both. -/
def union (b c : Box α) : Box α :=
  ⟨Scalar.least b.x0 c.x0, Scalar.least b.y0 c.y0, Scalar.greatest b.x1 c.x1,
    Scalar.greatest b.y1 c.y1⟩

/-- Whether a point lies in the box, edges included. -/
def contains (b : Box α) (x y : α) : Bool := b.x0 ≤ x && x ≤ b.x1 && b.y0 ≤ y && y ≤ b.y1

end Box
end Galley
