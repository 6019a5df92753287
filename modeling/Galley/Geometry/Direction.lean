import Galley.Geometry.Transform

/-!
The four directions in which text is written, as quarter turns counterclockwise from left-to-right.
-/

namespace Galley

/-- Where text runs: to the right, up, to the left, or down. -/
inductive Direction
  | right
  | up
  | left
  | down
deriving DecidableEq, Repr, Inhabited

namespace Direction

/-- All directions, in the order in which a page is read. -/
def all : List Direction := [right, up, left, down]

/-- The direction after this many quarter turns from `right`. -/
def ofIndex (index : Nat) : Direction :=
  match index % 4 with
  | 0 => right
  | 1 => up
  | 2 => left
  | _ => down

/-- The number of quarter turns from `right`. -/
def index : Direction → Nat
  | right => 0
  | up => 1
  | left => 2
  | down => 3

/-- The direction after further quarter turns. -/
def turned (r : Direction) (quarters : Nat) : Direction := ofIndex (r.index + quarters)

/-- Whether text runs along the x axis. -/
def isHorizontal : Direction → Bool
  | right | left => true
  | up | down => false

/-- Whether later lines have smaller baseline coordinates. -/
def linesDescend : Direction → Bool
  | right | down => true
  | up | left => false

variable {α : Type} [Scalar α]

/-- The sign of a coordinate along the direction: it grows in reading order. -/
def signed (r : Direction) (v : α) : α :=
  match r with
  | right | up => v
  | left | down => -v

/-- The coordinate on the axis that text runs along. -/
def axis (r : Direction) (x y : α) : α := if r.isHorizontal then x else y

/-- The position along the direction, which grows in reading order. -/
def primary (r : Direction) (x y : α) : α :=
  match r with
  | right => x
  | up => y
  | left => -x
  | down => -y

/-- The coordinate of the baseline. -/
def base (r : Direction) (x y : α) : α := if r.isHorizontal then y else x

/--
The direction of text drawn through a map: the larger diagonal tells the axis, the signs on it
which way.
-/
def ofTransform (m : Transform α) : Direction :=
  if Scalar.abs (m.b * m.c) ≤ Scalar.abs (m.a * m.d) then
    if 0.0 < m.a ∨ 0.0 < m.d then right else left
  else if 0.0 < m.b ∨ m.c < 0.0 then up
  else down

end Direction

/-- Whether glyphs follow one another along the line or stand below one another. -/
inductive WritingMode
  | horizontal
  | vertical
deriving DecidableEq, Repr, Inhabited

end Galley
