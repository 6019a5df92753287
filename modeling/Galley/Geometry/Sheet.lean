import Galley.Geometry.Box
import Galley.Geometry.Transform

/-!
The sheet that a page is drawn on: its size, and the quarter turns with which it is displayed.
-/

namespace Galley

/-- Width and height before turning, and the clockwise turn in degrees. -/
structure Sheet (α : Type) where
  width : α
  height : α
  turn : Int
deriving DecidableEq, Repr, Inhabited

namespace Sheet

variable {α : Type} [Scalar α]

/-- A sheet of 8.5 by 11 inches, upright. -/
def letter : Sheet α := ⟨612.0, 792.0, 0⟩

/-- The turn as a multiple of 90 degrees from 0 to 270; what is left over is dropped. -/
def normalizedTurn (s : Sheet α) : Int := s.turn % 360 / 90 * 90

/-- From the coordinates of the content to those of the sheet as displayed. -/
def transform (s : Sheet α) : Transform α :=
  if s.normalizedTurn = 90 then ⟨0.0, -1.0, 1.0, 0.0, 0.0, s.width⟩
  else if s.normalizedTurn = 180 then ⟨-1.0, 0.0, 0.0, -1.0, s.width, s.height⟩
  else if s.normalizedTurn = 270 then ⟨0.0, 1.0, -1.0, 0.0, s.height, 0.0⟩
  else .identity

/-- Width and height as displayed. -/
def displaySize (s : Sheet α) : α × α :=
  if s.normalizedTurn = 90 ∨ s.normalizedTurn = 270 then (s.height, s.width)
  else (s.width, s.height)

/-- The box of the sheet as displayed. -/
def bounds (s : Sheet α) : Box α := ⟨0.0, 0.0, s.displaySize.1, s.displaySize.2⟩

end Sheet
end Galley
