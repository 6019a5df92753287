import Galley.TextState

/-!
The current transformation and the stack of saved states.
-/

namespace Galley

/-- What `q` saves. -/
structure SavedState (α : Type) where
  matrix : Transform α
  text : TextParameters α
deriving DecidableEq, Repr

/-- The map to the displayed page, and the saved states, latest first. -/
structure GraphicsState (α : Type) where
  matrix : Transform α
  saved : List (SavedState α)
deriving DecidableEq, Repr

namespace GraphicsState

variable {α : Type} [Scalar α]

omit [Scalar α] in
def initial (m : Transform α) : GraphicsState α := ⟨m, []⟩

omit [Scalar α] in
def depth (g : GraphicsState α) : Nat := g.saved.length

omit [Scalar α] in
def save (g : GraphicsState α) (text : TextParameters α) : GraphicsState α :=
  { g with saved := ⟨g.matrix, text⟩ :: g.saved }

omit [Scalar α] in
/-- Return to the latest saved state and hand back its text parameters; `none` if there is none. -/
def restore? (g : GraphicsState α) : Option (GraphicsState α × TextParameters α) :=
  match g.saved with
  | [] => none
  | s :: rest => some (⟨s.matrix, rest⟩, s.text)

/-- Apply a map before the current transformation. -/
def concat (g : GraphicsState α) (m : Transform α) : GraphicsState α :=
  { g with matrix := m.concat g.matrix }

end GraphicsState
end Galley
