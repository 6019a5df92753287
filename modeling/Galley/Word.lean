import Galley.Geometry.Box
import Galley.Glyph

/-!
Words: glyphs of one line, size and direction with no gap between them.
-/

namespace Galley

structure Word (α : Type) where
  text : String
  /-- In the order in which they were drawn. -/
  glyphs : List (Glyph α)
  box : Box α
  /-- The coordinate of the baseline. -/
  base : α
  size : α
  direction : Direction
  mode : WritingMode
  /-- The boundaries of the glyphs on the axis that text runs along, one more than glyphs. -/
  edges : List α
  /-- The position among the words of the page in the order in which they were drawn. -/
  order : Nat
deriving DecidableEq, Repr, Inhabited

namespace Word

variable {α : Type} [Scalar α]

/-- How far a word reaches below and above a coordinate of its baseline on the other axis. -/
def crossExtent (base size : α) (direction : Direction) (mode : WritingMode) : α × α :=
  match mode, direction with
  | .vertical, _ => (base - size * 0.5, base + size * 0.5)
  | .horizontal, .right | .horizontal, .down => (base + -0.25 * size, base + 0.75 * size)
  | .horizontal, .up | .horizontal, .left => (base - 0.75 * size, base - -0.25 * size)

/-- The box around a word, from its edges and the extent of its font. -/
def boxOf (edges : List α) (base size : α) (direction : Direction) (mode : WritingMode) : Box α :=
  let low := Scalar.leastOf edges
  let high := Scalar.greatestOf edges
  let (c0, c1) := crossExtent base size direction mode
  if direction.isHorizontal then ⟨low, c0, high, c1⟩ else ⟨c0, low, c1, high⟩

/-- Make a word of at least one glyph and one more edge than glyphs. -/
def ofParts? (glyphs : List (Glyph α)) (edges : List α) (base size : α) (direction : Direction)
    (mode : WritingMode) (order : Nat) : Option (Word α) :=
  if glyphs = [] ∨ edges.length ≠ glyphs.length + 1 then none
  else some {
    text := String.ofList (glyphs.map Glyph.char)
    glyphs := glyphs
    box := boxOf edges base size direction mode
    base := base
    size := size
    direction := direction
    mode := mode
    edges := edges
    order := order }

omit [Scalar α] in
def length (w : Word α) : Nat := w.glyphs.length

/-- Where the word begins along its direction. -/
def start (w : Word α) : α := Scalar.leastOf (w.edges.map w.direction.signed)

/-- Where the word ends along its direction. -/
def stop (w : Word α) : α := Scalar.greatestOf (w.edges.map w.direction.signed)

/-- The average width of a glyph; half the font size when the word has no width. -/
def averageWidth (w : Word α) : α :=
  let width := w.stop - w.start
  if 0.0 < width ∧ w.glyphs ≠ [] then width / Scalar.ofNat w.length else w.size * 0.5

omit [Scalar α] in
def firstChar? (w : Word α) : Option Char := w.text.toList.head?

omit [Scalar α] in
def lastChar? (w : Word α) : Option Char := w.text.toList.getLast?

end Word
end Galley
