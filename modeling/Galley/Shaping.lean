import Galley.Font
import Galley.Glyph
import Galley.TextState
import Galley.Unicode.Normalization

/-!
From a character code to glyphs on the page: where they stand, how large they are and how far the
text moves on.
-/

namespace Galley

/-- The glyphs of one code and the displacement in text space that they leave behind. -/
structure Shaped (α : Type) where
  glyphs : List (Glyph α)
  tx : α
  ty : α
deriving Repr

variable {α : Type} [Scalar α]

/-- A guess at the width of text as a fraction of the font size. -/
def guessWidth (text : List Char) : α :=
  match text with
  | c :: _ => if c = ' ' then 0.25 else if CharClass.isWide c then 1.0 else 0.5
  | [] => 0.5

/-- The displacement in text space behind a code. Word spacing applies to the one-byte code 32. -/
def displacement (font : Font α) (code : UInt32) (bytes : List UInt8) (text : List Char)
    (s : TextState α) : α × α :=
  let wordSpacing := if bytes.length = 1 ∧ code = 32 then s.wordSpacing else 0.0
  if font.isVertical then (0.0, -(s.fontSize + s.charSpacing + wordSpacing))
  else
    let width :=
      match font.width? code with
      | some w => w / 1000.0
      | none => guessWidth text
    ((width * s.fontSize + s.charSpacing + wordSpacing) * s.scale, 0.0)

/--
The direction of glyphs drawn through `render`. Size and scale take part, since negative ones turn
the glyphs, unless one of them is zero.
-/
def glyphDirection (s : TextState α) (render : Transform α) : Direction :=
  let sx := s.fontSize * s.scale
  if sx == 0.0 || s.fontSize == 0.0 then .ofTransform render
  else .ofTransform ((⟨sx, 0.0, 0.0, s.fontSize, 0.0, 0.0⟩ : Transform α).concat render)

/--
Shape one code. When its text has several characters they share the displacement equally; `index`
is the index of the first.
-/
def shape (form : Normalization) (code : UInt32) (bytes : List UInt8) (font : Font α)
    (s : TextState α) (matrix : Transform α) (index : Nat) : Shaped α :=
  let text := (form.apply (font.decode bytes)).toList
  let (tx, ty) := displacement font code bytes text s
  let render := s.textMatrix.concat matrix
  let origin := render.apply 0.0 s.rise
  let step := render.applyDelta tx ty
  let height := render.applyDelta 0.0 s.fontSize
  let count : α := Scalar.ofNat text.length
  let stepX := step.x / count
  let stepY := step.y / count
  let upright := glyphDirection s render
  let glyph (k : Nat) (c : Char) : Glyph α := {
    char := c
    code := code
    index := index + k
    x := origin.x + stepX * Scalar.ofNat k
    y := origin.y + stepY * Scalar.ofNat k
    dx := stepX
    dy := stepY
    size := Scalar.hypot height.x height.y
    direction := if font.isVertical then upright.turned 3 else upright
    mode := if font.isVertical then .vertical else .horizontal
    font := font.name }
  ⟨text.mapIdx glyph, tx, ty⟩

end Galley
