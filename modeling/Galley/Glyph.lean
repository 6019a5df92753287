import Galley.Geometry.Direction
import Galley.Unicode.WhiteSpace

/-!
Glyphs on the page, and the classes of characters that decide how glyphs are put together.
-/

namespace Galley

/-- A character drawn on the page. -/
structure Glyph (α : Type) where
  char : Char
  /-- The code that the font was asked to show. -/
  code : UInt32
  /-- The position among all glyphs of the page. -/
  index : Nat
  /-- Where the glyph is placed. -/
  x : α
  y : α
  /-- How far the next glyph is from it. -/
  dx : α
  dy : α
  size : α
  direction : Direction
  mode : WritingMode
  /-- The name of the font that drew it. -/
  font : String
deriving DecidableEq, Repr, Inhabited

namespace Glyph

variable {α : Type} [Scalar α]

/-- Where the glyph ends on the axis that text runs along. -/
def edge (g : Glyph α) : α := if g.direction.isHorizontal then g.x + g.dx else g.y + g.dy

def isFinite (g : Glyph α) : Bool :=
  Scalar.isFinite g.x && Scalar.isFinite g.y && Scalar.isFinite g.dx && Scalar.isFinite g.dy &&
    Scalar.isFinite g.size

end Glyph

namespace CharClass

/-- Whether the code of a character lies in one of these ranges. -/
def inRanges (ranges : List (Nat × Nat)) (c : Char) : Bool :=
  ranges.any fun (first, last) => first ≤ c.toNat && c.toNat ≤ last

/-- Han ideographs and their parts, kana, hangul and bopomofo. -/
def cjkRanges : List (Nat × Nat) := [
  (0x4E00, 0x9FFF), (0x3400, 0x4DBF), (0xF900, 0xFAFF), (0x3040, 0x309F), (0x30A0, 0x30FF),
  (0xAC00, 0xD7AF), (0x1100, 0x11FF), (0x3100, 0x312F), (0x2E80, 0x2EFF), (0x2F00, 0x2FDF),
  (0x20000, 0x2A6DF)]

/-- East Asian punctuation and full-width forms. -/
def fullWidthRanges : List (Nat × Nat) := [(0x3000, 0x303F), (0xFF01, 0xFF60), (0xFFE0, 0xFFE6)]

/-- Whether the character belongs to a script written without spaces. -/
def isCjk (c : Char) : Bool := inRanges cjkRanges c

/-- Whether the character is drawn as wide as it is high. -/
def isWide (c : Char) : Bool := isCjk c || inRanges fullWidthRanges c

/-- Whether a small gap behind the character still reads as a space. -/
def isSentencePunctuation (c : Char) : Bool := ['.', ',', ';', ':', '!', '?'].contains c

/-- Whether the character ends a word and belongs to none. -/
def breaksWord (c : Char) : Bool := Unicode.isWhiteSpace c || Unicode.isControl c

end CharClass
end Galley
