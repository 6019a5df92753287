import Galley.Geometry.Transform

/-!
The text state: the parameters of text, which are saved and restored with the graphics state, and
the two matrices that place it, which are not.
-/

namespace Galley

/-- How glyphs are painted. It is kept but has no influence on the text. -/
inductive RenderMode
  | fill
  | stroke
  | fillStroke
  | invisible
  | fillClip
  | strokeClip
  | fillStrokeClip
  | clip
deriving DecidableEq, Repr, Inhabited

/-- The mode of an operand from 0 to 7. -/
def RenderMode.ofInt? (value : Int) : Option RenderMode :=
  match value with
  | 0 => some .fill
  | 1 => some .stroke
  | 2 => some .fillStroke
  | 3 => some .invisible
  | 4 => some .fillClip
  | 5 => some .strokeClip
  | 6 => some .fillStrokeClip
  | 7 => some .clip
  | _ => none

/-- The parameters that `q` saves and `Q` restores. -/
structure TextParameters (α : Type) where
  charSpacing : α
  wordSpacing : α
  /-- In percent. -/
  horizontalScale : α
  leading : α
  fontName : String
  fontSize : α
  renderMode : RenderMode
  rise : α
deriving DecidableEq, Repr, Inhabited

/-- The parameters, whether a text object is open, and where the next glyph and line begin. -/
structure TextState (α : Type) extends TextParameters α where
  inText : Bool
  textMatrix : Transform α
  lineMatrix : Transform α
deriving DecidableEq, Repr, Inhabited

namespace TextState

variable {α : Type} [Scalar α]

/-- The state at the start of a page. -/
def initial : TextState α where
  charSpacing := 0.0
  wordSpacing := 0.0
  horizontalScale := 100.0
  leading := 0.0
  fontName := ""
  fontSize := 0.0
  renderMode := .fill
  rise := 0.0
  inText := false
  textMatrix := .identity
  lineMatrix := .identity

/-- The horizontal scale as a factor. -/
def scale (s : TextState α) : α := s.horizontalScale / 100.0

/-- Open a text object: both matrices start over. -/
def beginText (s : TextState α) : TextState α :=
  { s with textMatrix := .identity, lineMatrix := .identity, inText := true }

omit [Scalar α] in
/-- Close the text object; the matrices stay. -/
def endText (s : TextState α) : TextState α := { s with inText := false }

omit [Scalar α] in
def setFont (s : TextState α) (name : String) (size : α) : TextState α :=
  { s with fontName := name, fontSize := size }

omit [Scalar α] in
/-- Set the render mode; a value that is none changes nothing. -/
def setRenderMode (s : TextState α) (value : Int) : TextState α :=
  { s with renderMode := (RenderMode.ofInt? value).getD s.renderMode }

omit [Scalar α] in
def setTextMatrix (s : TextState α) (m : Transform α) : TextState α :=
  { s with textMatrix := m, lineMatrix := m }

/-- Move to the start of a line at this offset from the current one. -/
def move (s : TextState α) (tx ty : α) : TextState α :=
  let m := (Transform.translate tx ty).concat s.lineMatrix
  { s with textMatrix := m, lineMatrix := m }

/-- Move to a line and let later lines follow at the same distance. -/
def moveSetLeading (s : TextState α) (tx ty : α) : TextState α :=
  { s with leading := -ty }.move tx ty

/-- Move to the next line. -/
def nextLine (s : TextState α) : TextState α := s.move 0.0 (-s.leading)

/-- Move along the line, as a shown glyph or an adjustment does. -/
def advance (s : TextState α) (tx ty : α) : TextState α :=
  { s with textMatrix := (Transform.translate tx ty).concat s.textMatrix }

omit [Scalar α] in
/-- Take over saved parameters; the matrices and the text object stay. -/
def withParameters (s : TextState α) (p : TextParameters α) : TextState α :=
  { s with toTextParameters := p }

end TextState
end Galley
