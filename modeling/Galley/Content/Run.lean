import Galley.Content.Command
import Galley.Geometry.Sheet
import Galley.GraphicsState
import Galley.Shaping
import Galley.Warning

/-!
Running the operators of a page. A run never fails: it yields the glyphs that are shown, the ends
of text objects, and warnings about what could not be done.
-/

namespace Galley.Content

/-- What a run reports, in order. -/
inductive Event (α : Type)
  | glyph (g : Glyph α)
  | textEnd
  | warning (w : Warning)
deriving Repr

/-- What stays the same throughout a run. -/
structure Setting (α : Type) where
  fonts : FontBook α
  form : Normalization

/-- Where a run stands. -/
structure RunState (α : Type) where
  graphics : GraphicsState α
  text : TextState α
  /-- The missing fonts that were reported. -/
  missing : List String
  /-- The fonts for which a guessed code was reported. -/
  guessed : List String
  /-- The number of glyphs shown. -/
  emitted : Nat
deriving Repr

variable {α : Type} [Scalar α]

namespace RunState

/-- The state at the start of a page. -/
def initial (sheet : Sheet α) : RunState α := ⟨.initial sheet.transform, .initial, [], [], 0⟩

omit [Scalar α] in
/-- Replace the text state. -/
def withText (s : RunState α) (text : TextState α) : RunState α := { s with text := text }

/-- Shift against the writing direction by thousandths of the font size. -/
def adjust (setting : Setting α) (s : RunState α) (amount : α) : RunState α :=
  let shift := -amount / 1000.0 * s.text.fontSize
  if (setting.fonts.get? s.text.fontName).any Font.isVertical then
    s.withText (s.text.advance 0.0 shift)
  else s.withText (s.text.advance (shift * s.text.scale) 0.0)

/-- The current font. One that is missing is replaced, and reported when it is first used. -/
def resolveFont (setting : Setting α) (s : RunState α) (index : Nat) :
    Font α × RunState α × List (Event α) :=
  let name := s.text.fontName
  match setting.fonts.get? name with
  | some font => (font, s, [])
  | none =>
    if s.missing.contains name then (.substitute name, s, [])
    else
      (.substitute name, { s with missing := name :: s.missing },
        [.warning (.missingFont index name)])

omit [Scalar α] in
/-- Report a code whose text is guessed, once for each font name. -/
def reportGuess (s : RunState α) (font : Font α) (index : Nat) (code : UInt32) :
    RunState α × List (Event α) :=
  let name := s.text.fontName
  if font.isMapped code || s.guessed.contains name then (s, [])
  else
    ({ s with guessed := name :: s.guessed }, [.warning (.encodingFallback index name code)])

/-- Show one code. -/
def showCode (setting : Setting α) (font : Font α) (index : Nat) (s : RunState α)
    (bytes : List UInt8) : RunState α × List (Event α) :=
  let code := codeOfBytes bytes
  let (s, warnings) := s.reportGuess font index code
  let shaped := shape setting.form code bytes font s.text s.graphics.matrix s.emitted
  ({ s with
      text := s.text.advance shaped.tx shaped.ty
      emitted := s.emitted + shaped.glyphs.length },
    warnings ++ shaped.glyphs.map .glyph)

/-- Show codes one after the other. -/
def showCodes (setting : Setting α) (font : Font α) (index : Nat) (s : RunState α) :
    List (List UInt8) → RunState α × List (Event α)
  | [] => (s, [])
  | code :: rest =>
    let (s, events) := s.showCode setting font index code
    let (s, later) := s.showCodes setting font index rest
    (s, events ++ later)

/-- Show a string. -/
def showString (setting : Setting α) (index : Nat) (s : RunState α) (bytes : List UInt8) :
    RunState α × List (Event α) :=
  let (font, s, warnings) := s.resolveFont setting index
  let (s, events) := s.showCodes setting font index (splitCodes font.isTwoByte bytes)
  (s, warnings ++ events)

/-- Show the strings of an array and make its adjustments. -/
def showItems (setting : Setting α) (index : Nat) (s : RunState α) :
    List (TextItem α) → RunState α × List (Event α)
  | [] => (s, [])
  | .adjust amount :: rest => (s.adjust setting amount).showItems setting index rest
  | .text bytes :: rest =>
    let (s, events) := s.showString setting index bytes
    let (s, later) := s.showItems setting index rest
    (s, events ++ later)

/-- Carry out one operator; `index` is its position among all of them. -/
def execute (setting : Setting α) (index : Nat) (s : RunState α) (command : Command α) :
    RunState α × List (Event α) :=
  let text := s.text
  match command with
  | .save => ({ s with graphics := s.graphics.save text.toTextParameters }, [])
  | .restore =>
    match s.graphics.restore? with
    | some (graphics, saved) =>
      ({ s with graphics := graphics, text := text.withParameters saved }, [])
    | none => (s, [.warning (.unbalancedRestore index)])
  | .concat m => ({ s with graphics := s.graphics.concat m }, [])
  | .beginText => (s.withText text.beginText, [])
  | .endText => (s.withText text.endText, [.textEnd])
  | .setFont name size => (s.withText (text.setFont name size), [])
  | .setCharSpacing v => (s.withText { text with charSpacing := v }, [])
  | .setWordSpacing v => (s.withText { text with wordSpacing := v }, [])
  | .setHorizontalScale v => (s.withText { text with horizontalScale := v }, [])
  | .setLeading v => (s.withText { text with leading := v }, [])
  | .setRise v => (s.withText { text with rise := v }, [])
  | .setRenderMode mode => (s.withText (text.setRenderMode mode), [])
  | .moveText tx ty => (s.withText (text.move tx ty), [])
  | .moveTextSetLeading tx ty => (s.withText (text.moveSetLeading tx ty), [])
  | .setTextMatrix m => (s.withText (text.setTextMatrix m), [])
  | .nextLine => (s.withText text.nextLine, [])
  | .showText bytes => s.showString setting index bytes
  | .showTextArray items => s.showItems setting index items
  | .nextLineShowText bytes => (s.withText text.nextLine).showString setting index bytes
  | .nextLineShowSpaced wordSpacing charSpacing bytes =>
    (s.withText
      { text with wordSpacing := wordSpacing, charSpacing := charSpacing }.nextLine).showString
        setting index bytes
  | .other _ => (s, [])
  | .malformed name expected found =>
    (s, [.warning (.malformedOperator index name expected found)])

/-- Carry out operators in order; `index` is the position of the first. -/
def run (setting : Setting α) (index : Nat) (s : RunState α) :
    List (Operator α) → RunState α × List (Event α)
  | [] => (s, [])
  | op :: rest =>
    let (s, events) := s.execute setting index (.ofOperator op)
    let (s, later) := s.run setting (index + 1) rest
    (s, events ++ later)

end RunState

/-- What the operators of a page report. -/
def events (setting : Setting α) (sheet : Sheet α) (ops : List (Operator α)) : List (Event α) :=
  ((RunState.initial sheet).run setting 0 ops).2

end Galley.Content
