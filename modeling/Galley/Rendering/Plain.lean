import Galley.Pool
import Galley.Unicode.Alphanumeric

/-!
Words as running text: spaces where a gap reads as one, a new line for each line, and a blank line
between paragraphs.
-/

namespace Galley

variable {α : Type} [Scalar α]

namespace SpacingThresholds

/--
Whether the gap between two neighbouring words reads as a space. Of the gaps that are neither tight
nor wide only one behind sentence punctuation and before a letter or digit does, and there is never
a space between two CJK characters.
-/
def separates (spacing : SpacingThresholds α) (v w : Word α) : Bool :=
  let ratio := (w.start - v.stop) / v.averageWidth
  if Scalar.isNaN ratio || ratio < spacing.mergeBelow then false
  else
    match v.lastChar?, w.firstChar? with
    | some a, some b =>
      if CharClass.isCjk a && CharClass.isCjk b then false
      else
        spacing.splitAbove < ratio ||
          (CharClass.isSentencePunctuation a && Unicode.isAlphanumeric b)
    | _, _ => false

end SpacingThresholds

namespace Rendering

/-- Join blocks of text with blank lines, leaving out empty ones. -/
def joinBlocks (blocks : List String) : String :=
  "\n\n".intercalate (blocks.filter fun b => b != "")

/-- The words behind a word, each after a space where the gap reads as one. -/
def wordsAfter (spacing : SpacingThresholds α) (v : Word α) : List (Word α) → String
  | [] => ""
  | w :: rest =>
    (if spacing.separates v w then " " else "") ++ w.text ++ wordsAfter spacing w rest

/-- The text of a line. -/
def lineText (spacing : SpacingThresholds α) (l : Line α) : String :=
  match l.words with
  | [] => ""
  | w :: rest => w.text ++ wordsAfter spacing w rest

/-- Whether a new paragraph begins between two successive lines. -/
def startsParagraph (settings : Settings α) (k l : Line α) : Bool :=
  settings.paragraphGap * Scalar.greatest k.size l.size < Scalar.abs (l.base - k.base)

/-- The lines behind a line. -/
def linesAfter (settings : Settings α) (k : Line α) : List (Line α) → String
  | [] => ""
  | l :: rest =>
    (if startsParagraph settings k l then "\n\n" else "\n") ++ lineText settings.spacing l ++
      linesAfter settings l rest

/-- The text of successive lines. -/
def linesText (settings : Settings α) : List (Line α) → String
  | [] => ""
  | l :: rest => lineText settings.spacing l ++ linesAfter settings l rest

/-- The text of a pool. -/
def poolText (settings : Settings α) (p : Pool α) : String :=
  linesText settings (p.lines settings.lineOptions)

/-- The text of a page in reading order. -/
def plain (settings : Settings α) (p : Pools α) : String :=
  joinBlocks (p.all.map (poolText settings))

/-- What stands between two words that were drawn one after the other. -/
def streamSeparator (settings : Settings α) (v w : Word α) : String :=
  if v.direction != w.direction ||
      settings.lineTolerance * Scalar.greatest v.size w.size < Scalar.abs (v.base - w.base) then
    "\n"
  else if w.start < v.start || settings.spacing.separates v w then " "
  else ""

/-- The words drawn behind a word. -/
def streamAfter (settings : Settings α) (v : Word α) : List (Word α) → String
  | [] => ""
  | w :: rest => streamSeparator settings v w ++ w.text ++ streamAfter settings w rest

/-- The text of words in the order in which they were drawn. -/
def stream (settings : Settings α) : List (Word α) → String
  | [] => ""
  | w :: rest => w.text ++ streamAfter settings w rest

end Rendering
end Galley
