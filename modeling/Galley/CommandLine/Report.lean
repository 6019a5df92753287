import Galley.CommandLine.Arguments
import Galley.Csv
import Galley.Decimal.Style
import Galley.Json.Printer
import Galley.Json.SearchForm
import Galley.Page

/-!
What is printed of a page, as text, as JSON or as a table with commas.
-/

namespace Galley.CommandLine

/-- A direction as an angle. -/
def angle : Direction → String
  | .right => "0"
  | .up => "90"
  | .left => "180"
  | .down => "270"

/-- The edges of a box with two places each. -/
def boxFields (b : Box Float) : List String := [b.x0, b.y0, b.x1, b.y1].map Decimal.twoPlaces

def glyphTable (glyphs : List (Glyph Float)) : Csv.Table where
  header := ["char", "x", "y", "dx", "dy", "size", "rotation", "font"]
  rows := glyphs.map fun g =>
    g.char.toString :: [g.x, g.y, g.dx, g.dy, g.size].map Decimal.twoPlaces ++
      [angle g.direction, g.font]

def wordTable (words : List (Word Float)) : Csv.Table where
  header := ["text", "x0", "y0", "x1", "y1", "size", "rotation"]
  rows := words.map fun w =>
    w.text :: boxFields w.box ++ [Decimal.twoPlaces w.size, angle w.direction]

def matchTable (found : List (SearchMatch Float)) : Csv.Table where
  header := ["text", "x0", "y0", "x1", "y1"]
  rows := found.map fun m => m.text :: boxFields m.box

/-- A word without its glyphs. -/
def wordJson (w : Word Float) : Json :=
  .object [
    ("text", toJson w.text),
    ("x0", toJson w.box.x0),
    ("y0", toJson w.box.y0),
    ("x1", toJson w.box.x1),
    ("y1", toJson w.box.y1),
    ("base", toJson w.base),
    ("size", toJson w.size),
    ("rotation", toJson (angle w.direction)),
    ("writing_mode", toJson w.mode)]

/-- The text of a page in a mode. -/
def textOf (p : Page Float) : TextMode → String
  | .plain => p.plainText
  | .layout => p.gridText
  | .columns => p.columnText

/-- The text of a page with what is known about it. -/
def textJson (p : Page Float) (mode : TextMode) : Json :=
  .object <|
    [("mode", toJson mode.name),
      ("text", toJson (textOf p mode)),
      ("stats", toJson p.tally),
      ("warnings", toJson p.warnings)] ++
    if mode = .columns then [("columns", toJson p.columnLayout)] else []

/-- JSON over several lines, the last one ended. -/
def jsonLines (j : Json) : String := j.pretty ++ "\n"

/-- A list in a format, as JSON or as a table. -/
def listing (format : Format) (json : Json) (table : Csv.Table) : String :=
  match format with
  | .text => table.tabs
  | .json => jsonLines json
  | .csv => table.commas

def reportText (p : Page Float) (mode : TextMode) (format : Format) : String :=
  match format with
  | .json => jsonLines (textJson p mode).sortNames
  | _ => textOf p mode ++ "\n"

def reportGlyphs (glyphs : List (Glyph Float)) (format : Format) : String :=
  listing format (toJson glyphs) (glyphTable glyphs)

def reportWords (words : List (Word Float)) (format : Format) : String :=
  listing format (Json.array (words.map wordJson)).sortNames (wordTable words)

def reportMatches (found : List (SearchMatch Float)) (format : Format) : String :=
  listing format (toJson found) (matchTable found)

end Galley.CommandLine
