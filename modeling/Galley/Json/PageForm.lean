import Galley.Column
import Galley.Geometry.Sheet
import Galley.Json.Form
import Galley.Segmenter
import Galley.Warning

/-!
Geometry, glyphs, words, lines, columns, warnings and counts as JSON.
-/

namespace Galley

instance : JsonForm (Point Float) where
  toJson p := .object [("x", toJson p.x), ("y", toJson p.y)]
  ofJson? j := do
    let r ← JsonRecord.ofJson? ["x", "y"] j
    return { x := ← r.required "x", y := ← r.required "y" }

instance : JsonForm (Transform Float) where
  toJson m := .object [
    ("a", toJson m.a), ("b", toJson m.b), ("c", toJson m.c),
    ("d", toJson m.d), ("e", toJson m.e), ("f", toJson m.f)]
  ofJson? j := do
    let r ← JsonRecord.ofJson? ["a", "b", "c", "d", "e", "f"] j
    return {
      a := ← r.required "a"
      b := ← r.required "b"
      c := ← r.required "c"
      d := ← r.required "d"
      e := ← r.required "e"
      f := ← r.required "f" }

instance : JsonForm (Box Float) where
  toJson b := .object [
    ("x0", toJson b.x0), ("y0", toJson b.y0), ("x1", toJson b.x1), ("y1", toJson b.y1)]
  ofJson? j := do
    let r ← JsonRecord.ofJson? ["x0", "y0", "x1", "y1"] j
    return {
      x0 := ← r.required "x0"
      y0 := ← r.required "y0"
      x1 := ← r.required "x1"
      y1 := ← r.required "y1" }

instance : JsonForm (Sheet Float) where
  toJson s := .object [
    ("width", toJson s.width), ("height", toJson s.height), ("rotate", .int s.turn)]
  ofJson? j := do
    let r ← JsonRecord.ofJson? ["width", "height", "rotate"] j
    return {
      width := ← r.required "width"
      height := ← r.required "height"
      turn := ← (r.fields.lookup "rotate").bind
        (Json.intIn? Int32.minValue.toInt Int32.maxValue.toInt) }

instance : JsonForm Direction where
  toJson r :=
    .text <|
      match r with
      | .right => "Deg0"
      | .up => "Deg90"
      | .left => "Deg180"
      | .down => "Deg270"
  ofJson? j :=
    match j.variant? with
    | some "Deg0" => some .right
    | some "Deg90" => some .up
    | some "Deg180" => some .left
    | some "Deg270" => some .down
    | _ => none

instance : JsonForm WritingMode where
  toJson mode :=
    .text <|
      match mode with
      | .horizontal => "Horizontal"
      | .vertical => "Vertical"
  ofJson? j :=
    match j.variant? with
    | some "Horizontal" => some .horizontal
    | some "Vertical" => some .vertical
    | _ => none

instance : JsonForm (Glyph Float) where
  toJson g := .object [
    ("unicode", toJson g.char),
    ("code", toJson g.code),
    ("index", toJson g.index),
    ("x", toJson g.x),
    ("y", toJson g.y),
    ("dx", toJson g.dx),
    ("dy", toJson g.dy),
    ("font_size", toJson g.size),
    ("rotation", toJson g.direction),
    ("writing_mode", toJson g.mode),
    ("font_name", toJson g.font)]
  ofJson? j := do
    let r ← JsonRecord.ofJson? ["unicode", "code", "index", "x", "y", "dx", "dy", "font_size",
      "rotation", "writing_mode", "font_name"] j
    return {
      char := ← r.required "unicode"
      code := ← r.required "code"
      index := ← r.required "index"
      x := ← r.required "x"
      y := ← r.required "y"
      dx := ← r.required "dx"
      dy := ← r.required "dy"
      size := ← r.required "font_size"
      direction := ← r.required "rotation"
      mode := ← r.required "writing_mode"
      font := ← r.required "font_name" }

instance : JsonForm (Word Float) where
  toJson w := .object [
    ("text", toJson w.text),
    ("chars", toJson w.glyphs),
    ("bbox", toJson w.box),
    ("base", toJson w.base),
    ("font_size", toJson w.size),
    ("rotation", toJson w.direction),
    ("writing_mode", toJson w.mode),
    ("edges", toJson w.edges),
    ("order", toJson w.order)]
  ofJson? j := do
    let r ← JsonRecord.ofJson? ["text", "chars", "bbox", "base", "font_size", "rotation",
      "writing_mode", "edges", "order"] j
    return {
      text := ← r.required "text"
      glyphs := ← r.required "chars"
      box := ← r.required "bbox"
      base := ← r.required "base"
      size := ← r.required "font_size"
      direction := ← r.required "rotation"
      mode := ← r.required "writing_mode"
      edges := ← r.required "edges"
      order := ← r.required "order" }

instance : JsonForm (Line Float) where
  toJson l := .object [
    ("words", toJson l.words),
    ("base", toJson l.base),
    ("rotation", toJson l.direction),
    ("font_size", toJson l.size),
    ("bbox", toJson l.box)]
  ofJson? j := do
    let r ← JsonRecord.ofJson? ["words", "base", "rotation", "font_size", "bbox"] j
    return {
      words := ← r.required "words"
      base := ← r.required "base"
      direction := ← r.required "rotation"
      size := ← r.required "font_size"
      box := ← r.required "bbox" }

instance : JsonForm (Gap Float) where
  toJson g := .object [
    ("start", toJson g.start), ("end", toJson g.stop), ("width", toJson g.width)]
  ofJson? j := do
    let r ← JsonRecord.ofJson? ["start", "end", "width"] j
    return {
      start := ← r.required "start"
      stop := ← r.required "end"
      width := ← r.required "width" }

instance : JsonForm (Column Float) where
  toJson c := .object [
    ("x_min", toJson c.xMin), ("x_max", toJson c.xMax), ("lines", toJson c.lines)]
  ofJson? j := do
    let r ← JsonRecord.ofJson? ["x_min", "x_max", "lines"] j
    return {
      xMin := ← r.required "x_min"
      xMax := ← r.required "x_max"
      lines := ← r.required "lines" }

instance : JsonForm (ColumnLayout Float) where
  toJson l := .object [("columns", toJson l.columns), ("gaps", toJson l.gaps)]
  ofJson? j := do
    let r ← JsonRecord.ofJson? ["columns", "gaps"] j
    return { columns := ← r.required "columns", gaps := ← r.required "gaps" }

namespace WarningCode

/-- The name of a kind of warning in JSON. -/
def name : WarningCode → String
  | missingFont => "MissingFont"
  | malformedOperator => "MalformedOperator"
  | unbalancedRestore => "UnbalancedRestore"
  | resourceLimitReached => "ResourceLimitReached"
  | encodingFallback => "EncodingFallback"

/-- The kind of warning of a name. -/
def ofName? (name : String) : Option WarningCode :=
  match name with
  | "MissingFont" => some missingFont
  | "MalformedOperator" => some malformedOperator
  | "UnbalancedRestore" => some unbalancedRestore
  | "ResourceLimitReached" => some resourceLimitReached
  | "EncodingFallback" => some encodingFallback
  | _ => none

/-- The kind of a tagged object, which may hold a `detail` of `null`. -/
def ofTagged? (tag detail : Option Json) : Option WarningCode :=
  match tag, detail with
  | some tag, none => tag.variant?.bind ofName?
  | some tag, some .null => tag.variant?.bind ofName?
  | _, _ => none

end WarningCode

instance : JsonForm WarningCode where
  toJson code := .object [("type", .text code.name)]
  ofJson? j := do
    let r ← JsonRecord.ofJson? ["type", "detail"] j
    if r.isArray && r.fields.length != 2 then none
    else WarningCode.ofTagged? (r.fields.lookup "type") (r.fields.lookup "detail")

instance : JsonForm Warning where
  toJson w := .object [
    ("code", toJson w.code),
    ("description", toJson w.description),
    ("operator_index", toJson w.operatorIndex),
    ("font_name", toJson w.font)]
  ofJson? j := do
    let r ← JsonRecord.ofJson? ["code", "description", "operator_index", "font_name"] j
    return {
      code := ← r.required "code"
      description := ← r.required "description"
      operatorIndex := ← r.optional "operator_index"
      font := ← r.optional "font_name" }

instance : JsonForm Tally where
  toJson t := .object [
    ("chars_seen", toJson t.seen),
    ("chars_accepted", toJson t.accepted),
    ("whitespace", toJson t.blank),
    ("dropped_non_finite", toJson t.nonFinite),
    ("dropped_off_page", toJson t.offPage),
    ("tiny_chars", toJson t.tiny),
    ("dropped_tiny", toJson t.tinyDropped),
    ("words", toJson t.words)]
  ofJson? j := do
    let r ← JsonRecord.ofJson? ["chars_seen", "chars_accepted", "whitespace",
      "dropped_non_finite", "dropped_off_page", "tiny_chars", "dropped_tiny", "words"] j
    return {
      seen := ← r.required "chars_seen"
      accepted := ← r.required "chars_accepted"
      blank := ← r.required "whitespace"
      nonFinite := ← r.required "dropped_non_finite"
      offPage := ← r.required "dropped_off_page"
      tiny := ← r.required "tiny_chars"
      tinyDropped := ← r.required "dropped_tiny"
      words := ← r.required "words" }

end Galley
