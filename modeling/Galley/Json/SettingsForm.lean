import Galley.Json.Form
import Galley.Settings

/-!
The settings as JSON. What a document leaves out keeps its default, on every level.
-/

namespace Galley

instance : JsonForm Normalization where
  toJson form :=
    .text <|
      match form with
      | .none => "none"
      | .nfc => "nfc"
      | .nfd => "nfd"
      | .nfkc => "nfkc"
      | .nfkd => "nfkd"
  ofJson? j :=
    match j.variant? with
    | some "none" => some .none
    | some "nfc" => some .nfc
    | some "nfd" => some .nfd
    | some "nfkc" => some .nfkc
    | some "nfkd" => some .nfkd
    | _ => none

instance : JsonForm (WordTolerances Float) where
  toJson t := .object [
    ("dup_max_pri_delta", toJson t.duplicateAlong),
    ("dup_max_sec_delta", toJson t.duplicateAcross),
    ("min_dup_break_overlap", toJson t.overlap),
    ("min_word_break_space", toJson t.gap),
    ("max_base_delta", toJson t.drift)]
  ofJson? j := do
    let r ← JsonRecord.ofJson? ["dup_max_pri_delta", "dup_max_sec_delta", "min_dup_break_overlap",
      "min_word_break_space", "max_base_delta"] j
    let d : WordTolerances Float := .default
    return {
      duplicateAlong := ← r.withDefault "dup_max_pri_delta" d.duplicateAlong
      duplicateAcross := ← r.withDefault "dup_max_sec_delta" d.duplicateAcross
      overlap := ← r.withDefault "min_dup_break_overlap" d.overlap
      gap := ← r.withDefault "min_word_break_space" d.gap
      drift := ← r.withDefault "max_base_delta" d.drift }

instance : JsonForm (SpacingThresholds Float) where
  toJson t := .object [
    ("merge_below", toJson t.mergeBelow),
    ("split_above", toJson t.splitAbove)]
  ofJson? j := do
    let r ← JsonRecord.ofJson? ["merge_below", "split_above"] j
    let d : SpacingThresholds Float := .default
    return {
      mergeBelow := ← r.withDefault "merge_below" d.mergeBelow
      splitAbove := ← r.withDefault "split_above" d.splitAbove }

instance : JsonForm (GridOptions Float) where
  toJson t := .object [
    ("cell_width", toJson t.cellWidth),
    ("line_height", toJson t.lineHeight),
    ("max_leading_spaces", toJson t.maxSpaces),
    ("max_blank_lines", toJson t.maxBlankLines)]
  ofJson? j := do
    let r ← JsonRecord.ofJson?
      ["cell_width", "line_height", "max_leading_spaces", "max_blank_lines"] j
    let d : GridOptions Float := .default
    return {
      cellWidth := ← r.withDefault "cell_width" d.cellWidth
      lineHeight := ← r.withDefault "line_height" d.lineHeight
      maxSpaces := ← r.withDefault "max_leading_spaces" d.maxSpaces
      maxBlankLines := ← r.withDefault "max_blank_lines" d.maxBlankLines }

instance : JsonForm (ColumnOptions Float) where
  toJson t := .object [
    ("min_gap_width", toJson t.minGap),
    ("max_columns", toJson t.maxColumns),
    ("quantum", toJson t.quantum)]
  ofJson? j := do
    let r ← JsonRecord.ofJson? ["min_gap_width", "max_columns", "quantum"] j
    let d : ColumnOptions Float := .default
    return {
      minGap := ← r.withDefault "min_gap_width" d.minGap
      maxColumns := ← r.withDefault "max_columns" d.maxColumns
      quantum := ← r.withDefault "quantum" d.quantum }

instance : JsonForm (Settings Float) where
  toJson s := .object [
    ("word", toJson s.word),
    ("pool_quantum", toJson s.bucketHeight),
    ("max_tiny_chars", toJson s.tinyLimit),
    ("line_tolerance", toJson s.lineTolerance),
    ("paragraph_gap", toJson s.paragraphGap),
    ("spacing", toJson s.spacing),
    ("layout", toJson s.grid),
    ("columns", toJson s.columns),
    ("raw_order", toJson s.streamOrder),
    ("collect_warnings", toJson s.collectWarnings),
    ("unicode_norm", toJson s.form)]
  ofJson? j := do
    let r ← JsonRecord.ofJson? ["word", "pool_quantum", "max_tiny_chars", "line_tolerance",
      "paragraph_gap", "spacing", "layout", "columns", "raw_order", "collect_warnings",
      "unicode_norm"] j
    let d : Settings Float := .default
    return {
      word := ← r.withDefault "word" d.word
      bucketHeight := ← r.withDefault "pool_quantum" d.bucketHeight
      tinyLimit := ← r.withDefault "max_tiny_chars" d.tinyLimit
      lineTolerance := ← r.withDefault "line_tolerance" d.lineTolerance
      paragraphGap := ← r.withDefault "paragraph_gap" d.paragraphGap
      spacing := ← r.withDefault "spacing" d.spacing
      grid := ← r.withDefault "layout" d.grid
      columns := ← r.withDefault "columns" d.columns
      streamOrder := ← r.withDefault "raw_order" d.streamOrder
      collectWarnings := ← r.withDefault "collect_warnings" d.collectWarnings
      form := ← r.withDefault "unicode_norm" d.form }

end Galley
