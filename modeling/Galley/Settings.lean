import Galley.Scalar
import Galley.Unicode.Normalization

/-!
The thresholds by which glyphs become words, words lines, and lines text.
-/

namespace Galley

/-- When a glyph continues a word. All but the last are multiples of the font size of the word. -/
structure WordTolerances (α : Type) where
  /-- Glyphs whose origins are closer than this along the line may be one glyph drawn twice. -/
  duplicateAlong : α
  /-- The same for the distance of their baselines. -/
  duplicateAcross : α
  /-- How far back a glyph may begin without breaking the word. -/
  overlap : α
  /-- How far ahead a glyph may begin without breaking the word. -/
  gap : α
  /-- How far the baseline may drift, in units of the page. -/
  drift : α
deriving DecidableEq, Repr, Inhabited

/-- When a gap between words reads as a space, in average glyph widths. -/
structure SpacingThresholds (α : Type) where
  /-- Below this words are joined. -/
  mergeBelow : α
  /-- Above this they are always kept apart. -/
  splitAbove : α
deriving DecidableEq, Repr, Inhabited

/-- The character grid on which layout text stands. -/
structure GridOptions (α : Type) where
  /-- The width of a column of the grid; found from the page when absent. -/
  cellWidth : Option α
  /-- The height of a row of the grid; found from the page when absent. -/
  lineHeight : Option α
  /-- The longest run of spaces for one gap. -/
  maxSpaces : Nat
  /-- The longest run of blank lines for one gap. -/
  maxBlankLines : Nat
deriving DecidableEq, Repr, Inhabited

/-- How columns of text are told apart. -/
structure ColumnOptions (α : Type) where
  /-- The narrowest empty band between columns. -/
  minGap : α
  maxColumns : Nat
  /-- Words are widened to multiples of this. -/
  quantum : α
deriving DecidableEq, Repr, Inhabited

/-- All settings of an extraction. -/
structure Settings (α : Type) where
  word : WordTolerances α
  /-- The height of the buckets in which words are kept. -/
  bucketHeight : α
  /-- How many tiny glyphs are let through. -/
  tinyLimit : Nat
  /-- How far words of a line may be from its baseline, in font sizes. -/
  lineTolerance : α
  /-- Lines farther apart than this begin a paragraph, in font sizes. -/
  paragraphGap : α
  spacing : SpacingThresholds α
  grid : GridOptions α
  columns : ColumnOptions α
  /-- Whether words stay in the order in which they were drawn. -/
  streamOrder : Bool
  collectWarnings : Bool
  form : Normalization
deriving DecidableEq, Repr, Inhabited

variable {α : Type} [Scalar α]

namespace WordTolerances

def default : WordTolerances α := ⟨0.1, 0.2, 0.1, 0.1, 0.5⟩

end WordTolerances

namespace SpacingThresholds

def default : SpacingThresholds α := ⟨0.05, 0.2⟩

end SpacingThresholds

namespace GridOptions

omit [Scalar α] in
def default : GridOptions α := ⟨none, none, 200, 8⟩

end GridOptions

namespace ColumnOptions

def default : ColumnOptions α := ⟨20.0, 4, 5.0⟩

end ColumnOptions

/-- The reason for which settings are refused. -/
inductive SettingsError (α : Type)
  | notPositive (field : String) (value : α)
  | noColumns
  | spacingOrder (mergeBelow splitAbove : α)
deriving DecidableEq, Repr

namespace Settings

def default : Settings α where
  word := .default
  bucketHeight := 2.0
  tinyLimit := 50000
  lineTolerance := 0.5
  paragraphGap := 1.8
  spacing := .default
  grid := .default
  columns := .default
  streamOrder := false
  collectWarnings := true
  form := .none

/-- Refuse a value that is not a positive number. -/
def requirePositive (field : String) (value : α) : Except (SettingsError α) Unit :=
  if Scalar.isPositive value then .ok () else .error (.notPositive field value)

/-- Check the settings; of several faults the first in this order is reported. -/
def validate (s : Settings α) : Except (SettingsError α) Unit := do
  requirePositive "pool_quantum" s.bucketHeight
  requirePositive "line_tolerance" s.lineTolerance
  requirePositive "paragraph_gap" s.paragraphGap
  requirePositive "columns.min_gap_width" s.columns.minGap
  requirePositive "columns.quantum" s.columns.quantum
  if s.columns.maxColumns = 0 then throw .noColumns
  if s.spacing.splitAbove < s.spacing.mergeBelow then
    throw (.spacingOrder s.spacing.mergeBelow s.spacing.splitAbove)
  match s.grid.cellWidth with
  | some v => requirePositive "layout.cell_width" v
  | none => pure ()
  match s.grid.lineHeight with
  | some v => requirePositive "layout.line_height" v
  | none => pure ()

end Settings
end Galley
