import Galley.Binary64
import Galley.Column
import Galley.CommandLine.Arguments
import Galley.CommandLine.Report
import Galley.CommandLine.Run
import Galley.Content.Command
import Galley.Content.Fault
import Galley.Content.Lexeme
import Galley.Content.Number
import Galley.Content.Operand
import Galley.Content.Run
import Galley.Content.Stream
import Galley.Csv
import Galley.Decimal.Basic
import Galley.Decimal.Numeral
import Galley.Decimal.Shortest
import Galley.Decimal.Style
import Galley.Encoding.Codepage
import Galley.Encoding.Utf8
import Galley.Failure
import Galley.Font
import Galley.Geometry.Box
import Galley.Geometry.Direction
import Galley.Geometry.Sheet
import Galley.Geometry.Transform
import Galley.Glyph
import Galley.GraphicsState
import Galley.Json.Basic
import Galley.Json.FontForm
import Galley.Json.Form
import Galley.Json.PageForm
import Galley.Json.Parser
import Galley.Json.Printer
import Galley.Json.SearchForm
import Galley.Json.SettingsForm
import Galley.Line
import Galley.Main
import Galley.Page
import Galley.Pool
import Galley.Proofs.Binary64.Addition
import Galley.Proofs.Binary64.Arithmetic
import Galley.Proofs.Binary64.Congruence
import Galley.Proofs.Binary64.Extremes
import Galley.Proofs.Binary64.Halving
import Galley.Proofs.Binary64.Negation
import Galley.Proofs.Binary64.NonNegative
import Galley.Proofs.Binary64.Order
import Galley.Proofs.Binary64.Packing
import Galley.Proofs.Binary64.Rounding
import Galley.Proofs.Binary64.Shifting
import Galley.Proofs.Column.Center
import Galley.Proofs.Column.Gaps
import Galley.Proofs.Column.Joining
import Galley.Proofs.Column.Placement
import Galley.Proofs.Column.Runs
import Galley.Proofs.Column.Tiling
import Galley.Proofs.CommandLine.Report
import Galley.Proofs.Content.Byte
import Galley.Proofs.Content.Concatenation
import Galley.Proofs.Content.Cursor
import Galley.Proofs.Content.CursorDescent
import Galley.Proofs.Content.CursorScan
import Galley.Proofs.Content.CursorStream
import Galley.Proofs.Content.Emission
import Galley.Proofs.Content.FontReport
import Galley.Proofs.Content.FontSelection
import Galley.Proofs.Content.GuessReport
import Galley.Proofs.Content.InlineImage
import Galley.Proofs.Content.LineMatrix
import Galley.Proofs.Content.Locality
import Galley.Proofs.Content.NumberForm
import Galley.Proofs.Content.Operands
import Galley.Proofs.Content.Outline
import Galley.Proofs.Content.Placement
import Galley.Proofs.Content.Reading
import Galley.Proofs.Content.Report
import Galley.Proofs.Content.Saving
import Galley.Proofs.Content.Scanning
import Galley.Proofs.Content.Showing
import Galley.Proofs.Content.Skipping
import Galley.Proofs.Content.Spelling
import Galley.Proofs.Content.Splitting
import Galley.Proofs.Content.StrayOperands
import Galley.Proofs.Content.Writing
import Galley.Proofs.Csv
import Galley.Proofs.Encoding.Lossy
import Galley.Proofs.Encoding.Utf8
import Galley.Proofs.Geometry.Sheet
import Galley.Proofs.Geometry.Transform
import Galley.Proofs.Json.Documents
import Galley.Proofs.Json.Forms
import Galley.Proofs.Json.Numbers
import Galley.Proofs.Json.Reading
import Galley.Proofs.Json.Strings
import Galley.Proofs.Line.Baseline
import Galley.Proofs.Line.Bucketing
import Galley.Proofs.Line.Formation
import Galley.Proofs.Line.Group
import Galley.Proofs.Line.Neighbours
import Galley.Proofs.Line.Repeats
import Galley.Proofs.Page.BucketHeight
import Galley.Proofs.Page.Conservation
import Galley.Proofs.Page.Keeping
import Galley.Proofs.Page.Presence
import Galley.Proofs.Page.Storage
import Galley.Proofs.Page.StreamOrder
import Galley.Proofs.Page.Text
import Galley.Proofs.Page.TinyLimit
import Galley.Proofs.Pool
import Galley.Proofs.Pool.Ledger
import Galley.Proofs.Real.Scalar
import Galley.Proofs.Regex.Literal
import Galley.Proofs.Regex.Positions
import Galley.Proofs.Rendering.Cell
import Galley.Proofs.Rendering.Columns
import Galley.Proofs.Rendering.Depth
import Galley.Proofs.Rendering.Grid
import Galley.Proofs.Rendering.GridRows
import Galley.Proofs.Rendering.Joined
import Galley.Proofs.Rendering.Plain
import Galley.Proofs.Search.Literal
import Galley.Proofs.Search.Owner
import Galley.Proofs.Search.Touched
import Galley.Proofs.Segmenter.Account
import Galley.Proofs.Segmenter.Call
import Galley.Proofs.Segmenter.Coherence
import Galley.Proofs.Segmenter.Continuity
import Galley.Proofs.Segmenter.Cut
import Galley.Proofs.Segmenter.Delivery
import Galley.Proofs.Segmenter.Dropping
import Galley.Proofs.Segmenter.Extent
import Galley.Proofs.Segmenter.Flow
import Galley.Proofs.Segmenter.Joining
import Galley.Proofs.Segmenter.TinyLimit
import Galley.Proofs.Settings
import Galley.Proofs.Turning.Glyph
import Galley.Proofs.Turning.Line
import Galley.Proofs.Turning.Pools
import Galley.Proofs.Turning.Rendering
import Galley.Proofs.Turning.Segmenter
import Galley.Proofs.Turning.Word
import Galley.Proofs.Unicode.Token
import Galley.Regex.CharSet
import Galley.Regex.Parser
import Galley.Regex.Pattern
import Galley.Rendering.Columns
import Galley.Rendering.Grid
import Galley.Rendering.Plain
import Galley.Scalar
import Galley.Search
import Galley.Segmenter
import Galley.Settings
import Galley.Shaping
import Galley.TextState
import Galley.Unicode.Alphanumeric
import Galley.Unicode.CanonicalDecomposition
import Galley.Unicode.CaseFolding
import Galley.Unicode.CharTable
import Galley.Unicode.CombiningClass
import Galley.Unicode.CompatibilityDecomposition
import Galley.Unicode.Composition
import Galley.Unicode.DecimalDigit
import Galley.Unicode.GraphemeExtend
import Galley.Unicode.Normalization
import Galley.Unicode.Printable
import Galley.Unicode.Quoted
import Galley.Unicode.RangeSet
import Galley.Unicode.WhiteSpace
import Galley.Unicode.WordCharacter
import Galley.Warning
import Galley.Word
import Galley.WordStore
