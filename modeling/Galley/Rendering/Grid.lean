import Galley.Rendering.Plain

/-!
Layout text: words on a grid of characters, so that gaps on the page become runs of spaces and
blank lines.
-/

namespace Galley.Rendering

variable {α : Type} [Scalar α]

/-- The size of a cell of the grid. -/
structure Cell (α : Type) where
  width : α
  height : α
deriving DecidableEq, Repr

/-- The font size in the middle of all words, or 12 where that is not a positive number. -/
def medianSize (words : List (Word α)) : α :=
  let sizes := (words.map Word.size).mergeSort fun a b => Scalar.order a b != .gt
  match sizes[sizes.length / 2]? with
  | some size => if Scalar.isPositive size then size else 12.0
  | none => 12.0

/-- The average width of a glyph of all words, or half the median size without any width. -/
def averageCell (words : List (Word α)) : α :=
  let width :=
    words.foldl (fun (sum : α) w => sum + Scalar.greatest (w.stop - w.start) 0.0) (0.0 : α)
  let count := words.foldl (fun n w => n + w.length) 0
  if 0.0 < width ∧ 0 < count then width / Scalar.ofNat count else medianSize words * 0.5

/-- The grid of a page: as set, or else fitted to its words. -/
def cell (options : GridOptions α) (p : Pools α) : Cell α :=
  let median := medianSize p.words
  let usable (v fallback : α) : α := if Scalar.isPositive v then v else fallback
  { width := usable (options.cellWidth.getD (averageCell p.words)) (median * 0.5)
    height := usable (options.lineHeight.getD (median * 1.2)) (median * 1.2) }

/-- Where reading begins along a direction. -/
def origin (direction : Direction) (page : Box α) : α :=
  match direction with
  | .right => page.x0
  | .up => page.y0
  | .left => -page.x1
  | .down => -page.y1

/-- How far a baseline is from the side of the page where the first line stands. -/
def depth (direction : Direction) (page : Box α) (base : α) : α :=
  match direction with
  | .right => page.y1 - base
  | .up => base - page.x0
  | .left => base - page.y0
  | .down => page.x1 - base

/-- The column of the grid in which a word should begin. -/
def target (page : Box α) (cell : Cell α) (direction : Direction) (w : Word α) : Nat :=
  Scalar.toNat64
    (Scalar.greatest (Scalar.round ((w.start - origin direction page) / cell.width)) 0.0)

/-- The number of spaces in front of a word; `previous` and `cursor` are what stands before it. -/
def spacesBefore (settings : Settings α) (target cursor : Nat) (previous : Option (Word α))
    (w : Word α) : Nat :=
  let wanted :=
    match previous with
    | none => target
    | some v => if settings.spacing.separates v w then max (target - cursor) 1 else 0
  min wanted settings.grid.maxSpaces

/-- The words of a row from column `cursor` on. -/
def rowFrom (settings : Settings α) (target : Word α → Nat) (cursor : Nat)
    (previous : Option (Word α)) : List (Word α) → List Char
  | [] => []
  | w :: rest =>
    let spaces := spacesBefore settings (target w) cursor previous w
    List.replicate spaces ' ' ++ w.text.toList ++
      rowFrom settings target (cursor + spaces + w.text.length) (some w) rest

/-- Drop white space at the end. -/
def trimEnd (row : List Char) : List Char :=
  (row.reverse.dropWhile Unicode.isWhiteSpace).reverse

/-- The row of a line. -/
def row (settings : Settings α) (page : Box α) (cell : Cell α) (l : Line α) : List Char :=
  trimEnd (rowFrom settings (target page cell l.direction) 0 none l.words)

/-- The number of blank rows between two lines of these depths. -/
def blankRows (options : GridOptions α) (height above below : α) : Nat :=
  min (Scalar.toInt64 (Scalar.round ((below - above) / height)) - 1).toNat options.maxBlankLines

/-- The rows of lines below a line of depth `above`. -/
def rowsAfter (settings : Settings α) (page : Box α) (cell : Cell α) (above : α) :
    List (Line α) → List (List Char)
  | [] => []
  | l :: rest =>
    let below := depth l.direction page l.base
    List.replicate (blankRows settings.grid cell.height above below) [] ++
      row settings page cell l :: rowsAfter settings page cell below rest

/-- The rows of lines. -/
def rows (settings : Settings α) (page : Box α) (cell : Cell α) :
    List (Line α) → List (List Char)
  | [] => []
  | l :: rest =>
    row settings page cell l ::
      rowsAfter settings page cell (depth l.direction page l.base) rest

/-- Drop blank rows at the end. -/
def trimRows (rows : List (List Char)) : List (List Char) :=
  (rows.reverse.dropWhile List.isEmpty).reverse

/-- The rows of lines as text. -/
def gridLines (settings : Settings α) (page : Box α) (cell : Cell α) (lines : List (Line α)) :
    String :=
  "\n".intercalate ((trimRows (rows settings page cell lines)).map String.ofList)

/-- The text of a page on its grid, each direction in a block of its own. -/
def grid (settings : Settings α) (page : Box α) (p : Pools α) : String :=
  let cell := cell settings.grid p
  joinBlocks (p.all.map fun pool => gridLines settings page cell (pool.lines settings.lineOptions))

end Galley.Rendering
