import Galley.Line

/-!
Columns: the bands of a page between the gaps that no word of its lines reaches into. A line
without a gap that runs across most of the text, such as a title, does not hide the gaps of the
lines below it.
-/

namespace Galley

/-- An empty band between words. -/
structure Gap (α : Type) where
  start : α
  stop : α
  width : α
deriving DecidableEq, Repr, Inhabited

/-- A band of the page and the lines in it. -/
structure Column (α : Type) where
  xMin : α
  xMax : α
  lines : List (Line α)
deriving DecidableEq, Repr, Inhabited

/-- The columns of a page from left to right, and the gaps between them. -/
structure ColumnLayout (α : Type) where
  columns : List (Column α)
  gaps : List (Gap α)
deriving DecidableEq, Repr, Inhabited

variable {α : Type} [Scalar α]

namespace Gap

def between (start stop : α) : Gap α := ⟨start, stop, stop - start⟩

def midpoint (g : Gap α) : α := (g.start + g.stop) / 2.0

/-- The gaps between neighbouring runs of words. -/
def ofRuns : List (α × α) → List (Gap α)
  | a :: b :: rest => between a.2 b.1 :: ofRuns (b :: rest)
  | _ => []

/-- Join neighbouring gaps that have less than `minGap` between them. -/
def join (minGap : α) : List (Gap α) → List (Gap α)
  | [] => []
  | g :: rest => go g rest
where
  go (g : Gap α) : List (Gap α) → List (Gap α)
    | [] => [g]
    | next :: rest =>
      if next.start - g.stop < minGap then go (between g.start next.stop) rest
      else g :: go next rest

/-- Whether a gap is preferred to another: the wider one, of equals the one farther left. -/
def preferred (g h : Gap α) : Bool :=
  match Scalar.order h.width g.width with
  | .lt => true
  | .eq => Scalar.order g.start h.start != .gt
  | .gt => false

/-- Keep the `n` preferred gaps, from left to right. -/
def keepBest (n : Nat) (gaps : List (Gap α)) : List (Gap α) :=
  if gaps.length ≤ n then gaps
  else ((gaps.mergeSort preferred).take n).mergeSort fun g h => Scalar.order g.start h.start != .gt

end Gap

namespace ColumnOptions

/-- Whether two neighbouring words of a line are as far apart as columns are. -/
def isSplit (options : ColumnOptions α) (l : Line α) : Bool := go l.words
where
  go : List (Word α) → Bool
    | v :: w :: rest => options.minGap ≤ w.box.x0 - v.box.x1 || go (w :: rest)
    | _ => false

/-- Tells for each line whether it runs across the page: no such line counts unless split ones
outnumber them. -/
def spanning (options : ColumnOptions α) (lines : List (Line α)) : List Bool :=
  let extent :=
    Scalar.greatestOf (lines.map (·.box.x1)) - Scalar.leastOf (lines.map (·.box.x0))
  let flags := lines.map fun l => !options.isSplit l && 0.5 * extent ≤ l.box.width
  let spanned := flags.count true
  let split := lines.countP options.isSplit
  if 0 < spanned ∧ spanned < split then flags else lines.map fun _ => false

/-- The extent of a word, widened to whole quanta. -/
def span (options : ColumnOptions α) (w : Word α) : α × α :=
  (Scalar.floor (w.box.x0 / options.quantum) * options.quantum,
    Scalar.ceil (w.box.x1 / options.quantum) * options.quantum)

/-- Whether one span begins before another, or may do so. -/
def spanBefore (a b : α × α) : Bool :=
  match Scalar.order a.1 b.1 with
  | .lt => true
  | .eq => Scalar.order a.2 b.2 != .gt
  | .gt => false

/-- Unite sorted spans that touch one another. -/
def runs : List (α × α) → List (α × α)
  | [] => []
  | s :: rest => go s rest
where
  go (run : α × α) : List (α × α) → List (α × α)
    | [] => [run]
    | s :: rest =>
      if s.1 ≤ run.2 then go (run.1, Scalar.greatest run.2 s.2) rest else run :: go s rest

/-- The gaps between columns when the lines flagged by `skip` are left out. -/
def gapsExcluding (options : ColumnOptions α) (lines : List (Line α)) (skip : List Bool) :
    List (Gap α) :=
  let considered := (lines.zip skip).filterMap fun (l, skipped) => if skipped then none else some l
  let spans := (considered.flatMap Line.words).map options.span
  let wide := (Gap.ofRuns (runs (spans.mergeSort spanBefore))).filter fun g =>
    decide (options.minGap ≤ g.width)
  Gap.keepBest (options.maxColumns - 1) (Gap.join options.minGap wide)

/-- The gaps between the columns of these lines. -/
def findGaps (options : ColumnOptions α) (lines : List (Line α)) : List (Gap α) :=
  options.gapsExcluding lines (options.spanning lines)

end ColumnOptions

namespace ColumnLayout

/-- The boundaries of the bands: both ends of the page and the middle of each gap. -/
def boundaries (gaps : List (Gap α)) (xMin xMax : α) : List α :=
  xMin :: gaps.map Gap.midpoint ++ [xMax]

/-- The number of the band that holds a position; beyond the page the outermost band does. -/
def bandOf (gaps : List (Gap α)) (x : α) : Nat :=
  ((gaps.map Gap.midpoint).takeWhile fun b => decide (b ≤ x)).length

omit [Scalar α] in
/-- The bands between neighbouring boundaries. -/
def bands : List α → List (α × α)
  | a :: b :: rest => (a, b) :: bands (b :: rest)
  | _ => []

/-- A line cut at the gaps: the words of each band as a line of their own. -/
def pieces (gaps : List (Gap α)) (l : Line α) : List (Line α) :=
  (List.range (gaps.length + 1)).filterMap fun band =>
    Line.ofWords? (l.words.filter fun w => bandOf gaps w.box.centerX == band) l.base l.direction

/-- The lines that go into the bands: spanning ones whole, all others in pieces. -/
def placed (gaps : List (Gap α)) (lines : List (Line α)) (spanning : List Bool) : List (Line α) :=
  (lines.zip spanning).flatMap fun (l, whole) => if whole then [l] else pieces gaps l

/--
Distribute lines over the columns of a page. Each line or piece of one goes to the band that holds
its center; the lines of a column keep their order.
-/
def detect (options : ColumnOptions α) (lines : List (Line α)) (pageWidth : α) : ColumnLayout α :=
  let spanning := options.spanning lines
  let gaps := options.gapsExcluding lines spanning
  let placed := placed gaps lines spanning
  let column (index : Nat) (band : α × α) : Column α :=
    ⟨band.1, band.2, placed.filter fun l => bandOf gaps l.box.centerX == index⟩
  ⟨(bands (boundaries gaps 0.0 pageWidth)).mapIdx column, gaps⟩

end ColumnLayout
end Galley
