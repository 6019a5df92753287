import Galley.Line

/-!
Pools: the words of a page by direction, and within a direction by buckets of their baselines.
-/

namespace Galley

/-- Words of one direction in buckets of equal height. -/
structure Pool (α : Type) where
  direction : Direction
  bucketHeight : α
  /-- The occupied buckets in increasing order, each with its words as they were added. -/
  buckets : List (Int × List (Word α))
deriving Repr

variable {α : Type} [Scalar α]

namespace Pool

omit [Scalar α] in
def empty (direction : Direction) (bucketHeight : α) : Pool α := ⟨direction, bucketHeight, []⟩

/-- The bucket of a baseline. -/
def bucketOf (p : Pool α) (base : α) : Int :=
  Scalar.toInt64 (Scalar.floor (base / p.bucketHeight))

omit [Scalar α] in
/-- Add a word to a bucket. -/
def insertAt (index : Int) (w : Word α) : List (Int × List (Word α)) → List (Int × List (Word α))
  | [] => [(index, [w])]
  | (i, words) :: rest =>
    if index < i then (index, [w]) :: (i, words) :: rest
    else if index = i then (i, words ++ [w]) :: rest
    else (i, words) :: insertAt index w rest

def add (p : Pool α) (w : Word α) : Pool α :=
  { p with buckets := insertAt (p.bucketOf w.base) w p.buckets }

omit [Scalar α] in
/-- The first and the last occupied bucket. -/
def bounds? (p : Pool α) : Option (Int × Int) :=
  match p.buckets with
  | [] => none
  | (first, _) :: rest => some (first, (rest.getLast?.map (·.1)).getD first)

omit [Scalar α] in
/-- The words of a bucket. -/
def bucket (p : Pool α) (index : Int) : List (Word α) := (p.buckets.lookup index).getD []

omit [Scalar α] in
/-- All words, bucket by bucket. -/
def words (p : Pool α) : List (Word α) := p.buckets.flatMap (·.2)

omit [Scalar α] in
def size (p : Pool α) : Nat := p.words.length

/-- The lines of the pool in reading order. -/
def lines (options : LineOptions α) (p : Pool α) : List (Line α) :=
  let buckets := if p.direction.linesDescend then p.buckets.reverse else p.buckets
  Line.ofPool options p.direction (buckets.flatMap (·.2))

end Pool

/-- The pools of a page. -/
structure Pools (α : Type) where
  right : Pool α
  up : Pool α
  left : Pool α
  down : Pool α
deriving Repr

namespace Pools

omit [Scalar α] in
def empty (bucketHeight : α) : Pools α :=
  ⟨.empty .right bucketHeight, .empty .up bucketHeight, .empty .left bucketHeight,
    .empty .down bucketHeight⟩

omit [Scalar α] in
/-- The pool of a direction. -/
def pool (p : Pools α) : Direction → Pool α
  | .right => p.right
  | .up => p.up
  | .left => p.left
  | .down => p.down

omit [Scalar α] in
/-- The pools in reading order. -/
def all (p : Pools α) : List (Pool α) := Direction.all.map p.pool

/-- Add a word to the pool of its direction. -/
def add (p : Pools α) (w : Word α) : Pools α :=
  match w.direction with
  | .right => { p with right := p.right.add w }
  | .up => { p with up := p.up.add w }
  | .left => { p with left := p.left.add w }
  | .down => { p with down := p.down.add w }

def ofWords (bucketHeight : α) (words : List (Word α)) : Pools α :=
  words.foldl add (empty bucketHeight)

omit [Scalar α] in
/-- All words, pool by pool. -/
def words (p : Pools α) : List (Word α) := p.all.flatMap Pool.words

omit [Scalar α] in
def size (p : Pools α) : Nat := p.words.length

/-- All words as they are read: by direction, line and place on the line. -/
def readingOrder (options : LineOptions α) (p : Pools α) : List (Word α) :=
  (p.all.flatMap (Pool.lines options)).flatMap Line.words

end Pools
end Galley
