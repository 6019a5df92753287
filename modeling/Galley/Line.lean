import Galley.Settings
import Galley.Word

/-!
Lines: words of one direction whose baselines are close together.
-/

namespace Galley

structure Line (α : Type) where
  /-- In reading order. -/
  words : List (Word α)
  /-- The baseline of the word that began the line. -/
  base : α
  direction : Direction
  /-- The largest size of its words. -/
  size : α
  box : Box α
deriving DecidableEq, Repr, Inhabited

/-- The thresholds that decide what makes up a line. -/
structure LineOptions (α : Type) where
  /-- How far words may be from the baseline, in font sizes. -/
  tolerance : α
  /-- Words with the same text that begin closer than this may be one word printed twice. -/
  duplicateAlong : α
  /-- The same for the distance of their baselines. -/
  duplicateAcross : α
deriving DecidableEq, Repr, Inhabited

variable {α : Type} [Scalar α]

omit [Scalar α] in
/-- The part of the settings that concerns lines. -/
def Settings.lineOptions (s : Settings α) : LineOptions α :=
  ⟨s.lineTolerance, s.word.duplicateAlong, s.word.duplicateAcross⟩

namespace Line

/-- The line of these words, `none` without words. -/
def ofWords? (words : List (Word α)) (base : α) (direction : Direction) : Option (Line α) :=
  match words with
  | [] => none
  | first :: rest => some {
    words := words
    base := base
    direction := direction
    size := rest.foldl (fun size w => Scalar.greatest size w.size) first.size
    box := rest.foldl (fun box w => box.union w.box) first.box }

omit [Scalar α] in
/-- The words with a space between them. -/
def text (l : Line α) : String := " ".intercalate (l.words.map Word.text)

/-- Whether the baseline of `a` comes before that of `b`, or may do so, in the order of lines. -/
def baseBefore (direction : Direction) (a b : Word α) : Bool :=
  if direction.linesDescend then Scalar.order b.base a.base != .gt
  else Scalar.order a.base b.base != .gt

/-- Whether `a` stands before `b` on a line, or may do so. -/
def standsBefore (a b : Word α) : Bool :=
  match Scalar.order a.start b.start with
  | .lt => true
  | .eq => a.order ≤ b.order
  | .gt => false

/-- Words under way to a line, latest first, with the baseline and the largest size so far. -/
structure Group (α : Type) where
  base : α
  size : α
  members : List (Word α)

/-- Whether a word is close enough to the baseline of a group to join it. -/
def Group.admits (tolerance : α) (g : Group α) (w : Word α) : Bool :=
  Scalar.abs (w.base - g.base) ≤ tolerance * Scalar.greatest g.size w.size

/-- A group of one word. A size below zero counts as zero. -/
def Group.ofWord (w : Word α) : Group α := ⟨w.base, Scalar.greatest 0.0 w.size, [w]⟩

def Group.push (g : Group α) (w : Word α) : Group α :=
  ⟨g.base, Scalar.greatest g.size w.size, w :: g.members⟩

/-- Split words sorted by baseline into groups, each as long as its words keep joining it. -/
def groups (tolerance : α) : List (Word α) → List (Group α)
  | [] => []
  | w :: rest => go (.ofWord w) rest
where
  go (g : Group α) : List (Word α) → List (Group α)
    | [] => [g]
    | w :: rest => if g.admits tolerance w then go (g.push w) rest else g :: go (.ofWord w) rest

/-- Whether a word repeats one that is already kept; `kept` is latest first. -/
def repeats (options : LineOptions α) (kept : List (Word α)) (w : Word α) : Bool :=
  (kept.takeWhile fun k => w.start - k.start < options.duplicateAlong * w.size).any fun k =>
    k.text == w.text && Scalar.abs (k.base - w.base) < options.duplicateAcross * w.size

/-- Drop the words that repeat an earlier one. -/
def dropRepeats (options : LineOptions α) (words : List (Word α)) : List (Word α) :=
  (words.foldl (fun kept w => if repeats options kept w then kept else w :: kept) []).reverse

/-- The line of a group: its words in order, without repetitions. -/
def ofGroup? (options : LineOptions α) (direction : Direction) (g : Group α) : Option (Line α) :=
  ofWords? (dropRepeats options (g.members.reverse.mergeSort standsBefore)) g.base direction

/-- The lines that words of one direction form, in reading order. -/
def ofPool (options : LineOptions α) (direction : Direction) (words : List (Word α)) :
    List (Line α) :=
  (groups options.tolerance (words.mergeSort (baseBefore direction))).filterMap
    (ofGroup? options direction)

end Line
end Galley
