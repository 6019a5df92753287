import Galley.Settings
import Galley.Word

/-!
Putting glyphs together to words. Glyphs come in the order in which they are drawn; at most one
word is open at a time, and each glyph either continues it, ends it, or is left out.
-/

namespace Galley

/-- How many glyphs met which fate, and how many words came of them. -/
structure Tally where
  seen : Nat := 0
  accepted : Nat := 0
  /-- White space and control characters, which only end words. -/
  blank : Nat := 0
  nonFinite : Nat := 0
  offPage : Nat := 0
  /-- Tiny glyphs, dropped ones included. -/
  tiny : Nat := 0
  tinyDropped : Nat := 0
  words : Nat := 0
deriving DecidableEq, Repr, Inhabited

/-- A word that may go on. -/
structure OpenWord (α : Type) where
  base : α
  size : α
  direction : Direction
  mode : WritingMode
  /-- The latest glyph. -/
  last : Glyph α
  /-- The glyphs before it, latest first. -/
  earlier : List (Glyph α)
  /-- The boundaries of the glyphs, latest first. -/
  edges : List α
  /-- How far the word reaches along its direction. -/
  reach : α
deriving DecidableEq, Repr

namespace OpenWord

variable {α : Type} [Scalar α]

/-- The boundaries of a glyph on the axis of a direction: where it is placed and where it ends. -/
def bounds (r : Direction) (g : Glyph α) : α × α :=
  (r.axis g.x g.y, r.axis (g.x + g.dx) (g.y + g.dy))

/-- A word of one glyph. -/
def ofGlyph (g : Glyph α) : OpenWord α :=
  let (start, stop) := bounds g.direction g
  { base := g.direction.base g.x g.y
    size := g.size
    direction := g.direction
    mode := g.mode
    last := g
    earlier := []
    edges := [stop, start]
    reach :=
      Scalar.greatest (g.direction.primary g.x g.y)
        (g.direction.primary (g.x + g.dx) (g.y + g.dy)) }

/-- Add a glyph. Its start takes the place of the end of the glyph before it. -/
def push (w : OpenWord α) (g : Glyph α) : OpenWord α :=
  let (start, stop) := bounds w.direction g
  { w with
    last := g
    earlier := w.last :: w.earlier
    edges := stop :: start :: w.edges.tail
    reach :=
      Scalar.greatest (Scalar.greatest w.reach (w.direction.primary g.x g.y))
        (w.direction.primary (g.x + g.dx) (g.y + g.dy)) }

/-- The word, done, as number `order` of the page. -/
def finish? (w : OpenWord α) (order : Nat) : Option (Word α) :=
  Word.ofParts? (w.last :: w.earlier).reverse w.edges.reverse w.base w.size w.direction w.mode order

/-- Whether a glyph is drawn over the latest one, as is done to make text look bold. -/
def isRepeat (tolerances : WordTolerances α) (w : OpenWord α) (g : Glyph α) : Bool :=
  let r := w.direction
  let along := Scalar.abs (r.primary g.x g.y - r.primary w.last.x w.last.y)
  let across := Scalar.abs (r.base g.x g.y - w.base)
  along < tolerances.duplicateAlong * w.size && across < tolerances.duplicateAcross * w.size

/-- Whether a glyph cannot continue the word by where it stands or what it looks like. -/
def isApart (tolerances : WordTolerances α) (w : OpenWord α) (g : Glyph α) : Bool :=
  let r := w.direction
  let ahead := r.primary g.x g.y - w.reach
  let across := Scalar.abs (r.base g.x g.y - w.base)
  ahead < -tolerances.overlap * w.size || tolerances.gap * w.size < ahead ||
    tolerances.drift < across || 1e-3 < Scalar.abs (g.size - w.size) || g.mode != w.mode ||
    g.direction != r

end OpenWord

/-- The state between two glyphs. -/
structure Segmenter (α : Type) where
  opened : Option (OpenWord α)
  /-- Whether the latest glyph of the open word repeats the one before it. -/
  repeated : Bool
  /-- The finished words, latest first. -/
  finished : List (Word α)
  tally : Tally
deriving DecidableEq, Repr

namespace Segmenter

variable {α : Type} [Scalar α]

omit [Scalar α] in
def empty : Segmenter α := ⟨none, false, [], {}⟩

omit [Scalar α] in
def isBuilding (s : Segmenter α) : Bool := s.opened.isSome

omit [Scalar α] in
/-- Whether tiny glyphs are being dropped. -/
def limitReached (settings : Settings α) (s : Segmenter α) : Bool :=
  settings.tinyLimit < s.tally.tiny

omit [Scalar α] in
def withTally (s : Segmenter α) (tally : Tally) : Segmenter α := { s with tally := tally }

/-- End the open word. -/
def close (s : Segmenter α) : Segmenter α :=
  match s.opened with
  | none => s
  | some w =>
    match w.finish? s.tally.words with
    | none => { s with opened := none }
    | some word =>
      { s with
        opened := none
        finished := word :: s.finished
        tally := { s.tally with words := s.tally.words + 1 } }

/-- Whether a glyph lies outside the page or moves on by more than its size. -/
def isOffPage (page : Box α) (g : Glyph α) : Bool :=
  let (left, right) := ordered g.x (g.x + g.dx)
  let (bottom, top) := ordered g.y (g.y + g.dy)
  right < page.x0 || page.x1 < left || top < page.y0 || page.y1 < bottom ||
    page.width < Scalar.abs g.dx || page.height < Scalar.abs g.dy
where
  ordered (a b : α) : α × α := if a ≤ b then (a, b) else (b, a)

/-- Whether a glyph moves on by less than three units either way. -/
def isTiny (g : Glyph α) : Bool := Scalar.abs g.dx < 3.0 && Scalar.abs g.dy < 3.0

/-- The glyph that begins where this one ends and leads back to where it is placed. -/
def reversed (g : Glyph α) : Glyph α :=
  { g with x := g.x + g.dx, y := g.y + g.dy, dx := -g.dx, dy := -g.dy }

/-- Add a glyph to the open word, or open one with it. -/
def extend (s : Segmenter α) (g : Glyph α) : Segmenter α :=
  let w :=
    match s.opened with
    | some w => w.push g
    | none => .ofGlyph g
  { s with opened := some w, tally := { s.tally with accepted := s.tally.accepted + 1 } }

/-- End the open word if the glyph does not continue it, and note whether the glyph repeats. -/
def separate (settings : Settings α) (s : Segmenter α) (g : Glyph α) : Segmenter α :=
  match s.opened with
  | none => { s with repeated := false }
  | some w =>
    let again := w.isRepeat settings.word g
    let breaks := again || s.repeated || w.isApart settings.word g
    { (if breaks then s.close else s) with repeated := again }

/--
Take in a visible glyph. One that leads backwards opens a word of its own, from its far end.
-/
def accept (settings : Settings α) (s : Segmenter α) (g : Glyph α) : Segmenter α :=
  let s := s.separate settings g
  let direction :=
    match s.opened with
    | some w => w.direction
    | none => g.direction
  if direction.primary g.dx g.dy < 0.0 then s.close.extend (reversed g) else s.extend g

/-- Take in one glyph. -/
def push (page : Box α) (settings : Settings α) (s : Segmenter α) (g : Glyph α) : Segmenter α :=
  let tally := { s.tally with seen := s.tally.seen + 1 }
  if !g.isFinite then s.withTally { tally with nonFinite := tally.nonFinite + 1 }
  else if isOffPage page g then s.withTally { tally with offPage := tally.offPage + 1 }
  else
    let tally := if isTiny g then { tally with tiny := tally.tiny + 1 } else tally
    if isTiny g && settings.tinyLimit < tally.tiny then
      s.withTally { tally with tinyDropped := tally.tinyDropped + 1 }
    else if CharClass.breaksWord g.char then
      (s.withTally { tally with blank := tally.blank + 1 }).close
    else (s.withTally tally).accept settings g

omit [Scalar α] in
/-- The finished words in the order in which they were drawn. -/
def words (s : Segmenter α) : List (Word α) := s.finished.reverse

omit [Scalar α] in
/-- The words finished since an earlier state, in the order in which they were drawn. -/
def finishedSince (s earlier : Segmenter α) : List (Word α) :=
  (s.finished.take (s.tally.words - earlier.tally.words)).reverse

end Segmenter
end Galley
