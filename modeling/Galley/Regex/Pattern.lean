import Galley.Regex.CharSet

/-!
Patterns and where they match. From a position a pattern may reach several ends; they are listed in
the order of preference, so the first one is the end of the match.
-/

namespace Galley.Regex

/-- Conditions on a position. -/
inductive Assertion
  | textStart
  | textEnd
  | lineStart
  | lineEnd
  | wordBoundary
  | noWordBoundary
  | wordStart
  | wordEnd
  /-- No word character before. -/
  | wordStartHalf
  /-- No word character behind. -/
  | wordEndHalf
deriving DecidableEq, Repr

inductive Pattern
  | empty
  | set (s : CharSet)
  | assert (a : Assertion)
  | cat (p q : Pattern)
  /-- The first alternative is preferred. -/
  | alt (p q : Pattern)
  /-- At least `min` and at most `max` times; a greedy pattern prefers more, a lazy one fewer. -/
  | repeated (p : Pattern) (min : Nat) (max : Option Nat) (greedy : Bool)
deriving DecidableEq, Repr, Inhabited

namespace Assertion

/-- Whether the character before a position belongs to a word. -/
def wordBefore (text : Array Char) (pos : Nat) : Bool :=
  match pos with
  | 0 => false
  | before + 1 => (text[before]?).any Unicode.isWordCharacter

/-- Whether the character behind a position belongs to a word. -/
def wordBehind (text : Array Char) (pos : Nat) : Bool := (text[pos]?).any Unicode.isWordCharacter

def holds (text : Array Char) (pos : Nat) : Assertion → Bool
  | textStart => pos == 0
  | textEnd => pos == text.size
  | lineStart => pos == 0 || text[pos - 1]? == some '\n'
  | lineEnd => pos == text.size || text[pos]? == some '\n'
  | wordBoundary => wordBefore text pos != wordBehind text pos
  | noWordBoundary => wordBefore text pos == wordBehind text pos
  | wordStart => !wordBefore text pos && wordBehind text pos
  | wordEnd => wordBefore text pos && !wordBehind text pos
  | wordStartHalf => !wordBefore text pos
  | wordEndHalf => !wordBehind text pos

end Assertion

/-- Positions in the order in which they were found, latest first, and their set as a bit mask. -/
structure Found where
  mask : Nat
  positions : List Nat

namespace Found

def empty : Found := ⟨0, []⟩

/-- Add a position unless it is there already. -/
def add (f : Found) (pos : Nat) : Found :=
  if f.mask.testBit pos then f else ⟨f.mask ||| 1 <<< pos, pos :: f.positions⟩

def list (f : Found) : List Nat := f.positions.reverse

end Found

/-- Drop all but the first occurrence of each position. -/
def keepFirst (positions : List Nat) : List Nat := (positions.foldl Found.add .empty).list

/--
Repeat a step any number of times from a position that a repetition has reached. A step that stays
in place leads nowhere new, and neither does a position that was reached before. `fuel` bounds the
number of steps that move.
-/
def iterate (step : Nat → List Nat) (greedy : Bool) : (fuel : Nat) → Nat → Found → Found
  | 0, pos, found => found.add pos
  | fuel + 1, pos, found =>
    if found.mask.testBit pos then found
    else
      let onward (found : Found) : Found := (step pos).foldl (fun found next =>
        if next ≤ pos then found else iterate step greedy fuel next found) found
      if greedy then (onward found).add pos else onward (found.add pos)

/--
Take a step at least once. A first step that stays in place ends the repetition, since another one
like it would change nothing.
-/
def atLeastOnce (step : Nat → List Nat) (greedy : Bool) (fuel pos : Nat) : List Nat :=
  ((step pos).foldl (fun found next =>
    if next ≤ pos then found.add pos else iterate step greedy fuel next found) Found.empty).list

/-- Take a step exactly this many times. -/
def times (step : Nat → List Nat) : Nat → Nat → List Nat
  | 0, pos => [pos]
  | n + 1, pos => keepFirst ((step pos).flatMap (times step n))

/-- Take a step at most this many times. -/
def atMost (step : Nat → List Nat) (greedy : Bool) : Nat → Nat → List Nat
  | 0, pos => [pos]
  | n + 1, pos =>
    let more := (step pos).flatMap (atMost step greedy n)
    keepFirst (if greedy then more ++ [pos] else pos :: more)

namespace Pattern

/-- The positions at which a match from `pos` may end, the preferred one first. -/
def ends (text : Array Char) : Pattern → Nat → List Nat
  | empty, pos => [pos]
  | set s, pos =>
    match text[pos]? with
    | some c => if s.contains c then [pos + 1] else []
    | none => []
  | assert a, pos => if a.holds text pos then [pos] else []
  | cat p q, pos => keepFirst ((p.ends text pos).flatMap (q.ends text))
  | alt p q, pos => keepFirst (p.ends text pos ++ q.ends text pos)
  | repeated p min max greedy, pos =>
    let step := p.ends text
    let more := atLeastOnce step greedy (text.size + 1)
    match min, max with
    | _, some max => keepFirst ((times step min pos).flatMap (atMost step greedy (max - min)))
    | 0, none => keepFirst (if greedy then more pos ++ [pos] else pos :: more pos)
    | before + 1, none => keepFirst ((times step before pos).flatMap more)

/-- The leftmost match that begins at `start` or behind it. -/
def find? (p : Pattern) (text : Array Char) (start : Nat) : Option (Nat × Nat) :=
  (List.range' start (text.size + 1 - start)).findSome? fun pos =>
    (p.ends text pos).head?.map fun stop => (pos, stop)

/--
All matches from left to right. Each search begins where the last match ended; an empty match there
is passed over.
-/
def findAll (p : Pattern) (text : Array Char) : List (Nat × Nat) :=
  go (2 * text.size + 3) 0 none
where
  go : Nat → Nat → Option Nat → List (Nat × Nat)
    | 0, _, _ => []
    | fuel + 1, start, last =>
      match p.find? text start with
      | none => []
      | some (first, stop) =>
        if first = stop ∧ last = some stop then go fuel (start + 1) last
        else (first, stop) :: go fuel stop (some stop)

end Pattern
end Galley.Regex
