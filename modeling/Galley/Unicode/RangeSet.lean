/-!
Sets of characters given as sorted ranges, the form in which character properties are published.
-/

namespace Galley.Unicode

/-- The number that hexadecimal digits spell. -/
def hexNumber (digits : String) : Nat :=
  digits.foldl (fun n c => n * 16 + hexDigit c) 0
where
  hexDigit (c : Char) : Nat :=
    if c.isDigit then c.toNat - 0x30 else c.toNat - 0x37

/-- The parts of a text between spaces and line ends. -/
def fields (text : String) : List String :=
  ((text.splitOn "\n").flatMap (·.splitOn " ")).filter (· != "")

/-- Disjoint ranges of code points in increasing order, ends included. -/
structure RangeSet where
  ranges : Array (Nat × Nat)

namespace RangeSet

/-- Read ranges written as `41-5A` or `AA`. -/
def parse (text : String) : RangeSet :=
  ⟨(fields text).toArray.map fun item =>
    match item.splitOn "-" with
    | [low, high] => (hexNumber low, hexNumber high)
    | _ => (hexNumber item, hexNumber item)⟩

/-- Whether a code point lies in one of the ranges; each step halves the candidates. -/
def contains (s : RangeSet) (code : Nat) : Bool := go 0 s.ranges.size
where
  go (low high : Nat) : Bool :=
    if _ : low < high then
      let middle := (low + high) / 2
      match s.ranges[middle]? with
      | none => false
      | some (first, last) =>
        if code < first then go low middle
        else if last < code then go (middle + 1) high
        else true
    else false
  termination_by high - low

end RangeSet
end Galley.Unicode
