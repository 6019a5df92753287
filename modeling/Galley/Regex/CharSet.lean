import Galley.Unicode.CaseFolding
import Galley.Unicode.DecimalDigit
import Galley.Unicode.WhiteSpace
import Galley.Unicode.WordCharacter

/-!
Sets of characters as patterns describe them.
-/

namespace Galley.Regex

inductive CharSet
  | none
  /-- Code points from the first to the last, ends included. -/
  | range (first last : Nat)
  | digit
  | space
  | word
  | union (s t : CharSet)
  | inter (s t : CharSet)
  | diff (s t : CharSet)
  | symmDiff (s t : CharSet)
  | compl (s : CharSet)
  /-- The characters that differ from one of the set in case at most. -/
  | fold (s : CharSet)
deriving DecidableEq, Repr, Inhabited

namespace CharSet

/-- The characters that fold to the same character, the given one first. -/
def variants (c : Char) : List Char := c :: (Unicode.caseVariants.find? c.toNat).getD []

def contains : CharSet → Char → Bool
  | none, _ => false
  | range first last, c => first ≤ c.toNat && c.toNat ≤ last
  | digit, c => Unicode.isDecimalDigit c
  | space, c => Unicode.isWhiteSpace c
  | word, c => Unicode.isWordCharacter c
  | union s t, c => s.contains c || t.contains c
  | inter s t, c => s.contains c && t.contains c
  | diff s t, c => s.contains c && !t.contains c
  | symmDiff s t, c => s.contains c != t.contains c
  | compl s, c => !s.contains c
  | fold s, c => (variants c).any s.contains

/-- The set of one character. -/
def single (c : Char) : CharSet := .range c.toNat c.toNat

/-- The set of these ranges. -/
def ofRanges (ranges : List (Nat × Nat)) : CharSet :=
  ranges.foldr (fun (first, last) s => .union (.range first last) s) .none

/-- Every character. -/
def all : CharSet := .compl .none

/-- The ASCII class of a name between `[:` and `:]`. -/
def ascii? (name : String) : Option CharSet :=
  let ranges : Option (List (Nat × Nat)) :=
    match name with
    | "alnum" => some [(0x30, 0x39), (0x41, 0x5A), (0x61, 0x7A)]
    | "alpha" => some [(0x41, 0x5A), (0x61, 0x7A)]
    | "ascii" => some [(0x00, 0x7F)]
    | "blank" => some [(0x09, 0x09), (0x20, 0x20)]
    | "cntrl" => some [(0x00, 0x1F), (0x7F, 0x7F)]
    | "digit" => some [(0x30, 0x39)]
    | "graph" => some [(0x21, 0x7E)]
    | "lower" => some [(0x61, 0x7A)]
    | "print" => some [(0x20, 0x7E)]
    | "punct" => some [(0x21, 0x2F), (0x3A, 0x40), (0x5B, 0x60), (0x7B, 0x7E)]
    | "space" => some [(0x09, 0x0D), (0x20, 0x20)]
    | "upper" => some [(0x41, 0x5A)]
    | "word" => some [(0x30, 0x39), (0x41, 0x5A), (0x5F, 0x5F), (0x61, 0x7A)]
    | "xdigit" => some [(0x30, 0x39), (0x41, 0x46), (0x61, 0x66)]
    | _ => Option.none
  ranges.map ofRanges

end CharSet
end Galley.Regex
