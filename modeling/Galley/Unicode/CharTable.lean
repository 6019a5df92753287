import Galley.Unicode.RangeSet

/-!
Tables from a code point, or a pair of them, to characters.
-/

namespace Galley.Unicode

/-- Rows of a key and the characters it stands for, sorted by key. -/
structure CharTable where
  rows : Array (Nat × List Char)

namespace CharTable

/--
Read rows written as `key code code …` and separated by semicolons, all in hexadecimal.
-/
def parse (text : String) : CharTable :=
  ⟨(text.splitOn ";").toArray.map fun item =>
    match (fields item).map hexNumber with
    | [] => (0, [])
    | key :: codes => (key, codes.map Char.ofNat)⟩

/-- The characters of a key, none outside the table. -/
def find? (t : CharTable) (key : Nat) : Option (List Char) := go 0 t.rows.size
where
  go (low high : Nat) : Option (List Char) :=
    if _ : low < high then
      let middle := (low + high) / 2
      match t.rows[middle]? with
      | none => none
      | some (found, chars) =>
        if key < found then go low middle
        else if found < key then go (middle + 1) high
        else some chars
    else none
  termination_by high - low

end CharTable
end Galley.Unicode
