import Galley.Decimal.Style
import Galley.Json.Basic

/-!
Writing JSON text.
-/

namespace Galley.Json

/-- A control character as an escape of four hexadecimal digits. -/
def controlEscape (c : Char) : String :=
  let digits := Nat.toDigits 16 c.toNat
  "\\u" ++ String.ofList (List.replicate (4 - digits.length) '0' ++ digits)

/-- A character as it stands in a string. -/
def escapeChar (c : Char) : String :=
  match c with
  | '"' => "\\\""
  | '\\' => "\\\\"
  | '\x08' => "\\b"
  | '\x0c' => "\\f"
  | '\n' => "\\n"
  | '\r' => "\\r"
  | '\t' => "\\t"
  | c => if c.toNat < 0x20 then controlEscape c else c.toString

def writeText (text : String) : String :=
  "\"" ++ String.join (text.toList.map escapeChar) ++ "\""

/-- A value that contains no others. A double that is not finite has no form of its own. -/
def writeAtom : Json → String
  | .bool value => if value then "true" else "false"
  | .int value => toString value
  | .float value => (Decimal.dataText? value).getD "null"
  | .text value => writeText value
  | _ => "null"

mutual

/-- A value without any space. -/
def compact : Json → String
  | .array items => "[" ++ compactItems items ++ "]"
  | .object fields => "\x7b" ++ compactFields fields ++ "\x7d"
  | atom => writeAtom atom

def compactItems : List Json → String
  | [] => ""
  | [item] => compact item
  | item :: rest => compact item ++ "," ++ compactItems rest

def compactFields : List (String × Json) → String
  | [] => ""
  | [(name, value)] => writeText name ++ ":" ++ compact value
  | (name, value) :: rest => writeText name ++ ":" ++ compact value ++ "," ++ compactFields rest

end

/-- A new line, indented by two spaces for each level. -/
def lineBreak (level : Nat) : String := String.ofList ('\n' :: List.replicate (2 * level) ' ')

mutual

/-- A value with each member on a line of its own, at this level of indentation. -/
def prettyAt (level : Nat) : Json → String
  | .array [] => "[]"
  | .array items => "[" ++ prettyItems (level + 1) items ++ lineBreak level ++ "]"
  | .object [] => "\x7b\x7d"
  | .object fields => "\x7b" ++ prettyFields (level + 1) fields ++ lineBreak level ++ "\x7d"
  | atom => writeAtom atom

def prettyItems (level : Nat) : List Json → String
  | [] => ""
  | [item] => lineBreak level ++ prettyAt level item
  | item :: rest => lineBreak level ++ prettyAt level item ++ "," ++ prettyItems level rest

def prettyFields (level : Nat) : List (String × Json) → String
  | [] => ""
  | [(name, value)] => lineBreak level ++ writeText name ++ ": " ++ prettyAt level value
  | (name, value) :: rest =>
    lineBreak level ++ writeText name ++ ": " ++ prettyAt level value ++ "," ++
      prettyFields level rest

end

/-- A value over several lines. -/
def pretty (j : Json) : String := prettyAt 0 j

mutual

/-- The value with the fields of all objects sorted by name. -/
def sortNames : Json → Json
  | .array items => .array (sortNamesItems items)
  | .object fields => .object ((sortNamesFields fields).mergeSort fun a b => decide (a.1 ≤ b.1))
  | atom => atom

def sortNamesItems : List Json → List Json
  | [] => []
  | item :: rest => sortNames item :: sortNamesItems rest

def sortNamesFields : List (String × Json) → List (String × Json)
  | [] => []
  | (name, value) :: rest => (name, sortNames value) :: sortNamesFields rest

end

end Galley.Json
