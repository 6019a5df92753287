import Galley.Decimal.Basic

/-!
Reading doubles and integers as people type them.
-/

namespace Galley.Decimal

/-- Split an optional sign off; tells whether it is a minus. -/
def splitSign (cs : List Char) : Bool × List Char :=
  match cs with
  | '-' :: rest => (true, rest)
  | '+' :: rest => (false, rest)
  | _ => (false, cs)

def digitsValue (digits : List Char) : Nat :=
  digits.foldl (fun n c => n * 10 + (c.toNat - 0x30)) 0

/-- The integer that digits behind an optional sign spell. -/
def intOfText? (text : String) : Option Int :=
  let (negative, digits) := splitSign text.toList
  if digits.isEmpty || !digits.all Char.isDigit then none
  else
    let size : Int := digitsValue digits
    some (if negative then -size else size)

/-- The exponent behind the digits of a number; there may be none. -/
def exponent? (cs : List Char) : Option Int :=
  match cs with
  | [] => some 0
  | c :: rest =>
    if c == 'e' || c == 'E' then
      if rest.isEmpty then none else intOfText? (String.ofList rest)
    else none

/-- The number that digits, an optional point among them and an optional exponent spell. -/
def unsigned? (cs : List Char) : Option Decimal :=
  let whole := cs.takeWhile Char.isDigit
  let (fraction, rest) :=
    match cs.dropWhile Char.isDigit with
    | '.' :: tail => (tail.takeWhile Char.isDigit, tail.dropWhile Char.isDigit)
    | rest => ([], rest)
  if whole.isEmpty && fraction.isEmpty then none
  else
    (exponent? rest).map fun e =>
      ⟨false, digitsValue (whole ++ fraction), e - (fraction.length : Int)⟩

/-- The double that a text names: a decimal number, infinity, or a value that is no number. -/
def floatOfText? (text : String) : Option Float :=
  let (negative, cs) := splitSign text.toList
  let size? : Option Float :=
    match String.ofList (cs.map Char.toLower) with
    | "inf" | "infinity" => some (1.0 / 0.0)
    | "nan" => some (0.0 / 0.0)
    | _ => (unsigned? cs).map toFloat
  size?.map fun size => if negative then -size else size

end Galley.Decimal
