import Galley.Scalar
import Galley.Content.Fault
import Galley.Content.Operand

/-!
Numbers in a content stream: an optional sign, digits, and at most one point.
-/

namespace Galley.Content

/-- The spelling of a number, split at its point. -/
structure Numeral where
  sign : Option UInt8
  whole : List UInt8
  /-- The digits after the point, `none` when there is no point. -/
  fraction : Option (List UInt8)
deriving DecidableEq, Repr

def isDigit (b : UInt8) : Bool := 0x30 ≤ b && b ≤ 0x39

/-- The number that decimal digits spell. -/
def digitsValue (digits : List UInt8) : Nat :=
  digits.foldl (fun n b => n * 10 + (b.toNat - 0x30)) 0

namespace Numeral

/-- The longest numeral behind a sign, and the bytes after it. -/
def scanUnsigned (sign : Option UInt8) (bytes : List UInt8) : Numeral × List UInt8 :=
  let whole := bytes.takeWhile isDigit
  match bytes.dropWhile isDigit with
  | b :: rest =>
    if b = 0x2E then (⟨sign, whole, some (rest.takeWhile isDigit)⟩, rest.dropWhile isDigit)
    else (⟨sign, whole, none⟩, b :: rest)
  | [] => (⟨sign, whole, none⟩, [])

/-- The longest numeral that the bytes begin with, and the bytes after it. -/
def scan (bytes : List UInt8) : Numeral × List UInt8 :=
  match bytes with
  | b :: rest =>
    if b = 0x2B ∨ b = 0x2D then scanUnsigned (some b) rest else scanUnsigned none (b :: rest)
  | [] => scanUnsigned none []

/-- Whether the numeral begins with a minus sign. -/
def isNegative (n : Numeral) : Bool := n.sign == some 0x2D

/-- The bytes of the numeral. -/
def bytes (n : Numeral) : List UInt8 :=
  n.sign.toList ++ n.whole ++ (n.fraction.map (0x2E :: ·)).getD []

/-- The value of an integer numeral; `none` without digits or outside the signed 64-bit range. -/
def int? (n : Numeral) : Option Int :=
  let size : Int := digitsValue n.whole
  let value := if n.isNegative then -size else size
  if n.whole = [] ∨ value < Int64.minValue.toInt ∨ Int64.maxValue.toInt < value then none
  else some value

/-- The value of a numeral with a point before `digits`; a point without any digit is zero. -/
def real {α : Type} [Scalar α] (n : Numeral) (digits : List UInt8) : α :=
  if n.whole = [] ∧ digits = [] then (0.0 : α)
  else
    let size : α := OfScientific.ofScientific (digitsValue (n.whole ++ digits)) true digits.length
    if n.isNegative then -size else size

/-- The operand that a numeral spells. -/
def operand {α : Type} [Scalar α] (n : Numeral) : Except Cause (Operand α) :=
  match n.fraction with
  | some digits => .ok (.real (n.real digits))
  | none =>
    match n.int? with
    | some value => .ok (.int value)
    | none => .error (.invalidInteger (String.ofList (n.bytes.map fun b => Char.ofNat b.toNat)))

end Numeral
end Galley.Content
