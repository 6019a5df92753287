import Galley.Decimal.Shortest

/-!
How decimal numbers are written.
-/

namespace Galley.Decimal

/-- The conventions of a written form. -/
structure Style where
  /-- The exponents of the leading digit for which no exponent is written, `none` for all. -/
  positional : Option (Int × Int)
  /-- What is written behind an integer. -/
  integerEnd : String

/-- Numbers as in messages: never an exponent, and no point behind an integer. -/
def plainStyle : Style := ⟨none, ""⟩

/--
Numbers as in data: a point or an exponent always, and an exponent from `1e16` and below `1e-5`.
-/
def dataStyle : Style := ⟨some (-5, 15), ".0"⟩

/-- The digits of a number. -/
def digitChars (n : Nat) : List Char := Nat.toDigits 10 n

/-- Digits with the point before the last `places` of them. -/
def placePoint (digits : List Char) (places : Nat) : List Char :=
  let padded := List.replicate (places + 1 - digits.length) '0' ++ digits
  let whole := padded.length - places
  if places = 0 then padded else padded.take whole ++ '.' :: padded.drop whole

/-- A number with all its digits in place. -/
def writePositional (d : Decimal) (integerEnd : String) : String :=
  let digits := digitChars d.digits
  if 0 ≤ d.exponent then
    String.ofList (digits ++ List.replicate d.exponent.toNat '0') ++ integerEnd
  else String.ofList (placePoint digits (-d.exponent).toNat)

/-- A number with one digit before the point and the exponent with its sign. -/
def writeScientific (d : Decimal) : String :=
  let digits := digitChars d.digits
  let exponent := d.exponent + (digits.length - 1 : Nat)
  let mantissa := placePoint digits (digits.length - 1)
  String.ofList mantissa ++ "e" ++ (if exponent < 0 then "-" else "+") ++
    toString exponent.natAbs

/-- A number in a style, without zeros that mean nothing. -/
def write (style : Style) (d : Decimal) : String :=
  let leading := d.exponent + ((digitChars d.digits).length - 1 : Nat)
  let positional :=
    match style.positional with
    | none => true
    | some (low, high) => decide (d.digits = 0) || (low ≤ leading && leading ≤ high)
  (if d.negative then "-" else "") ++
    (if positional then writePositional d style.integerEnd else writeScientific d)

/-- The names of the doubles that are not finite. -/
def nonFinite (x : Float) : String :=
  if x.isNaN then "NaN" else if x < 0.0 then "-inf" else "inf"

/-- A double as in messages. -/
def plainText (x : Float) : String :=
  match Binary64.ofFloat? x with
  | some b => write plainStyle (shortest b)
  | none => nonFinite x

/-- A double with exactly two places. -/
def twoPlaces (x : Float) : String :=
  match Binary64.ofFloat? x with
  | some b =>
    let d := ofPlaces 2 b
    (if d.negative then "-" else "") ++ String.ofList (placePoint (digitChars d.digits) 2)
  | none => nonFinite x

/-- A double as in data, `none` for one that is not finite. -/
def dataText? (x : Float) : Option String :=
  (Binary64.ofFloat? x).map fun b => write dataStyle (shortest b)

end Galley.Decimal
