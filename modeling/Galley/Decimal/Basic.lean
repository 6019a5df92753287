import Galley.Binary64

/-!
Decimal numbers, and the roundings by which a double becomes one.
-/

namespace Galley

/-- The number `± digits · 10 ^ exponent`. -/
structure Decimal where
  negative : Bool
  digits : Nat
  exponent : Int
deriving DecidableEq, Repr, Inhabited

namespace Decimal

/-- The quotient rounded to the nearest integer, halves to the even one. -/
def divideToEven (numerator denominator : Nat) : Nat :=
  let quotient := numerator / denominator
  let remainder := numerator % denominator
  if 2 * remainder < denominator then quotient
  else if denominator < 2 * remainder then quotient + 1
  else if quotient % 2 = 0 then quotient
  else quotient + 1

/-- The fraction `significand · 2 ^ binary / 10 ^ decimal`. -/
def fraction (significand : Nat) (binary decimal : Int) : Nat × Nat :=
  ((significand <<< binary.toNat) * Nat.pow 10 (-decimal).toNat,
    Nat.pow 10 decimal.toNat <<< (-binary).toNat)

/-- The exponent of the leading digit of `significand · 2 ^ binary`, which is not zero. -/
def leadingExponent (significand : Nat) (binary : Int) : Int :=
  let estimate := ((significand.log2 : Int) + binary) * 30103 / 100000
  let reaches (k : Int) : Bool :=
    let (n, d) := fraction significand binary k
    decide (d ≤ n)
  if reaches (estimate + 1) then estimate + 1
  else if reaches estimate then estimate
  else estimate - 1

/-- Drop zeros at the end of the digits. -/
def trim (d : Decimal) : Decimal := go d.digits.log2 d
where
  go : Nat → Decimal → Decimal
    | 0, d => d
    | fuel + 1, d =>
      if d.digits ≠ 0 ∧ d.digits % 10 = 0 then
        go fuel { d with digits := d.digits / 10, exponent := d.exponent + 1 }
      else d

/-- The number with this many places behind the point that is nearest, halves to even. -/
def ofPlaces (places : Nat) (x : Binary64) : Decimal :=
  let (n, d) := fraction x.significand x.exponent (-(places : Int))
  ⟨x.negative, divideToEven n d, -(places : Int)⟩

/-- The number with this many digits that is nearest, halves to even; zero stays zero. -/
def ofSignificant (count : Nat) (x : Binary64) : Decimal :=
  if x.significand = 0 then ⟨x.negative, 0, 0⟩
  else
    let exponent := leadingExponent x.significand x.exponent - (count - 1 : Nat)
    let (n, d) := fraction x.significand x.exponent exponent
    trim ⟨x.negative, divideToEven n d, exponent⟩

/-- The double nearest to a decimal number. Exponents out of all proportion are cut short. -/
def toFloat (d : Decimal) : Float :=
  let size : Float :=
    if d.digits = 0 then 0.0
    else
      let leading := (d.digits.log2 : Int) * 30103 / 100000 + d.exponent
      if 400 < leading then 1.0 / 0.0
      else if leading < -400 then 0.0
      else if d.exponent < 0 then Float.ofScientific d.digits true (-d.exponent).toNat
      else Float.ofScientific d.digits false d.exponent.toNat
  if d.negative then -size else size

end Decimal
end Galley
