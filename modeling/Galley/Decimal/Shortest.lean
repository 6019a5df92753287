import Galley.Decimal.Basic

/-!
The shortest decimal that reads back as a given double: of the decimals that lie nearer to it than
to any other double, one with the fewest digits, and of these the nearest.
-/

namespace Galley.Decimal

/--
The decimals that read back as `significand · 2 ^ exponent` lie between these multiples of
`2 ^ (exponent - 2)`. Below a power of two the next double is only half as far away.
-/
def readingBounds (x : Binary64) : Nat × Nat :=
  let center := 4 * x.significand
  if x.significand = Binary64.leadingBit ∧ -1074 < x.exponent then (center - 1, center + 2)
  else (center - 2, center + 2)

/-- Whether `digits · 10 ^ exponent` reads back as `x`. The bounds do when `x` is even. -/
def readsBack (x : Binary64) (digits : Nat) (exponent : Int) : Bool :=
  let (low, high) := readingBounds x
  let (lowN, d) := fraction low (x.exponent - 2) exponent
  let (highN, _) := fraction high (x.exponent - 2) exponent
  if x.significand % 2 = 0 then lowN ≤ digits * d && digits * d ≤ highN
  else lowN < digits * d && digits * d < highN

/--
The decimal with this many digits that reads back as `x`; of two the nearer, of equals the larger.
-/
def ofCount? (count : Nat) (x : Binary64) : Option Decimal :=
  let exponent := leadingExponent x.significand x.exponent - (count - 1 : Nat)
  let (n, d) := fraction x.significand x.exponent exponent
  let below := n / d
  let above := below + 1
  match readsBack x below exponent, readsBack x above exponent with
  | false, false => none
  | true, false => some ⟨x.negative, below, exponent⟩
  | false, true => some ⟨x.negative, above, exponent⟩
  | true, true =>
    some ⟨x.negative, if 2 * (n % d) < d then below else above, exponent⟩

/-- The shortest decimal that reads back as `x`. Seventeen digits always do. -/
def shortest (x : Binary64) : Decimal :=
  if x.significand = 0 then ⟨x.negative, 0, 0⟩
  else
    match (List.range 17).findSome? fun k => ofCount? (k + 1) x with
    | some d => d.trim
    | none => ofSignificant 17 x

end Galley.Decimal
