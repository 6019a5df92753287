import Galley.Scalar

/-!
Doubles as the rationals they denote, and from there the roundings to an integer and the length of
a vector. `Float` with these operations is the scalar that the program runs on.
-/

namespace Galley

/-- The finite number `± significand · 2 ^ exponent`. -/
structure Binary64 where
  negative : Bool
  significand : Nat
  exponent : Int
deriving DecidableEq, Repr

namespace Binary64

/-- The leading bit of a significand, which the pattern of a normal double leaves out. -/
def leadingBit : Nat := 0x10000000000000

/-- The bit of the sign in the pattern of a double. -/
def signBit : Nat := 0x8000000000000000

/-- The number that a double denotes, `none` for infinities and values that are no number. -/
def ofFloat? (x : Float) : Option Binary64 :=
  let bits := x.toBits.toNat
  let negative := decide (signBit ≤ bits)
  let biased : Nat := bits / leadingBit % 2048
  let fraction : Nat := bits % leadingBit
  if biased = 2047 then none
  else if biased = 0 then some ⟨negative, fraction, -1074⟩
  else some ⟨negative, fraction + leadingBit, (biased : Int) - 1075⟩

/-- The double nearest to `significand · 2 ^ exponent`. -/
def nearest (significand : Nat) (exponent : Int) : Float :=
  if 0 ≤ exponent then Float.ofScientific (significand <<< exponent.toNat) false 0
  else
    let places := (-exponent).toNat
    Float.ofScientific (significand * Nat.pow 5 places) true places

/-- The magnitude as whole units and a remainder over a denominator. -/
def split (x : Binary64) : Nat × Nat × Nat :=
  if 0 ≤ x.exponent then (x.significand <<< x.exponent.toNat, 0, 1)
  else
    let unit := 1 <<< (-x.exponent).toNat
    (x.significand / unit, x.significand % unit, unit)

/-- The integer part, toward zero. -/
def truncate (x : Binary64) : Int :=
  if x.negative then -(x.split.1 : Int) else x.split.1

end Binary64

/--
Round a double to an integer that is still a double. `up` tells whether the magnitude grows to the
next integer, from the sign, the remainder and its denominator. The sign survives on zero.
-/
def roundDouble (up : Bool → Nat → Nat → Bool) (x : Float) : Float :=
  match Binary64.ofFloat? x with
  | none => x
  | some b =>
    if 0 ≤ b.exponent then x
    else
      let (whole, remainder, unit) := b.split
      let size :=
        Float.ofScientific (if up b.negative remainder unit then whole + 1 else whole) false 0
      if b.negative then -size else size

/-- The largest natural number whose square is at most `n`. -/
def squareRoot (n : Nat) : Nat := go (n.log2 / 2 + 1) 0
where
  go : Nat → Nat → Nat
    | 0, root => root
    | bit + 1, root =>
      let candidate := root + 1 <<< bit
      if candidate * candidate ≤ n then go bit candidate else go bit root

/--
The length of a vector, rounded once. The sum of the squares is formed exactly over a common
exponent; its root is taken with 64 spare bits and a last bit that records a remainder.
-/
def vectorLength (x y : Float) : Float :=
  match Binary64.ofFloat? x, Binary64.ofFloat? y with
  | some a, some b =>
    if a.significand = 0 then y.abs
    else if b.significand = 0 then x.abs
    else
      let unit := min a.exponent b.exponent
      let p := a.significand <<< (a.exponent - unit).toNat
      let q := b.significand <<< (b.exponent - unit).toNat
      let square := p * p + q * q
      let scaled := square <<< 128
      let root := squareRoot scaled
      let sticky := if root * root = scaled then 0 else 1
      Binary64.nearest (2 * root + sticky) (unit - 65)
  | _, _ => if x.isInf || y.isInf then 1.0 / 0.0 else 0.0 / 0.0

/-- The position of a double in the order of all bit patterns, negative ones first. -/
def orderKey (x : Float) : Int :=
  let bits := x.toBits.toNat
  if bits < Binary64.signBit then bits else Binary64.signBit - 1 - bits

/-- The integer part of a double, clamped to `lo … hi`; `0` for a value that is no number. -/
def clampDouble (lo hi : Int) (x : Float) : Int :=
  match Binary64.ofFloat? x with
  | some b => max lo (min hi b.truncate)
  | none => if x.isNaN then 0 else if x < 0.0 then lo else hi

instance : Scalar Float where
  decidableLT := inferInstance
  decidableLE := inferInstance
  order a b := compare (orderKey a) (orderKey b)
  isFinite := Float.isFinite
  infinity := 1.0 / 0.0
  abs := Float.abs
  floor := roundDouble fun negative remainder _ => negative && remainder != 0
  ceil := roundDouble fun negative remainder _ => !negative && remainder != 0
  round := roundDouble fun _ remainder unit => unit ≤ 2 * remainder
  hypot := vectorLength
  toInt64 := clampDouble Int64.minValue.toInt Int64.maxValue.toInt
  toNat64 x := (clampDouble 0 (UInt64.size - 1) x).toNat

end Galley
