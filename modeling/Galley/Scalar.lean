/-!
The numbers that pages are measured in. Everything geometric is stated for a `Scalar`, so the same
definitions run on doubles and can be reasoned about over an exact field.
-/

namespace Galley

/--
A type of coordinates and lengths. Comparisons are decidable but need not be total: a value that is
not a number is neither below, above nor equal to anything.
-/
class Scalar (α : Type) extends Add α, Sub α, Mul α, Div α, Neg α, LT α, LE α, BEq α,
    OfScientific α where
  decidableLT : DecidableLT α
  decidableLE : DecidableLE α
  /-- A total order that refines `≤` and also places values that are not numbers. -/
  order : α → α → Ordering
  /-- Neither infinite nor a value that is not a number. -/
  isFinite : α → Bool
  /-- Above every finite value, where the type has such a value. -/
  infinity : α
  abs : α → α
  floor : α → α
  ceil : α → α
  /-- The nearest integer, halves away from zero. -/
  round : α → α
  /-- The length of the vector with these components. -/
  hypot : α → α → α
  /-- The integer part, clamped to the signed 64-bit range; `0` for a value that is no number. -/
  toInt64 : α → Int
  /-- The integer part, clamped to the unsigned 64-bit range; `0` for a value that is no number. -/
  toNat64 : α → Nat

namespace Scalar

variable {α : Type} [Scalar α]

instance : DecidableLT α := decidableLT

instance : DecidableLE α := decidableLE

/-- The value of an integer. -/
def ofInt (i : Int) : α :=
  let size : α := OfScientific.ofScientific i.natAbs false 0
  if i < 0 then -size else size

/-- The value of a natural number. -/
def ofNat (n : Nat) : α := OfScientific.ofScientific n false 0

/-- Whether the value differs from itself, as only a value that is no number does. -/
def isNaN (x : α) : Bool := !(x == x)

/-- The smaller of two values; a value that is no number gives way to the other one. -/
def least (a b : α) : α := if b < a ∨ isNaN a then b else a

/-- The larger of two values; a value that is no number gives way to the other one. -/
def greatest (a b : α) : α := if a < b ∨ isNaN a then b else a

/-- The least number in a list, or `infinity` when there is none. -/
def leastOf (xs : List α) : α :=
  match xs.filter (fun x => !isNaN x) with
  | [] => infinity
  | x :: rest => rest.foldl least x

/-- The greatest number in a list, or `-infinity` when there is none. -/
def greatestOf (xs : List α) : α :=
  match xs.filter (fun x => !isNaN x) with
  | [] => -infinity
  | x :: rest => rest.foldl greatest x

/-- Whether the value is a number above zero and below infinity. -/
def isPositive (x : α) : Bool := isFinite x && decide ((0.0 : α) < x)

end Scalar
end Galley
