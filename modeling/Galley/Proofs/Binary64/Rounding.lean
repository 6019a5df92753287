import Mathlib.Algebra.Ring.Nat
import Galley.Binary64

/-!
This module contains rounding to doubles as arithmetic of natural numbers: the place of a magnitude
among all doubles, and that this place never falls while the magnitude grows.
-/

namespace Galley.Binary64

/-- `n / 2 ^ k` rounded to the nearest integer, ties to the even one. -/
def roundedShift (n k : Nat) : Nat :=
  if 2 * (n % 2 ^ k) < 2 ^ k then n / 2 ^ k
  else if 2 * (n % 2 ^ k) = 2 ^ k then n / 2 ^ k + n / 2 ^ k % 2
  else n / 2 ^ k + 1

theorem div_le_roundedShift (n k : Nat) : n / 2 ^ k ≤ roundedShift n k := by
  unfold roundedShift
  split
  . omega
  . split <;> omega

theorem roundedShift_le (n k : Nat) : roundedShift n k ≤ n / 2 ^ k + 1 := by
  unfold roundedShift
  split
  . omega
  . split <;> omega

theorem roundedShift_mono {m n : Nat} (h : m ≤ n) (k : Nat)
    : roundedShift m k ≤ roundedShift n k := by
  have hdiv : m / 2 ^ k ≤ n / 2 ^ k := Nat.div_le_div_right h
  by_cases hlt : m / 2 ^ k < n / 2 ^ k
  . have hm := roundedShift_le m k
    have hn := div_le_roundedShift n k
    omega
  . have heq : m / 2 ^ k = n / 2 ^ k := by omega
    have hm := Nat.div_add_mod m (2 ^ k)
    have hn := Nat.div_add_mod n (2 ^ k)
    rw [← heq] at hn
    unfold roundedShift
    rw [← heq]
    split
    . split
      . omega
      . split <;> omega
    . split
      . split
        . omega
        . split <;> omega
      . split
        . omega
        . split <;> omega

theorem roundedShift_zero_right (n : Nat) : roundedShift n 0 = n := by
  simp [roundedShift, Nat.mod_one]

theorem roundedShift_mul_two_pow (n k j : Nat)
    : roundedShift (n * 2 ^ j) (k + j) = roundedShift n k := by
  have hpos : 0 < 2 ^ j := Nat.two_pow_pos j
  unfold roundedShift
  rw [Nat.pow_add, Nat.mul_div_mul_right _ _ hpos, Nat.mul_mod_mul_right, ← Nat.mul_assoc]
  simp only [Nat.mul_lt_mul_right hpos, Nat.mul_left_inj (Nat.ne_of_gt hpos)]

theorem roundedShift_mul_two_pow_self (n k : Nat) : roundedShift (n * 2 ^ k) k = n := by
  have h := roundedShift_mul_two_pow n 0 k
  rw [Nat.zero_add, roundedShift_zero_right] at h
  exact h

/--
The number of low bits that a double leaves out of `n / 2 ^ 2148`. The product of any two doubles
is such a number.
-/
def spareBits (n : Nat) : Nat := max (n.log2 - 52) 1074

/-- The rank of infinity. -/
def topRank : Nat := 2047 * 2 ^ 52

/-- How many positive doubles are at most `n / 2 ^ 2148` when that is rounded. -/
def magnitude (n : Nat) : Nat :=
  min ((spareBits n - 1074) * 2 ^ 52 + roundedShift n (spareBits n)) topRank

theorem log2_mono {m n : Nat} (h : m ≤ n) : m.log2 ≤ n.log2 := by
  by_cases hm : m = 0
  . rw [hm]
    simp
  . rw [Nat.le_log2 (by omega)]
    exact Nat.le_trans (Nat.log2_self_le hm) h

theorem roundedShift_spareBits_le (n : Nat) : roundedShift n (spareBits n) ≤ 2 ^ 53 := by
  have hlt : n < 2 ^ (53 + spareBits n) := by
    apply Nat.lt_of_lt_of_le Nat.lt_log2_self
    apply Nat.pow_le_pow_right (by omega)
    unfold spareBits
    omega
  rw [Nat.pow_add] at hlt
  have hdiv := Nat.div_lt_of_lt_mul (Nat.mul_comm _ _ ▸ hlt)
  have hround := roundedShift_le n (spareBits n)
  omega

theorem le_roundedShift_spareBits {n : Nat} (h : 1074 < spareBits n)
    : 2 ^ 52 ≤ roundedShift n (spareBits n) := by
  unfold spareBits at h
  have hn : n ≠ 0 := by
    intro hzero
    rw [hzero] at h
    simp at h
  have hle : 2 ^ (52 + spareBits n) ≤ n := by
    apply Nat.le_trans _ (Nat.log2_self_le hn)
    apply Nat.pow_le_pow_right (by omega)
    unfold spareBits
    omega
  rw [Nat.pow_add] at hle
  have hdiv := (Nat.le_div_iff_mul_le (Nat.two_pow_pos (spareBits n))).mpr hle
  exact Nat.le_trans hdiv (div_le_roundedShift n (spareBits n))

theorem spareBits_mono {m n : Nat} (h : m ≤ n) : spareBits m ≤ spareBits n := by
  have hlog := log2_mono h
  unfold spareBits
  omega

theorem magnitude_mono {m n : Nat} (h : m ≤ n) : magnitude m ≤ magnitude n := by
  have hspare := spareBits_mono h
  have hle : (spareBits m - 1074) * 2 ^ 52 + roundedShift m (spareBits m) ≤
      (spareBits n - 1074) * 2 ^ 52 + roundedShift n (spareBits n) := by
    by_cases heq : spareBits m = spareBits n
    . rw [heq]
      have hround := roundedShift_mono h (spareBits n)
      omega
    . have hfloor : 1074 ≤ spareBits m := by
        unfold spareBits
        omega
      have hm := roundedShift_spareBits_le m
      have hn : 2 ^ 52 ≤ roundedShift n (spareBits n) :=
        le_roundedShift_spareBits (by omega)
      omega
  unfold magnitude
  omega

theorem roundedShift_zero_left (k : Nat) : roundedShift 0 k = 0 := by
  simp [roundedShift]

theorem magnitude_zero : magnitude 0 = 0 := by
  have hspare : spareBits 0 = 1074 := by decide
  unfold magnitude
  rw [hspare, roundedShift_zero_left]
  rfl

/-- The signed rank of `n / 2 ^ 2148` rounded to a double. -/
def rankOf (n : Int) : Int := if n < 0 then -(magnitude n.natAbs : Int) else magnitude n.natAbs

theorem rankOf_mono {m n : Int} (h : m ≤ n) : rankOf m ≤ rankOf n := by
  unfold rankOf
  split
  . split
    . have hle : magnitude n.natAbs ≤ magnitude m.natAbs := magnitude_mono (by omega)
      omega
    . omega
  . split
    . omega
    . have hle : magnitude m.natAbs ≤ magnitude n.natAbs := magnitude_mono (by omega)
      omega

end Galley.Binary64
