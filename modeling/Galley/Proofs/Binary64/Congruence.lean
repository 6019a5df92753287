import Galley.Proofs.Binary64.Addition
import Galley.Proofs.Line.Baseline

/-!
This module contains what operations make of doubles of one rank, which differ at most in the sign
of a zero, and what they make of negated ones.
-/

namespace Galley.Binary64

open Float.Model Float.Model.UnpackedFloat

section Order

variable {x x' y y' : Float} (hx : rank x = rank x') (hy : rank y = rank y')

include hx in
theorem isNumber_congr : IsNumber x ↔ IsNumber x' := by
  unfold IsNumber
  rw [hx]

include hx hy in
theorem lt_congr : x < y ↔ x' < y' := by
  rw [lt_iff, lt_iff, isNumber_congr hx, isNumber_congr hy, hx, hy]

include hx hy in
theorem le_congr : x ≤ y ↔ x' ≤ y' := by
  rw [le_iff, le_iff, isNumber_congr hx, isNumber_congr hy, hx, hy]

include hx in
theorem isNaN_congr : Scalar.isNaN x = true ↔ Scalar.isNaN x' = true := by
  rw [isNaN_iff, isNaN_iff, isNumber_congr hx]

include hx hy in
theorem rank_greatest_congr : rank (Scalar.greatest x y) = rank (Scalar.greatest x' y') := by
  unfold Scalar.greatest
  simp only [lt_congr hx hy, isNaN_congr hx]
  split
  . exact hy
  . exact hx

include hx hy in
theorem rank_least_congr : rank (Scalar.least x y) = rank (Scalar.least x' y') := by
  unfold Scalar.least
  simp only [lt_congr hy hx, isNaN_congr hx]
  split
  . exact hy
  . exact hx

include hx in
theorem rank_abs_congr : rank x.abs = rank x'.abs := by
  by_cases hnumber : IsNumber x
  . rw [rank_abs hnumber, rank_abs ((isNumber_congr hx).mp hnumber), hx]
  . rw [eq_pack_notANumber hnumber,
      eq_pack_notANumber (fun h => hnumber ((isNumber_congr hx).mpr h))]

end Order

section Negation

theorem isNumber_neg_iff (x : Float) : IsNumber (-x) ↔ IsNumber x := by
  constructor
  . intro h
    rw [← neg_neg x]
    exact isNumber_neg h
  . exact isNumber_neg

theorem neg_lt_neg_iff (x y : Float) : -x < -y ↔ y < x := by
  rw [lt_iff, lt_iff, isNumber_neg_iff, isNumber_neg_iff]
  constructor
  . rintro ⟨hx, hy, h⟩
    rw [rank_neg hx, rank_neg hy] at h
    exact ⟨hy, hx, by omega⟩
  . rintro ⟨hy, hx, h⟩
    rw [rank_neg hx, rank_neg hy]
    exact ⟨hx, hy, by omega⟩

theorem isFinite_neg_iff (x : Float) : (-x).isFinite = x.isFinite := by
  rw [Bool.eq_iff_iff]
  constructor
  . intro h
    rw [← neg_neg x]
    exact isFinite_neg h
  . exact isFinite_neg

theorem abs_neg (x : Float) : (-x).abs = x.abs := by
  have habs : ∀ y : Float, y.abs = .ofModel (.pack y.toModel.unpack.abs) := fun _ => rfl
  rw [habs, habs, unpack_neg]
  cases x.toModel.unpack <;> rfl

theorem rank_sub_comm (x y : Float) : rank (y - x) = rank (-(x - y)) := by
  rw [← neg_sub_neg, sub_eq_add_neg (-x), rank_neg_add_neg, ← sub_eq_add_neg]

theorem rank_abs_sub_comm (x y : Float) : rank (x - y).abs = rank (y - x).abs := by
  rw [rank_abs_congr (rank_sub_comm y x), abs_neg]

theorem rankOf_pos {n : Int} (h : 0 < n) : 0 < rankOf (n * (2 ^ fineness : Nat)) := by
  have hone : rankOf (1 * (2 ^ fineness : Nat)) = 1 := by decide +kernel
  have hmono : rankOf (1 * (2 ^ fineness : Nat)) ≤ rankOf (n * (2 ^ fineness : Nat)) := by
    apply rankOf_mono
    apply Int.mul_le_mul_of_nonneg_right
    . omega
    . exact Int.natCast_nonneg _
  omega

theorem eq_zero_of_rankOf_eq_zero {n : Int} (h : rankOf (n * (2 ^ fineness : Nat)) = 0)
    : n = 0 := by
  rcases Int.lt_trichotomy n 0 with hlt | heq | hgt
  . have hpos := @rankOf_pos (-n) (by omega)
    rw [Int.neg_mul, rankOf_neg] at hpos
    omega
  . exact heq
  . have hpos := rankOf_pos hgt
    omega

theorem rank_eq_neg_of_add_eq_zero {x y : Float} (hx : x.isFinite = true) (hy : y.isFinite = true)
    (h : rank (x + y) = 0) : rank x = rank (-y) := by
  have hneg := isFinite_neg hy
  rw [rank_add hx hy] at h
  have hunits := eq_zero_of_rankOf_eq_zero h
  rw [← rankOf_unitsOf hx, ← rankOf_unitsOf hneg, unitsOf_neg]
  congr 2
  omega

/-- The sum of negated doubles is the negated sum, unless one is the other negated. -/
theorem neg_add_neg_of_ne {x y : Float} (hx : x.isFinite = true) (hy : y.isFinite = true)
    (h : x ≠ -y) : -x + -y = -(x + y) := by
  have hrank := rank_neg_add_neg x y
  by_cases h0 : rank (x + y) = 0
  . have hxy := rank_eq_neg_of_add_eq_zero hx hy h0
    by_cases hx0 : rank x = 0
    . -- both are zeros of one sign
      have hy0 : rank y = 0 := by
        rw [rank_neg (isNumber_of_isFinite hy)] at hxy
        omega
      rcases eq_zero_of_rank_eq_zero hx0 with hxz | hxz
      . rcases eq_zero_of_rank_eq_zero hy0 with hyz | hyz
        . rw [hxz, hyz]
          decide +kernel
        . rw [hxz, hyz, neg_neg] at h
          contradiction
      . rcases eq_zero_of_rank_eq_zero hy0 with hyz | hyz
        . rw [hxz, hyz] at h
          contradiction
        . rw [hxz, hyz]
          decide +kernel
    . exact absurd (eq_of_rank_eq hxy hx0) h
  . apply eq_of_rank_eq hrank
    rw [hrank, rank_neg (isNumber_add hx hy)]
    omega

end Negation

theorem rank_zero_div {x z : Float} (hx : rank x = 0) (hz : rank z = 0) (y : Float)
    : rank (x / y) = rank (z / y) := by
  obtain ⟨s, hs⟩ := unpack_of_rank_eq_zero hx
  obtain ⟨t, ht⟩ := unpack_of_rank_eq_zero hz
  have hdiv : ∀ w : Float, w / y =
    .ofModel (.pack (UnpackedFloat.div .binary64 w.toModel.unpack y.toModel.unpack)) := fun _ => rfl
  rw [hdiv, hdiv, hs, ht]
  generalize y.toModel.unpack = v
  cases v with
  | notANumber => rfl
  | zero => rfl
  | infinity r => cases s <;> cases t <;> cases r <;> decide +kernel
  | finite r n f hn =>
    dsimp only [UnpackedFloat.div]
    cases s <;> cases t <;> cases r <;> decide +kernel

theorem rank_div_congr {x x' : Float} (h : rank x = rank x') (y : Float)
    : rank (x / y) = rank (x' / y) := by
  by_cases h0 : rank x = 0
  . exact rank_zero_div h0 (by rw [← h, h0]) y
  . rw [eq_of_rank_eq h h0]

end Galley.Binary64
