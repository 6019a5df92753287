import Galley.Proofs.Binary64.Addition

/-!
This module contains doubles that are not below zero: differences of ordered numbers, products,
quotients by positive numbers and roundings of such doubles are not below zero either, whether or
not they leave the range of doubles on the way.
-/

open Float.Model Float.Model.UnpackedFloat

namespace Galley.Binary64

section Unpacked

/-- The unpacked doubles that are not below zero, among them those that are no number. -/
inductive NonNegative : UnpackedFloat → Prop
  | notANumber : NonNegative .notANumber
  | infinity : NonNegative (.infinity .positive)
  | zero (s : Sign) : NonNegative (.zero s)
  | finite (m : Nat) (e : Int) (hm : 0 < m) : NonNegative (.finite .positive m e hm)

theorem NonNegative.zeroOrFinite (m : Nat) (e : Int)
    : NonNegative
        (if h : m = 0 then .zero .positive else .finite .positive m e (Nat.pos_of_ne_zero h)) := by
  by_cases hzero : m = 0
  . rw [dif_pos hzero]
    exact .zero _
  . rw [dif_neg hzero]
    exact .finite m e _

theorem NonNegative.roundWithAccuracy (m : Nat) (e : Int) (accuracy : Accuracy)
    : NonNegative (roundWithAccuracy .binary64 .positive m e accuracy) := by
  unfold UnpackedFloat.roundWithAccuracy
  exact .zeroOrFinite _ _

theorem NonNegative.mul {u v : UnpackedFloat} (hu : NonNegative u) (hv : NonNegative v)
    : NonNegative (UnpackedFloat.mul .binary64 u v) := by
  cases hu with
  | notANumber => cases hv <;> exact .notANumber
  | infinity =>
    cases hv with
    | infinity => exact .infinity
    | finite => exact .infinity
    | _ => exact .notANumber
  | zero s =>
    cases hv with
    | zero t => exact .zero _
    | finite => exact .zero _
    | _ => exact .notANumber
  | finite m e hm =>
    cases hv with
    | notANumber => exact .notANumber
    | infinity => exact .infinity
    | zero t => exact .zero _
    | finite n f hn => exact .roundWithAccuracy _ _ _

theorem NonNegative.div {u v : UnpackedFloat} (hu : NonNegative u) (hv : NonNegative v)
    (hzero : ∀ s, v ≠ .zero s) : NonNegative (UnpackedFloat.div .binary64 u v) := by
  cases hv with
  | notANumber => cases hu <;> exact .notANumber
  | zero s => exact absurd rfl (hzero s)
  | infinity =>
    cases hu with
    | zero => exact .zero _
    | finite => exact .zero _
    | _ => exact .notANumber
  | finite n f hn =>
    cases hu with
    | notANumber => exact .notANumber
    | infinity => exact .infinity
    | zero s => exact .zero _
    | finite m e hm => exact .roundWithAccuracy _ _ _

theorem NonNegative.ofNat (n : Nat) : NonNegative (UnpackedFloat.ofNat .binary64 n) := by
  unfold UnpackedFloat.ofNat UnpackedFloat.ofInt UnpackedFloat.normalize
  split
  next hlt =>
    rw [Int.compare_eq_lt] at hlt
    omega
  next => exact .zero _
  next => exact .roundWithAccuracy _ _ _

theorem NonNegative.ofScientific (n : Nat)
    : NonNegative (UnpackedFloat.ofScientific .binary64 n 0) := by
  unfold UnpackedFloat.ofScientific
  by_cases hzero : n = 0
  . rw [dif_pos hzero]
    exact .zero _
  . have hlog : (0 : Int) ≤ n.log2 := Int.natCast_nonneg _
    have hlarge : ¬ (0 : Int) > 2 ^ Format.binary64.exponentBits := by decide
    have hsmall : ¬ (0 : Int) < -((2 ^ Format.binary64.exponentBits : Int) + n.log2) := by omega
    rw [dif_neg hzero, if_neg hlarge, if_neg hsmall, if_pos (Int.le_refl 0)]
    exact .mul (.finite _ _ _) (.finite _ _ _)

theorem rank_nonneg_of_toNat_lt {x : Float} (h : x.toBits.toNat < signBit) : 0 ≤ rank x := by
  unfold rank
  rw [if_pos h]
  exact Int.natCast_nonneg _

theorem toNat_packComponents_lt (e : BitVec 11) (m : BitVec 52)
    : (packComponents .binary64 .positive e m).toNat < signBit := by
  have hpositive : Sign.positive.toBitVec.toNat = 0 := by rfl
  have he := e.isLt
  have hm := m.isLt
  rw [toNat_packComponents, hpositive]
  unfold signBit
  omega

theorem NonNegative.rank_pack {u : UnpackedFloat} (h : NonNegative u)
    : 0 ≤ rank (.ofModel (.pack u)) := by
  cases h with
  | notANumber => decide +kernel
  | infinity => decide +kernel
  | zero s => exact Int.le_of_eq (Binary64.rank_pack (.zero s)).symm
  | finite m e hm =>
    -- the sign bit is clear in whatever way the other bits are packed
    apply rank_nonneg_of_toNat_lt
    show (UnpackedFloat.pack .binary64 (.finite .positive m e hm)).toNat < signBit
    unfold UnpackedFloat.pack
    dsimp only
    split
    . exact toNat_packComponents_lt _ _
    . split
      . exact toNat_packComponents_lt _ _
      . exact toNat_packComponents_lt _ _

theorem Shaped.nonNegative {u : UnpackedFloat} {s : Sign} {r : Nat} (h : Shaped u s r)
    (hr : 0 ≤ s.apply r) : NonNegative u := by
  have htop := topRank_pos
  cases h with
  | notANumber => exact .notANumber
  | zero => exact .zero s
  | infinity =>
    cases s with
    | positive => exact .infinity
    | negative =>
      simp only [Sign.apply] at hr
      omega
  | finite _ m e hm =>
    have hpos := unitRank_pos e hm
    cases s with
    | positive => exact .finite m e hm
    | negative =>
      simp only [Sign.apply] at hr
      omega

theorem nonNegative_unpack {x : Float} (h : 0 ≤ rank x) : NonNegative x.toModel.unpack := by
  obtain ⟨s, r, hu, hr⟩ := exists_shaped_unpack x
  rw [hr] at h
  exact hu.nonNegative h

end Unpacked

section Operations

variable {x y : Float}

theorem not_lt_zero_of_rank (h : 0 ≤ rank x) : ¬ x < 0.0 := by
  rw [lt_iff, rank_zero]
  omega

theorem rank_mul_of_nonneg (hx : 0 ≤ rank x) (hy : 0 ≤ rank y) : 0 ≤ rank (x * y) :=
  ((nonNegative_unpack hx).mul (nonNegative_unpack hy)).rank_pack

theorem rank_div_of_nonneg (hx : 0 ≤ rank x) (hy : 0 < rank y) : 0 ≤ rank (x / y) := by
  have hzero : ∀ s, y.toModel.unpack ≠ .zero s := by
    intro s hs
    have hrank : rank y = 0 := by
      rw [← pack_unpack y, hs]
      exact rank_pack (.zero s)
    omega
  exact ((nonNegative_unpack hx).div (nonNegative_unpack (Int.le_of_lt hy)) hzero).rank_pack

theorem rank_infinity_sub (hx : rank x = topRank) (y : Float) : 0 ≤ rank (x - y) := by
  have hsub : x - y = .ofModel (.pack
      (UnpackedFloat.sub .binary64 x.toModel.unpack y.toModel.unpack)) := rfl
  rw [hsub, unpack_of_rank_eq_topRank hx]
  rcases infinity_sub_cases y.toModel.unpack with h | h
  . rw [h]
    exact NonNegative.infinity.rank_pack
  . rw [h]
    exact NonNegative.notANumber.rank_pack

/-- A number less one that is no larger is not below zero; between infinities it is no number. -/
theorem rank_sub_of_le (hx : IsNumber x) (hy : IsNumber y) (h : rank x ≤ rank y)
    : 0 ≤ rank (y - x) := by
  by_cases htop : rank y = topRank
  . exact rank_infinity_sub htop x
  by_cases hbottom : rank x = -topRank
  . rw [← neg_sub_neg]
    apply rank_infinity_sub
    rw [rank_neg hx, hbottom, Int.neg_neg]
  . unfold IsNumber at hx hy
    have hxfinite : x.isFinite = true := by
      rw [isFinite_iff]
      omega
    have hyfinite : y.isFinite = true := by
      rw [isFinite_iff]
      omega
    rw [← rank_sub_eq_zero hxfinite hxfinite rfl]
    exact rank_sub_le_sub_right hxfinite hyfinite (isNumber_of_isFinite hxfinite) h

theorem rank_ofNat_nonneg (n : Nat) : 0 ≤ rank (Float.ofScientific n false 0) := by
  unfold Float.ofScientific
  split
  . have hone : 0 ≤ rank Float.exactlyRepresentablePowersOfTen[0] := by decide +kernel
    apply rank_mul_of_nonneg _ hone
    exact (NonNegative.ofNat _).rank_pack
  . exact (NonNegative.ofScientific n).rank_pack

end Operations

section Integers

variable {x : Float} {b : Binary64}

/-- What a double denotes that is not below zero; a zero may have either sign. -/
theorem ofFloat?_of_nonneg (h : 0 ≤ rank x) (hb : ofFloat? x = some b)
    : b.negative = false ∨ b.negative = true ∧ b.significand = 0 ∧ b.exponent = -1074 := by
  unfold rank at h
  unfold ofFloat? at hb
  dsimp only at hb
  by_cases hneg : signBit ≤ x.toBits.toNat
  . right
    have hbits : x.toBits.toNat = signBit := by
      rw [if_neg (by omega)] at h
      omega
    rw [hbits] at hb
    have hzero : some b = some ⟨true, 0, -1074⟩ := by
      rw [← hb]
      decide
    injection hzero with hzero
    rw [hzero]
    exact ⟨rfl, rfl, rfl⟩
  . left
    split at hb
    . contradiction
    . split at hb
      . injection hb with hb
        rw [← hb]
        exact decide_eq_false hneg
      . injection hb with hb
        rw [← hb]
        exact decide_eq_false hneg

theorem split_of_significand (h0 : b.significand = 0) (he : b.exponent = -1074)
    : b.split = (0, 0, 1 <<< 1074) := by
  unfold Binary64.split
  rw [h0, he]
  rfl

theorem rank_round_nonneg (h : 0 ≤ rank x) : 0 ≤ rank (Scalar.round x) := by
  show 0 ≤ rank (roundDouble _ x)
  unfold roundDouble
  split
  . exact h
  next b hb =>
    split
    . exact h
    dsimp only
    rcases ofFloat?_of_nonneg h hb with hsign | ⟨hsign, h0, he⟩
    . rw [hsign, if_neg (by simp)]
      apply rank_ofNat_nonneg
    . rw [split_of_significand h0 he, hsign]
      decide +kernel

theorem clampDouble_of_nonneg (h : 0 ≤ rank x) {low high : Int} (hlow : low ≤ 0) (hhigh : 0 ≤ high)
    : 0 ≤ clampDouble low high x ∧ clampDouble low high x ≤ high := by
  unfold clampDouble
  split
  next b hb =>
    have htruncate : 0 ≤ b.truncate := by
      unfold truncate
      rcases ofFloat?_of_nonneg h hb with hsign | ⟨hsign, h0, he⟩
      . rw [hsign]
        exact Int.natCast_nonneg _
      . rw [split_of_significand h0 he, hsign]
        exact Int.le_refl _
    omega
  next =>
    rw [if_neg (not_lt_zero_of_rank h)]
    split <;> omega

/-- The integer part of a double that is not below zero has a predecessor among 64-bit integers. -/
theorem toInt64_of_nonneg (h : 0 ≤ rank x)
    : 0 ≤ Scalar.toInt64 x ∧
        (Int64.ofInt (Scalar.toInt64 x) - 1).toInt = Scalar.toInt64 x - 1 := by
  obtain ⟨hlow, hhigh⟩ : 0 ≤ Scalar.toInt64 x ∧ Scalar.toInt64 x ≤ Int64.maxValue.toInt :=
    clampDouble_of_nonneg h (show Int64.minValue.toInt ≤ 0 by decide) (by decide)
  have hmax : Int64.maxValue.toInt = 2 ^ 63 - 1 := by decide
  have hone : (1 : Int64).toInt = 1 := by decide
  refine ⟨hlow, ?_⟩
  rw [Int64.toInt_sub, hone, Int64.toInt_ofInt_of_le (by omega) (by omega)]
  apply Int.bmod_eq_of_le <;> omega

end Integers

end Galley.Binary64
