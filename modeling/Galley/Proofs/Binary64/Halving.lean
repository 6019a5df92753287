import Galley.Proofs.Binary64.Addition

/-!
This module contains halving of doubles, which is exact but for the last bit of the smallest ones,
and from that its monotonicity.
-/

open Float.Model Float.Model.UnpackedFloat

namespace Galley.Binary64

theorem canonical_two : Canonical (2 ^ 52) (-51) := by
  constructor
  . omega
  . decide
  . exact .inr (Nat.le_refl _)

theorem unpack_two
    : (2.0 : Float).toModel.unpack = .finite .positive (2 ^ 52) (-51) (by decide) := by
  have h : (2.0 : Float).toModel = .pack (.finite .positive (2 ^ 52) (-51) (by decide)) := by
    decide +kernel
  have hshaped := Shaped.finite .positive (2 ^ 52) (-51) (by decide) canonical_two (by omega)
  rw [h, hshaped.unpack_pack]

theorem divCore_two (m : Nat) (e : Int) {t : Int} {k : Nat}
    (ht : min (e + 51) (max ((m.log2 : Int) + e - 54) (-1074)) = t) (hk : (e + 51 - t).toNat = k)
    : divCore .binary64 m e (2 ^ 52) (-51) =
        (m * 2 ^ k / 2 ^ 52, t, accuracyOfFraction (m * 2 ^ k % 2 ^ 52) (2 ^ 52)) := by
  have htwo : totalExponent (2 ^ 52) (-51) = 2 := by decide
  have htarget : Format.binary64.targetExponent (totalExponent m e - 2) =
      max ((m.log2 : Int) + e - 54) (-1074) := by
    show max ((m.log2 : Int) + 1 + e - 2 - 53) (-1074) = _
    omega
  unfold divCore
  dsimp only
  rw [htwo, htarget, Int.sub_neg, ht, hk, Nat.shiftLeft_eq]

theorem represents_half (m : Nat)
    : Represents
        (.ofMantissaAndAccuracy (m / 2) (accuracyOfFraction (m * 2 ^ 51 % 2 ^ 52) (2 ^ 52)))
        m 1 := by
  have hbit := Nat.mod_two_eq_zero_or_one m
  by_cases heven : m % 2 = 0
  . have hrest : m * 2 ^ 51 % 2 ^ 52 = 0 := by omega
    have hexact : accuracyOfFraction 0 (2 ^ 52) = .exact := rfl
    rw [hrest, hexact, ExtendedMantissa.ofMantissaAndAccuracy]
    constructor
    . rw [Nat.pow_one]
    . simp [heven]
    . simp [heven]
  . have hrest : m * 2 ^ 51 % 2 ^ 52 = 2 ^ 51 := by omega
    have htie : accuracyOfFraction (2 ^ 51) (2 ^ 52) = .inexact .eq := rfl
    have hodd : m % 2 = 1 := by omega
    rw [hrest, htie, ExtendedMantissa.ofMantissaAndAccuracy]
    constructor
    . rw [Nat.pow_one]
    . simp [hodd]
    . simp [hodd]

theorem unitExponent_least {m : Nat} (hm : m < 2 ^ 53) : unitExponent m (-1074) = -1074 := by
  unfold unitExponent
  by_cases hzero : m = 0
  . rw [hzero, Nat.log2_zero]
    omega
  . have hlog := (Nat.log2_lt hzero).mpr hm
    omega

theorem ranked_half_least (s : Sign) {m : Nat} (hm : m < 2 ^ 53)
    : Ranked
        (roundWithAccuracy .binary64 s (m / 2) (-1074)
          (accuracyOfFraction (m * 2 ^ 51 % 2 ^ 52) (2 ^ 52)))
        (s.apply (magnitude (m * 2 ^ (-1074 + 2147 : Int).toNat) : Nat)) := by
  obtain ⟨j, hj⟩ : ∃ j : Nat, (-1074 + 2147 : Int).toNat = j := ⟨_, rfl⟩
  have hfirst : ∀ acc, shiftToTargetExponent .binary64 (m / 2) (-1074) acc =
      (.ofMantissaAndAccuracy (m / 2) acc, -1074) := by
    intro acc
    show ((ExtendedMantissa.ofMantissaAndAccuracy (m / 2) acc) >>>
      (unitExponent (m / 2) (-1074) - -1074).toNat,
      -1074 + ((unitExponent (m / 2) (-1074) - -1074).toNat : Int)) = _
    rw [unitExponent_least (by omega)]
    rfl
  have hspare : spareBits (m * 2 ^ j) = 1 + j := by
    unfold spareBits
    by_cases hzero : m = 0
    . rw [hzero, Nat.zero_mul, Nat.log2_zero]
      omega
    . have hlog := (Nat.log2_lt hzero).mpr hm
      rw [log2_mul_two_pow (Nat.pos_of_ne_zero hzero)]
      omega
  have hbound := roundedShift_spareBits_le (m * 2 ^ j)
  rw [hspare, roundedShift_mul_two_pow] at hbound
  have hrank : magnitude (m * 2 ^ (-1074 + 2147 : Int).toNat) =
      min (unitRank (roundedShift m 1) (-1074)) topRank := by
    rw [hj]
    unfold magnitude unitRank
    rw [hspare, roundedShift_mul_two_pow]
    omega
  rw [hrank]
  unfold roundWithAccuracy
  rw [hfirst]
  dsimp only
  rw [(represents_half m).roundedMantissa, shiftToTargetExponent_eq]
  apply ranked_second_shift s hbound (Int.le_refl _) (.inl rfl)
  apply mantissa_shiftRight

theorem ranked_half (s : Sign) {m : Nat} {e : Int} (hm : 0 < m) (h : Canonical m e)
    : Ranked
        (UnpackedFloat.div .binary64 (.finite s m e hm)
          (.finite .positive (2 ^ 52) (-51) (by decide)))
        (s.apply (magnitude (m * 2 ^ (e + 2147).toNat) : Nat)) := by
  obtain ⟨hleast, hbounded, hleading⟩ := h
  have hsign : s / .positive = s := by cases s <;> rfl
  have hlog := (Nat.log2_lt (Nat.ne_of_gt hm)).mpr hbounded
  unfold UnpackedFloat.div
  dsimp only
  rw [hsign]
  by_cases he : e = -1074
  . subst he
    rw [divCore_two m (-1074) (t := -1074) (k := 51) (by omega) (by omega)]
    have hhalf : m * 2 ^ 51 / 2 ^ 52 = m / 2 := by omega
    rw [hhalf]
    exact ranked_half_least s hbounded
  . have hlog' := (Nat.le_log2 (Nat.ne_of_gt hm)).mpr (hleading.resolve_left he)
    obtain ⟨t, ht⟩ : ∃ t, min (e + 51) (max ((m.log2 : Int) + e - 54) (-1074)) = t := ⟨_, rfl⟩
    obtain ⟨k, hk⟩ : ∃ k : Nat, (e + 51 - t).toNat = k + 52 := by
      exact ⟨(e + 51 - t).toNat - 52, by omega⟩
    rw [divCore_two m e ht hk, Nat.pow_add, ← Nat.mul_assoc, Nat.mul_div_cancel _ (by decide),
      Nat.mul_mod_left]
    dsimp only
    have hscale : m * 2 ^ (e + 2147).toNat = m * 2 ^ k * 2 ^ (t + 2148).toNat := by
      rw [Nat.mul_assoc, ← Nat.pow_add]
      congr 2
      omega
    rw [hscale]
    apply ranked_roundWithAccuracy
    . exact Nat.mul_pos hm (Nat.two_pow_pos k)
    . omega
    . unfold unitExponent
      rw [log2_mul_two_pow hm]
      omega

theorem rank_half {x : Float} (hx : x.isFinite = true)
    : rank (x / 2.0) = rankOf (unitsOf x * (2 ^ (fineness - 1) : Nat)) := by
  obtain ⟨s, r, hu, _, hr⟩ := exists_finite_shape hx
  have hdiv : x / 2.0 = .ofModel (.pack (UnpackedFloat.div .binary64 x.toModel.unpack
      (2.0 : Float).toModel.unpack)) := rfl
  rw [hdiv, unpack_two]
  apply rank_pack
  unfold unitsOf
  generalize x.toModel.unpack = u at hu
  cases hu with
  | notANumber _ _ h => omega
  | infinity => omega
  | zero s =>
    have hzero : rankOf (units (.zero s) * (2 ^ (fineness - 1) : Nat)) = 0 := by
      show rankOf (0 * _) = 0
      rw [Int.zero_mul, rankOf_zero]
    rw [hzero]
    exact .zero _
  | finite s m e hm hcanonical =>
    have hleast := hcanonical.least_exponent
    have hscale : units (.finite s m e hm) * (2 ^ (fineness - 1) : Nat) =
        s.apply (m * 2 ^ (e + 2147).toNat : Nat) := by
      have hpow : (e + 1074).toNat + (fineness - 1) = (e + 2147).toNat := by
        unfold fineness
        omega
      unfold units
      rw [apply_mul_natCast, Nat.mul_assoc, ← Nat.pow_add, hpow]
    rw [hscale, rankOf_apply]
    exact ranked_half s hm hcanonical

theorem half_infinity {x : Float} {s : Sign} (h : x.toModel.unpack = .infinity s)
    : x / 2.0 = x := by
  have hdiv : x / 2.0 = .ofModel (.pack (UnpackedFloat.div .binary64 x.toModel.unpack
      (2.0 : Float).toModel.unpack)) := rfl
  have hx := pack_unpack x
  rw [hdiv, unpack_two]
  rw [h] at hx ⊢
  rw [← hx]
  cases s <;> rfl

theorem isNumber_half {x : Float} (h : IsNumber x) : IsNumber (x / 2.0) := by
  rcases unpack_of_isNumber h with hfinite | ⟨s, hs⟩
  . unfold IsNumber
    rw [rank_half hfinite]
    apply natAbs_rankOf_le
  . rw [half_infinity hs]
    exact h

theorem rank_half_le_half {x y : Float} (hx : IsNumber x) (hy : IsNumber y)
    (h : rank x ≤ rank y) : rank (x / 2.0) ≤ rank (y / 2.0) := by
  -- an infinity is its own half, and no number is beyond it
  have hxhalf := isNumber_half hx
  have hyhalf := isNumber_half hy
  unfold IsNumber at hxhalf hyhalf
  rcases unpack_of_isNumber hx with hxfinite | ⟨s, hs⟩
  . rcases unpack_of_isNumber hy with hyfinite | ⟨t, ht⟩
    . rw [rank_half hxfinite, rank_half hyfinite]
      apply rankOf_mono
      apply Int.mul_le_mul_of_nonneg_right
      . exact unitsOf_mono hxfinite hyfinite h
      . exact Int.natCast_nonneg _
    . have hrank := rank_of_unpack_infinity ht
      rw [isFinite_iff] at hxfinite
      rw [half_infinity ht]
      cases t <;> simp only [Sign.apply] at hrank <;> omega
  . have hrank := rank_of_unpack_infinity hs
    rw [half_infinity hs]
    cases s with
    | negative =>
      simp only [Sign.apply] at hrank
      omega
    | positive =>
      have hytop := hy
      simp only [Sign.apply] at hrank
      unfold IsNumber at hytop
      rw [half_infinity (unpack_of_rank_eq_topRank (by omega))]
      exact h

end Galley.Binary64
