import Galley.Proofs.Binary64.Order

/-!
This module contains the rounding that every operation on doubles ends with: bits are shifted out
one by one, and what is left has the rank of the exact result.
-/

open Float.Model Float.Model.UnpackedFloat

namespace Galley.Binary64

/-- A significand that stands for `n / 2 ^ k`, with what is known about the bits shifted out. -/
structure Represents (em : ExtendedMantissa) (n k : Nat) : Prop where
  mantissa : em.mantissa = n / 2 ^ k
  roundBit : em.roundBit = true ↔ 2 ^ k ≤ 2 * (n % 2 ^ k)
  stickyBit : em.stickyBit = true ↔ n % 2 ^ k ≠ 0 ∧ 2 * (n % 2 ^ k) ≠ 2 ^ k

theorem Represents.exact (n : Nat) : Represents ⟨n, false, false⟩ n 0 := by
  constructor <;> simp [Nat.mod_one]

theorem Represents.shiftRightOne {em : ExtendedMantissa} {n k : Nat} (h : Represents em n k)
    : Represents em.shiftRightOne n (k + 1) := by
  have hpos : 0 < 2 ^ k := Nat.two_pow_pos k
  have hmod : n % 2 ^ (k + 1) = n % 2 ^ k + 2 ^ k * (n / 2 ^ k % 2) := by
    rw [Nat.pow_succ, Nat.mod_mul]
  have hlt : n % 2 ^ k < 2 ^ k := Nat.mod_lt n hpos
  have hpow : 2 ^ (k + 1) = 2 ^ k * 2 := Nat.pow_succ 2 k
  unfold ExtendedMantissa.shiftRightOne
  constructor
  . show em.mantissa / 2 = n / 2 ^ (k + 1)
    rw [h.mantissa, Nat.div_div_eq_div_mul, hpow]
  . show (em.mantissa % 2 != 0) = true ↔ _
    rw [h.mantissa, bne_iff_ne, hmod, hpow]
    rcases Nat.mod_two_eq_zero_or_one (n / 2 ^ k) with hbit | hbit
    . rw [hbit]
      omega
    . rw [hbit]
      omega
  . show (em.roundBit || em.stickyBit) = true ↔ _
    rw [Bool.or_eq_true, h.roundBit, h.stickyBit, hmod, hpow]
    rcases Nat.mod_two_eq_zero_or_one (n / 2 ^ k) with hbit | hbit
    . rw [hbit]
      omega
    . rw [hbit]
      omega

theorem Represents.shiftRight (n k : Nat)
    : Represents ((⟨n, false, false⟩ : ExtendedMantissa) >>> k) n k := by
  show Represents (k.repeat ExtendedMantissa.shiftRightOne ⟨n, false, false⟩) n k
  induction k with
  | zero => exact .exact n
  | succ k ih => exact ih.shiftRightOne

theorem Represents.roundedMantissa {em : ExtendedMantissa} {n k : Nat} (h : Represents em n k)
    : em.roundedMantissa = roundedShift n k := by
  obtain ⟨hmantissa, hround, hsticky⟩ := h
  obtain ⟨mantissa, roundBit, stickyBit⟩ := em
  unfold roundedShift
  cases roundBit with
  | false =>
    have hlow : 2 * (n % 2 ^ k) < 2 ^ k := by
      have hnot : ¬ 2 ^ k ≤ 2 * (n % 2 ^ k) := by simp [← hround]
      omega
    rw [if_pos hlow, ← hmantissa]
    cases stickyBit <;> rfl
  | true =>
    have hhigh : 2 ^ k ≤ 2 * (n % 2 ^ k) := by simp [← hround]
    rw [if_neg (by omega)]
    cases stickyBit with
    | false =>
      have htie : 2 * (n % 2 ^ k) = 2 ^ k := by
        have hnot : ¬ (n % 2 ^ k ≠ 0 ∧ 2 * (n % 2 ^ k) ≠ 2 ^ k) := by simp [← hsticky]
        have hpos : 0 < 2 ^ k := Nat.two_pow_pos k
        omega
      rw [if_pos htie, ← hmantissa]
      rfl
    | true =>
      have htie : n % 2 ^ k ≠ 0 ∧ 2 * (n % 2 ^ k) ≠ 2 ^ k := by simp [← hsticky]
      rw [if_neg htie.2, ← hmantissa]
      rfl

theorem log2_mul_two_pow {m : Nat} (hm : 0 < m) (j : Nat) : (m * 2 ^ j).log2 = m.log2 + j := by
  rw [Nat.log2_eq_iff (Nat.ne_of_gt (Nat.mul_pos hm (Nat.two_pow_pos j)))]
  constructor
  . rw [Nat.pow_add]
    exact Nat.mul_le_mul_right _ (Nat.log2_self_le (Nat.ne_of_gt hm))
  . rw [Nat.add_right_comm, Nat.pow_add]
    exact Nat.mul_lt_mul_of_pos_right Nat.lt_log2_self (Nat.two_pow_pos j)

/-- The exponent to which `m * 2 ^ e` is rounded. -/
def unitExponent (m : Nat) (e : Int) : Int := max (m.log2 + 1 + e - 53) (-1074)

theorem shiftToTargetExponent_eq (m : Nat) (e : Int)
    : shiftToTargetExponent Format.binary64 m e .exact =
        ((⟨m, false, false⟩ : ExtendedMantissa) >>> (unitExponent m e - e).toNat,
          e + (unitExponent m e - e).toNat) := by
  rfl

theorem mantissa_shiftRight (n k : Nat)
    : ((⟨n, false, false⟩ : ExtendedMantissa) >>> k).mantissa = n / 2 ^ k :=
  (Represents.shiftRight n k).mantissa

theorem ranked_second_shift (s : Sign) {q m : Nat} {e : Int} (hq : q ≤ 2 ^ 53) (he : -1074 ≤ e)
    (hlead : e = -1074 ∨ 2 ^ 52 ≤ q) (hm : m = q / 2 ^ (unitExponent q e - e).toNat)
    : Ranked
        (if h : m = 0 then .zero s
          else .finite s m (e + (unitExponent q e - e).toNat) (Nat.pos_of_ne_zero h))
        (s.apply (min (unitRank q e) topRank : Nat)) := by
  -- the significand that is left may be one bit too long, and only then is it shifted again
  by_cases hlong : q = 2 ^ 53
  . have hshift : (unitExponent q e - e).toNat = 1 := by
      unfold unitExponent
      rw [hlong, Nat.log2_two_pow]
      omega
    rw [hshift] at hm ⊢
    have hrank : unitRank q e = unitRank m (e + (1 : Nat)) := by
      unfold unitRank
      omega
    rw [hrank, dif_neg (by omega)]
    apply Ranked.finite
    exact ⟨by omega, by omega, .inr (by omega)⟩
  . have hshift : (unitExponent q e - e).toNat = 0 := by
      unfold unitExponent
      by_cases hzero : q = 0
      . rw [hzero, Nat.log2_zero]
        omega
      . have hlog := (Nat.log2_lt hzero).mpr (show q < 2 ^ 53 by omega)
        omega
    rw [hshift, Nat.pow_zero, Nat.div_one] at hm
    rw [hshift]
    by_cases hzero : m = 0
    . have hrank : s.apply (min (unitRank q e) topRank : Nat) = 0 := by
        have hmin : min (unitRank q e) topRank = 0 := by
          unfold unitRank
          omega
        rw [hmin]
        cases s <;> rfl
      rw [dif_pos hzero, hrank]
      apply Ranked.zero
    . have hrank : unitRank q e = unitRank m (e + (0 : Nat)) := by
        unfold unitRank
        omega
      rw [dif_neg hzero, hrank]
      apply Ranked.finite
      exact ⟨by omega, by omega, by omega⟩

theorem ranked_roundWithAccuracy (s : Sign) {m : Nat} {e : Int} (hm : 0 < m) (he : -2148 ≤ e)
    (hfine : e ≤ unitExponent m e)
    : Ranked (roundWithAccuracy Format.binary64 s m e .exact)
        (s.apply (magnitude (m * 2 ^ (e + 2148).toNat) : Nat)) := by
  obtain ⟨j, hj⟩ : ∃ j : Nat, (e + 2148).toNat = j := ⟨_, rfl⟩
  obtain ⟨k, hk⟩ : ∃ k : Nat, (unitExponent m e - e).toNat = k := ⟨_, rfl⟩
  have hspare : spareBits (m * 2 ^ j) = k + j := by
    unfold spareBits
    rw [log2_mul_two_pow hm]
    unfold unitExponent at hk hfine
    omega
  have hround : roundedShift (m * 2 ^ j) (spareBits (m * 2 ^ j)) = roundedShift m k := by
    rw [hspare, roundedShift_mul_two_pow]
  have hbound := roundedShift_spareBits_le (m * 2 ^ j)
  have hlead := le_roundedShift_spareBits (n := m * 2 ^ j)
  rw [hround] at hbound hlead
  rw [hspare] at hlead
  have hleast : -1074 ≤ e + k := by
    unfold unitExponent at hk
    omega
  have hrank : magnitude (m * 2 ^ (e + 2148).toNat) =
      min (unitRank (roundedShift m k) (e + k)) topRank := by
    have hdiff : k + j - 1074 = (e + k + 1074).toNat := by omega
    rw [hj]
    unfold magnitude unitRank
    rw [hround, hspare, hdiff]
  rw [hrank]
  unfold roundWithAccuracy
  rw [shiftToTargetExponent_eq]
  dsimp only
  rw [(Represents.shiftRight m _).roundedMantissa, hk, shiftToTargetExponent_eq]
  apply ranked_second_shift s hbound hleast
  . by_cases h1074 : e + k = -1074
    . exact .inl h1074
    . exact .inr (hlead (by omega))
  . apply mantissa_shiftRight

theorem ranked_round (s : Sign) {m : Nat} {e : Int} (hm : 0 < m) (he : -2148 ≤ e)
    : Ranked (UnpackedFloat.round Format.binary64 s m e)
        (s.apply (magnitude (m * 2 ^ (e + 2148).toNat) : Nat)) := by
  -- a number that is not rounded keeps its value when its exponent decreases
  have htarget : Format.binary64.targetExponent (totalExponent m e) = unitExponent m e := by
    rfl
  obtain ⟨j, hj⟩ : ∃ j : Nat, (e - unitExponent m e).toNat = j := ⟨_, rfl⟩
  have hexponent : unitExponent (m * 2 ^ j) (e - j) = unitExponent m e := by
    unfold unitExponent
    rw [log2_mul_two_pow hm]
    push_cast
    congr 1
    omega
  have hleast : -1074 ≤ unitExponent m e := by
    unfold unitExponent
    omega
  have hscale : m * 2 ^ (e + 2148).toNat = m * 2 ^ j * 2 ^ (e - j + 2148).toNat := by
    rw [Nat.mul_assoc, ← Nat.pow_add]
    congr 2
    omega
  unfold UnpackedFloat.round decreaseExponent
  simp only [htarget, hj, Nat.shiftLeft_eq]
  rw [hscale]
  apply ranked_roundWithAccuracy
  . exact Nat.mul_pos hm (Nat.two_pow_pos j)
  . omega
  . rw [hexponent]
    omega

end Galley.Binary64
