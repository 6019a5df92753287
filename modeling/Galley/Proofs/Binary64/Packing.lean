import Galley.Proofs.Binary64.Rounding

/-!
This module contains the place of a double among all doubles, read off its bit pattern and off its
sign, significand and exponent.
-/

open Float.Model Float.Model.UnpackedFloat

namespace Galley.Binary64

/-- The place of a double in the order of the numbers, where both zeros share one. -/
def rank (x : Float) : Int :=
  if x.toBits.toNat < signBit then x.toBits.toNat else (signBit : Int) - x.toBits.toNat

/-- The significand and the exponent of a double that is not zero. -/
structure Canonical (m : Nat) (e : Int) : Prop where
  least_exponent : -1074 ≤ e
  bounded : m < 2 ^ 53
  leading : e = -1074 ∨ 2 ^ 52 ≤ m

/-- The rank of `m * 2 ^ e` if doubles had no largest exponent. -/
def unitRank (m : Nat) (e : Int) : Nat := (e + 1074).toNat * 2 ^ 52 + m

/-- The rank of what packing makes of a number, an exponent out of range counting as infinity. -/
inductive Ranked : UnpackedFloat → Int → Prop
  | infinity (s : Sign) : Ranked (.infinity s) (s.apply topRank)
  | zero (s : Sign) : Ranked (.zero s) 0
  | finite (s : Sign) (m : Nat) (e : Int) (hm : 0 < m) :
      Canonical m e → Ranked (.finite s m e hm) (s.apply (min (unitRank m e) topRank : Nat))

/-- What is unpacked from a bit pattern with this sign and these other bits. -/
inductive Shaped : UnpackedFloat → Sign → Nat → Prop
  | notANumber (s : Sign) (r : Nat) : topRank < r → Shaped .notANumber s r
  | infinity (s : Sign) : Shaped (.infinity s) s topRank
  | zero (s : Sign) : Shaped (.zero s) s 0
  | finite (s : Sign) (m : Nat) (e : Int) (hm : 0 < m) :
      Canonical m e → e ≤ 971 → Shaped (.finite s m e hm) s (unitRank m e)

theorem toNat_packComponents (s : Sign) (e : BitVec 11) (m : BitVec 52)
    : (packComponents Format.binary64 s e m).toNat =
        s.toBitVec.toNat * 2 ^ 63 + e.toNat * 2 ^ 52 + m.toNat := by
  have hm := m.isLt
  have he := e.isLt
  unfold packComponents
  rw [BitVec.toNat_append, BitVec.toNat_append,
    ← Nat.shiftLeft_add_eq_or_of_lt (by simpa using hm),
    ← Nat.shiftLeft_add_eq_or_of_lt (by simpa using he), Nat.shiftLeft_eq, Nat.shiftLeft_eq]
  omega

theorem toNat_unpackMantissa (b : BitVec 64)
    : (@unpackMantissa Format.binary64 b).toNat =
        b.toNat % 2 ^ 52 := by
  unfold unpackMantissa
  rw [BitVec.toNat_cast, BitVec.extractLsb_toNat]
  rfl

theorem toNat_unpackExponent (b : BitVec 64)
    : (@unpackExponent Format.binary64 b).toNat =
        b.toNat / 2 ^ 52 % 2 ^ 11 := by
  unfold unpackExponent
  rw [BitVec.toNat_cast, BitVec.extractLsb_toNat, Nat.shiftRight_eq_div_pow]
  rfl

theorem toNat_unpackSign (b : BitVec 64)
    : (@unpackSign Format.binary64 b).toNat = b.toNat / 2 ^ 63 % 2 := by
  unfold unpackSign
  rw [BitVec.toNat_cast, BitVec.extractLsb_toNat, Nat.shiftRight_eq_div_pow]
  rfl

theorem rank_pack_of_toNat {u : UnpackedFloat} {s : Sign} {r : Nat} (hr : r < 2 ^ 63)
    (h : (pack Format.binary64 u).toNat = s.toBitVec.toNat * 2 ^ 63 + r)
    : rank (.ofModel (.pack u)) = s.apply r := by
  have hbits : (Float.toBits (.ofModel (.pack u))).toNat = s.toBitVec.toNat * 2 ^ 63 + r := h
  have hnegative : Sign.negative.toBitVec.toNat = 1 := by decide
  have hpositive : Sign.positive.toBitVec.toNat = 0 := by decide
  unfold rank signBit
  rw [hbits]
  cases s with
  | negative =>
    rw [hnegative, if_neg (by omega)]
    show _ = -(r : Int)
    omega
  | positive =>
    rw [hpositive, if_pos (by omega)]
    show _ = (r : Int)
    omega

theorem topRank_lt : topRank < 2 ^ 63 := by
  unfold topRank
  omega

theorem toNat_packedInfinity (s : Sign)
    : (packedInfinity Format.binary64 s).toNat = s.toBitVec.toNat * 2 ^ 63 + topRank := by
  have hones : (-1#11).toNat = 2047 := by decide
  have hzero : (0 : BitVec 52).toNat = 0 := by decide
  unfold packedInfinity
  rw [toNat_packComponents, hones, hzero, Nat.add_zero]
  unfold topRank
  rw [Nat.add_right_inj]

theorem toNat_packedZero (s : Sign)
    : (packedZero Format.binary64 s).toNat = s.toBitVec.toNat * 2 ^ 63 + 0 := by
  have hexponent : (0 : BitVec 11).toNat = 0 := by decide
  have hmantissa : (0 : BitVec 52).toNat = 0 := by decide
  unfold packedZero
  rw [toNat_packComponents, hexponent, hmantissa, Nat.zero_mul]

theorem toNat_pack_finite (s : Sign) {m : Nat} {e : Int} (hm : 0 < m) (h : Canonical m e)
    : (pack Format.binary64 (.finite s m e hm)).toNat =
        s.toBitVec.toNat * 2 ^ 63 + min (unitRank m e) topRank := by
  obtain ⟨hleast, hbounded, hleading⟩ := h
  have hbias : (e + (Format.binary64.exponentBias : Int) +
      (Format.binary64.mantissaBitsWithoutImplicit : Int)).toNat = (e + 1075).toNat := by
    show (e + 1023 + 52).toNat = (e + 1075).toNat
    omega
  have hlog := Nat.log2_lt (Nat.ne_of_gt hm) (k := 53)
  have hlog' := Nat.log2_lt (Nat.ne_of_gt hm) (k := 52)
  have hover : 2 ^ Format.binary64.exponentBits ≤ (e + 1075).toNat + 1 ↔ 972 ≤ e := by
    show 2048 ≤ (e + 1075).toNat + 1 ↔ 972 ≤ e
    omega
  have hnormal : m.log2 + 1 = Format.binary64.mantissaBits ↔ 2 ^ 52 ≤ m := by
    show m.log2 + 1 = 53 ↔ 2 ^ 52 ≤ m
    omega
  unfold UnpackedFloat.pack
  dsimp only
  rw [hbias]
  split
  next h972 =>
    rw [hover] at h972
    rw [toNat_packedInfinity]
    unfold unitRank topRank
    omega
  next h972 =>
    rw [hover] at h972
    split
    next hlead =>
      rw [hnormal] at hlead
      rw [toNat_packComponents, BitVec.toNat_ofNat, BitVec.toNat_ofNat]
      unfold unitRank topRank
      omega
    next hlead =>
      rw [hnormal] at hlead
      rw [toNat_packComponents, BitVec.toNat_ofNat, BitVec.toNat_ofNat]
      unfold unitRank topRank
      omega

theorem rank_pack {u : UnpackedFloat} {r : Int} (h : Ranked u r)
    : rank (.ofModel (.pack u)) = r := by
  cases h with
  | infinity s => exact rank_pack_of_toNat topRank_lt (toNat_packedInfinity s)
  | zero s =>
    have hzero : (0 : Int) = s.apply (0 : Nat) := by cases s <;> rfl
    rw [hzero]
    exact rank_pack_of_toNat (by omega) (toNat_packedZero s)
  | finite s m e hm hcanonical =>
    apply rank_pack_of_toNat
    . have htop := topRank_lt
      omega
    . exact toNat_pack_finite s hm hcanonical

theorem rank_eq_apply (b : BitVec 64) (hvalid : Format.binary64.Valid b)
    : rank (.ofModel ⟨⟨b⟩, hvalid⟩) =
        (Sign.ofBitVec (@unpackSign Format.binary64 b)).apply (b.toNat % 2 ^ 63 : Nat) := by
  have hb := b.isLt
  have hs := toNat_unpackSign b
  have hbits : (Float.toBits (.ofModel ⟨⟨b⟩, hvalid⟩)).toNat = b.toNat := rfl
  have hsign : @unpackSign Format.binary64 b = 0#1 ↔ b.toNat < signBit := by
    unfold signBit
    rw [← BitVec.toNat_inj, hs, BitVec.toNat_ofNat]
    omega
  unfold rank Sign.ofBitVec
  rw [hbits]
  by_cases hlt : b.toNat < signBit
  . rw [if_pos hlt, if_pos (hsign.mpr hlt)]
    unfold signBit at hlt
    show (b.toNat : Int) = (b.toNat % 2 ^ 63 : Nat)
    omega
  . rw [if_neg hlt, if_neg fun h => hlt (hsign.mp h)]
    unfold signBit at hlt ⊢
    show _ = -((b.toNat % 2 ^ 63 : Nat) : Int)
    omega

theorem Shaped.of_eq_unitRank (s : Sign) {m : Nat} {e : Int} (hm : 0 < m) {r : Nat}
    (hr : r = unitRank m e) (h : Canonical m e) (he : e ≤ 971)
    : Shaped (.finite s m e hm) s r := by
  rw [hr]
  exact .finite s m e hm h he

theorem shaped_unpack_bits (b : BitVec 64)
    : Shaped (UnpackedFloat.unpack Format.binary64 b)
        (Sign.ofBitVec (@unpackSign Format.binary64 b)) (b.toNat % 2 ^ 63) := by
  have hm := toNat_unpackMantissa b
  have he := toNat_unpackExponent b
  have hones : @unpackExponent Format.binary64 b = -1#11 ↔ b.toNat / 2 ^ 52 % 2 ^ 11 = 2047 := by
    rw [← BitVec.toNat_inj, he]
    exact Iff.rfl
  have hleast : @unpackExponent Format.binary64 b = 0#11 ↔ b.toNat / 2 ^ 52 % 2 ^ 11 = 0 := by
    rw [← BitVec.toNat_inj, he, BitVec.toNat_ofNat]
    exact Iff.rfl
  have hblank : @unpackMantissa Format.binary64 b = 0#52 ↔ b.toNat % 2 ^ 52 = 0 := by
    rw [← BitVec.toNat_inj, hm, BitVec.toNat_ofNat]
    exact Iff.rfl
  have hlead : (1#1 ++ @unpackMantissa Format.binary64 b).toNat = 2 ^ 52 + b.toNat % 2 ^ 52 := by
    rw [BitVec.toNat_append, hm, ← Nat.shiftLeft_add_eq_or_of_lt]
    . rfl
    . exact Nat.mod_lt _ (Nat.two_pow_pos 52)
  have hbias : (Format.binary64.exponentBias : Int) = 1023 := rfl
  unfold UnpackedFloat.unpack
  dsimp only
  by_cases hexponent : b.toNat / 2 ^ 52 % 2 ^ 11 = 2047
  . rw [if_pos (hones.mpr hexponent)]
    by_cases hmantissa : b.toNat % 2 ^ 52 = 0
    . have hr : b.toNat % 2 ^ 63 = topRank := by
        unfold topRank
        omega
      rw [if_pos (hblank.mpr hmantissa), hr]
      apply Shaped.infinity
    . rw [if_neg fun h => hmantissa (hblank.mp h)]
      apply Shaped.notANumber
      unfold topRank
      omega
  . rw [if_neg fun h => hexponent (hones.mp h)]
    by_cases hsubnormal : b.toNat / 2 ^ 52 % 2 ^ 11 = 0
    . rw [if_pos (hleast.mpr hsubnormal)]
      by_cases hmantissa : b.toNat % 2 ^ 52 = 0
      . have hr : b.toNat % 2 ^ 63 = 0 := by omega
        rw [dif_pos (hblank.mpr hmantissa), hr]
        apply Shaped.zero
      . rw [dif_neg fun h => hmantissa (hblank.mp h)]
        apply Shaped.of_eq_unitRank
        . rw [hm, he, hbias]
          unfold unitRank
          omega
        . rw [hm, he, hbias]
          exact ⟨by omega, by omega, .inl (by omega)⟩
        . rw [he, hbias]
          omega
    . rw [if_neg fun h => hsubnormal (hleast.mp h)]
      apply Shaped.of_eq_unitRank
      . rw [hlead, he, hbias]
        unfold unitRank
        omega
      . rw [hlead, he, hbias]
        exact ⟨by omega, by omega, .inr (by omega)⟩
      . rw [he, hbias]
        omega

theorem exists_shaped_unpack (x : Float)
    : ∃ s r, Shaped x.toModel.unpack s r ∧ rank x = s.apply r := by
  obtain ⟨⟨⟨b⟩, hvalid⟩⟩ := x
  exact ⟨_, _, shaped_unpack_bits b, rank_eq_apply b hvalid⟩

end Galley.Binary64
