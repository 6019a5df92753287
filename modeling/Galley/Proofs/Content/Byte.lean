import Galley.Proofs.Content.Spelling

/-!
This module relates the classes of bytes to each other, by their numbers.
-/

namespace Galley.Content

theorem isBlank_iff (b : UInt8)
    : isBlank b = true
        ↔
      b.toNat = 0x20 ∨ b.toNat = 0x09 ∨ b.toNat = 0x0D ∨ b.toNat = 0x0A ∨ b.toNat = 0x0C ∨
        b.toNat = 0x00 := by
  unfold isBlank
  simp only [Bool.or_eq_true, beq_iff_eq, ← UInt8.toNat_inj, UInt8.reduceToNat, or_assoc]

theorem isDelimiter_iff (b : UInt8)
    : isDelimiter b = true
        ↔
      b.toNat = 0x28 ∨ b.toNat = 0x29 ∨ b.toNat = 0x3C ∨ b.toNat = 0x3E ∨ b.toNat = 0x5B ∨
        b.toNat = 0x5D ∨ b.toNat = 0x7B ∨ b.toNat = 0x7D ∨ b.toNat = 0x2F ∨ b.toNat = 0x25 := by
  unfold isDelimiter
  simp only [Bool.or_eq_true, beq_iff_eq, ← UInt8.toNat_inj, UInt8.reduceToNat, or_assoc]

theorem isRegular_iff (b : UInt8)
    : isRegular b = true ↔ ¬isBlank b = true ∧ ¬isDelimiter b = true := by
  unfold isRegular
  rw [Bool.and_eq_true, Bool.not_eq_true', Bool.not_eq_true', Bool.not_eq_true, Bool.not_eq_true]

theorem isDigit_iff (b : UInt8) : isDigit b = true ↔ 0x30 ≤ b.toNat ∧ b.toNat ≤ 0x39 := by
  unfold isDigit
  simp only [Bool.and_eq_true, decide_eq_true_eq, UInt8.le_iff_toNat_le, UInt8.reduceToNat]

theorem beginsWord_iff (b : UInt8)
    : beginsWord b = true
        ↔
      (0x41 ≤ b.toNat ∧ b.toNat ≤ 0x5A) ∨ (0x61 ≤ b.toNat ∧ b.toNat ≤ 0x7A) ∨ b.toNat = 0x2A ∨
        b.toNat = 0x27 ∨ b.toNat = 0x22 := by
  unfold beginsWord isLetter
  simp only [Bool.or_eq_true, Bool.and_eq_true, decide_eq_true_eq, beq_iff_eq, or_assoc,
    UInt8.le_iff_toNat_le, ← UInt8.toNat_inj, UInt8.reduceToNat]

theorem beginsNumber_iff (b : UInt8)
    : beginsNumber b = true
        ↔
      (0x30 ≤ b.toNat ∧ b.toNat ≤ 0x39) ∨ b.toNat = 0x2B ∨ b.toNat = 0x2D ∨ b.toNat = 0x2E := by
  unfold beginsNumber
  simp only [Bool.or_eq_true, isDigit_iff, beq_iff_eq, or_assoc, ← UInt8.toNat_inj,
    UInt8.reduceToNat]

theorem not_beginsLexeme_of_isBlank {b : UInt8} (rest : List UInt8) (h : isBlank b = true)
    : beginsLexeme b rest = false := by
  rw [isBlank_iff] at h
  rw [← Bool.not_eq_true]
  unfold beginsLexeme
  simp only [Bool.or_eq_true, Bool.and_eq_true, beq_iff_eq, ← UInt8.toNat_inj, UInt8.reduceToNat,
    beginsWord_iff, beginsNumber_iff]
  omega

theorem isRegular_of_isDigit {b : UInt8} (h : isDigit b = true) : isRegular b = true := by
  rw [isDigit_iff] at h
  rw [isRegular_iff, isBlank_iff, isDelimiter_iff]
  omega

theorem toNat_decimalDigit (digit : Fin 10) : (decimalDigit digit).toNat = 0x30 + digit.val := by
  unfold decimalDigit
  rw [UInt8.toNat_ofNat']
  omega

theorem toNat_octalDigit (digit : Fin 8) : (octalDigit digit).toNat = 0x30 + digit.val := by
  unfold octalDigit
  rw [UInt8.toNat_ofNat']
  omega

theorem isDigit_decimalDigit (digit : Fin 10) : isDigit (decimalDigit digit) = true := by
  rw [isDigit_iff, toNat_decimalDigit]
  omega

theorem isOctalDigit_octalDigit (digit : Fin 8)
    : LiteralMove.isOctalDigit (octalDigit digit) = true := by
  unfold LiteralMove.isOctalDigit
  simp only [Bool.and_eq_true, decide_eq_true_eq, UInt8.le_iff_toNat_le, toNat_octalDigit,
    UInt8.reduceToNat]
  omega

theorem toNat_hexDigit (capital : Bool) (value : Fin 16)
    : (hexDigit capital value).toNat
        =
      if value.val < 10 then 0x30 + value.val
      else if capital then 0x41 + (value.val - 10)
      else 0x61 + (value.val - 10) := by
  unfold hexDigit
  split
  . rw [UInt8.toNat_ofNat']
    omega
  . split
    . rw [UInt8.toNat_ofNat']
      omega
    . rw [UInt8.toNat_ofNat']
      omega

theorem isRegular_hexDigit (capital : Bool) (value : Fin 16)
    : isRegular (hexDigit capital value) = true := by
  have hval := toNat_hexDigit capital value
  rw [isRegular_iff, isBlank_iff, isDelimiter_iff]
  split at hval
  . omega
  . split at hval
    . omega
    . omega

theorem sub_eq_ofNat {b base : UInt8} {n : Nat} (h : b.toNat = base.toNat + n)
    : b - base = UInt8.ofNat n := by
  have hb := b.toNat_lt
  have hle : base ≤ b := by
    rw [UInt8.le_iff_toNat_le, h]
    exact Nat.le_add_right _ _
  rw [← UInt8.toNat_inj, UInt8.toNat_sub_of_le _ _ hle, UInt8.toNat_ofNat', h]
  omega

theorem hexValue?_hexDigit (capital : Bool) (value : Fin 16)
    : hexValue? (hexDigit capital value) = some (UInt8.ofNat value.val) := by
  have hval := toNat_hexDigit capital value
  unfold hexValue?
  simp only [isDigit_iff, UInt8.le_iff_toNat_le, UInt8.reduceToNat]
  split at hval
  . rw [if_pos (by omega), sub_eq_ofNat hval]
  . next hletter =>
    have hten : UInt8.ofNat (value.val - 10) + 10 = UInt8.ofNat value.val := by
      have hsum : value.val - 10 + 10 = value.val := by omega
      rw [← hsum, UInt8.ofNat_add, hsum]
      rfl
    split at hval
    . rw [if_neg (by omega), if_neg (by omega), if_pos (by omega), sub_eq_ofNat hval, hten]
    . rw [if_neg (by omega), if_pos (by omega), sub_eq_ofNat hval, hten]

theorem nibbles (b : UInt8)
    : UInt8.ofNat (highNibble b).val * 16 + UInt8.ofNat (lowNibble b).val = b := by
  have hb := b.toNat_lt
  rw [← UInt8.toNat_inj, UInt8.toNat_add, UInt8.toNat_mul, UInt8.toNat_ofNat', UInt8.toNat_ofNat']
  unfold highNibble lowNibble
  simp only [UInt8.reduceToNat]
  omega

end Galley.Content
