import Galley.Encoding.Utf8

/-!
This module shows that reading the UTF-8 bytes of a text gives the text back.
-/

namespace Galley.Encoding

/--
The bytes of a text in UTF-8.
-/
def utf8 (text : String) : List UInt8 := text.toByteArray.data.toList

theorem utf8_eq_flatMap (text : String)
    : utf8 text = text.toList.flatMap String.utf8EncodeChar := by
  unfold utf8
  rw [← String.utf8Encode_toList]
  unfold List.utf8Encode
  rw [List.toList_data_toByteArray]

namespace Utf8

theorem lead_one (b : UInt8) (h : b.toNat < 0x80) : lead b = .char (Char.ofNat b.toNat) := by
  have hlt : b < 0x80 := UInt8.lt_iff_toNat_lt.mpr h
  unfold lead
  rw [if_pos hlt]

theorem lead_two (b : UInt8) (hlow : 0xC2 ≤ b.toNat) (hhigh : b.toNat < 0xE0)
    : lead b = .sequence ⟨b.toNat - 0xC0, 1, 0x80, 0xBF⟩ := by
  unfold lead
  simp only [UInt8.lt_iff_toNat_lt, UInt8.reduceToNat]
  rw [if_neg (by omega), if_neg (by omega), if_pos hhigh]

theorem lead_three (b : UInt8) (hlow : 0xE0 ≤ b.toNat) (hhigh : b.toNat < 0xF0)
    : lead b
        =
      .sequence
        ⟨b.toNat - 0xE0, 2, if b = 0xE0 then 0xA0 else 0x80, if b = 0xED then 0x9F else 0xBF⟩ := by
  unfold lead
  simp only [UInt8.lt_iff_toNat_lt, UInt8.reduceToNat]
  rw [if_neg (by omega), if_neg (by omega), if_neg (by omega)]
  by_cases hfirst : b = 0xE0
  . subst hfirst
    rfl
  . rw [if_neg hfirst, if_neg hfirst]
    by_cases hsurrogate : b = 0xED
    . subst hsurrogate
      rfl
    . rw [if_neg hsurrogate, if_neg hsurrogate, if_pos hhigh]

theorem lead_four (b : UInt8) (hlow : 0xF0 ≤ b.toNat) (hhigh : b.toNat < 0xF5)
    : lead b
        =
      .sequence
        ⟨b.toNat - 0xF0, 3, if b = 0xF0 then 0x90 else 0x80, if b = 0xF4 then 0x8F else 0xBF⟩ := by
  unfold lead
  have hne : b ≠ 0xE0 ∧ b ≠ 0xED := by
    constructor
    all_goals
      intro heq
      subst heq
      simp at hlow
  simp only [UInt8.lt_iff_toNat_lt, UInt8.reduceToNat]
  rw [if_neg (by omega), if_neg (by omega), if_neg (by omega), if_neg hne.1, if_neg hne.2,
    if_neg (by omega)]
  by_cases hfirst : b = 0xF0
  . subst hfirst
    rfl
  . rw [if_neg hfirst, if_neg hfirst]
    by_cases hlast : b = 0xF4
    . subst hlast
      rfl
    . have hlt : b.toNat < 0xF4 := by
        have hval : b.toNat ≠ 0xF4 := fun heq => hlast (UInt8.toNat_inj.mp heq)
        omega
      rw [if_neg hlast, if_neg hlast, if_pos hlt]

theorem step_lead (b : UInt8) (p : Partial) (h : lead b = .sequence p)
    : step none b = ([], some p) := by
  unfold step start
  rw [h]

theorem step_more (p : Partial) (b : UInt8) (hmissing : 1 < p.missing) (hlow : p.low ≤ b)
    (hhigh : b ≤ p.high)
    : step (some p) b
        =
      ([], some ⟨p.bits * 64 + (b.toNat - 0x80), p.missing - 1, 0x80, 0xBF⟩) := by
  unfold step
  dsimp only
  rw [if_pos ⟨hlow, hhigh⟩, if_neg (Nat.not_le.mpr hmissing)]

theorem step_last (p : Partial) (b : UInt8) (hmissing : p.missing ≤ 1) (hlow : p.low ≤ b)
    (hhigh : b ≤ p.high)
    : step (some p) b = ([Char.ofNat (p.bits * 64 + (b.toNat - 0x80))], none) := by
  unfold step
  dsimp only
  rw [if_pos ⟨hlow, hhigh⟩, if_pos hmissing]

theorem go_cons (state : Option Partial) (b : UInt8) (rest : List UInt8)
    : decodeLossy.go state (b :: rest)
        =
      (step state b).1 ++ decodeLossy.go (step state b).2 rest := by
  rw [decodeLossy.go]

theorem char_bounds (c : Char) : c.toNat < 0xD800 ∨ (0xDFFF < c.toNat ∧ c.toNat < 0x110000) :=
  c.valid

theorem go_one (c : Char) (rest : List UInt8) (h : c.toNat ≤ 0x7F)
    : decodeLossy.go none (UInt8.ofNat c.toNat :: rest) = c :: decodeLossy.go none rest := by
  have hval : (UInt8.ofNat c.toNat).toNat = c.toNat := by
    rw [UInt8.toNat_ofNat']
    omega
  rw [go_cons]
  unfold step start
  rw [lead_one _ (by omega)]
  dsimp only
  rw [hval, Char.ofNat_toNat]
  rfl

theorem toNat_mark (mark bits : Nat) (h : mark + bits < 256)
    : (UInt8.ofNat (bits + mark)).toNat = bits + mark := by
  rw [UInt8.toNat_ofNat']
  omega

theorem tail_bounds (bits : Nat) (h : bits < 0x40)
    : (0x80 : UInt8) ≤ UInt8.ofNat (bits + 0x80) ∧ UInt8.ofNat (bits + 0x80) ≤ (0xBF : UInt8) := by
  have hval := toNat_mark 0x80 bits (by omega)
  constructor
  . rw [UInt8.le_iff_toNat_le, hval]
    exact Nat.le_add_left _ _
  . rw [UInt8.le_iff_toNat_le, hval]
    exact Nat.le_of_lt_succ (Nat.add_lt_add_right h 0x80)

-- the second byte has a narrower range where an overlong form, a surrogate or a number above
-- U+10FFFF would be spelled
theorem second_ge {first second start low : UInt8}
    (hlow : first.toNat = start.toNat → low.toNat ≤ second.toNat) (htail : 0x80 ≤ second)
    : (if first = start then low else 0x80) ≤ second := by
  split
  . next heq =>
    rw [UInt8.le_iff_toNat_le]
    exact hlow (congrArg UInt8.toNat heq)
  . exact htail

theorem second_le {first second stop high : UInt8}
    (hhigh : first.toNat = stop.toNat → second.toNat ≤ high.toNat) (htail : second ≤ 0xBF)
    : second ≤ if first = stop then high else 0xBF := by
  split
  . next heq =>
    rw [UInt8.le_iff_toNat_le]
    exact hhigh (congrArg UInt8.toNat heq)
  . exact htail

theorem go_two (c : Char) (rest : List UInt8) (hlow : 0x7F < c.toNat) (hhigh : c.toNat ≤ 0x7FF)
    : decodeLossy.go none
          (UInt8.ofNat (c.toNat / 64 % 0x20 + 0xC0)
            :: UInt8.ofNat (c.toNat % 0x40 + 0x80)
            :: rest)
        =
      c :: decodeLossy.go none rest := by
  have hfirst := toNat_mark 0xC0 (c.toNat / 64 % 0x20) (by omega)
  have hsecond := toNat_mark 0x80 (c.toNat % 0x40) (by omega)
  have htail := tail_bounds (c.toNat % 0x40) (by omega)
  have hbits
      : (c.toNat / 64 % 0x20 + 0xC0 - 0xC0) * 64 + (c.toNat % 0x40 + 0x80 - 0x80) = c.toNat := by
    omega
  rw [go_cons, step_lead _ _ (lead_two _ (by omega) (by omega))]
  rw [go_cons, step_last _ _ (Nat.le_refl 1) htail.1 htail.2]
  rw [hfirst, hsecond]
  dsimp only
  rw [hbits, Char.ofNat_toNat]
  rfl

theorem go_three (c : Char) (rest : List UInt8) (hlow : 0x7FF < c.toNat) (hhigh : c.toNat ≤ 0xFFFF)
    : decodeLossy.go none
          (UInt8.ofNat (c.toNat / 4096 % 0x10 + 0xE0)
            :: UInt8.ofNat (c.toNat / 64 % 0x40 + 0x80)
            :: UInt8.ofNat (c.toNat % 0x40 + 0x80)
            :: rest)
        =
      c :: decodeLossy.go none rest := by
  have hvalid := char_bounds c
  have hfirst := toNat_mark 0xE0 (c.toNat / 4096 % 0x10) (by omega)
  have hsecond := toNat_mark 0x80 (c.toNat / 64 % 0x40) (by omega)
  have hthird := toNat_mark 0x80 (c.toNat % 0x40) (by omega)
  have hmiddle := tail_bounds (c.toNat / 64 % 0x40) (by omega)
  have htail := tail_bounds (c.toNat % 0x40) (by omega)
  have hbits
      : ((c.toNat / 4096 % 0x10 + 0xE0 - 0xE0) * 64 + (c.toNat / 64 % 0x40 + 0x80 - 0x80)) * 64
            + (c.toNat % 0x40 + 0x80 - 0x80)
          =
        c.toNat := by
    omega
  rw [go_cons, step_lead _ _ (lead_three _ (by omega) (by omega))]
  rw [go_cons, step_more]
  . rw [go_cons, step_last _ _ (Nat.le_refl 1) htail.1 htail.2]
    rw [hfirst, hsecond, hthird]
    dsimp only
    rw [hbits, Char.ofNat_toNat]
    rfl
  . exact Nat.lt_succ_self 1
  -- an overlong form would have been spelled with two bytes
  . apply second_ge _ hmiddle.1
    rw [hfirst, hsecond]
    simp only [UInt8.reduceToNat]
    omega
  -- a surrogate is not a character
  . apply second_le _ hmiddle.2
    rw [hfirst, hsecond]
    simp only [UInt8.reduceToNat]
    omega

theorem go_four (c : Char) (rest : List UInt8) (hlow : 0xFFFF < c.toNat)
    : decodeLossy.go none
          (UInt8.ofNat (c.toNat / 262144 % 0x08 + 0xF0)
            :: UInt8.ofNat (c.toNat / 4096 % 0x40 + 0x80)
            :: UInt8.ofNat (c.toNat / 64 % 0x40 + 0x80)
            :: UInt8.ofNat (c.toNat % 0x40 + 0x80)
            :: rest)
        =
      c :: decodeLossy.go none rest := by
  have hvalid := char_bounds c
  have hfirst := toNat_mark 0xF0 (c.toNat / 262144 % 0x08) (by omega)
  have hsecond := toNat_mark 0x80 (c.toNat / 4096 % 0x40) (by omega)
  have hthird := toNat_mark 0x80 (c.toNat / 64 % 0x40) (by omega)
  have hfourth := toNat_mark 0x80 (c.toNat % 0x40) (by omega)
  have hleft := tail_bounds (c.toNat / 4096 % 0x40) (by omega)
  have hright := tail_bounds (c.toNat / 64 % 0x40) (by omega)
  have htail := tail_bounds (c.toNat % 0x40) (by omega)
  have hbits
      : (((c.toNat / 262144 % 0x08 + 0xF0 - 0xF0) * 64
            + (c.toNat / 4096 % 0x40 + 0x80 - 0x80)) * 64
            + (c.toNat / 64 % 0x40 + 0x80 - 0x80)) * 64
            + (c.toNat % 0x40 + 0x80 - 0x80)
          =
        c.toNat := by
    omega
  rw [go_cons, step_lead _ _ (lead_four _ (by omega) (by omega))]
  rw [go_cons, step_more]
  . rw [go_cons, step_more _ _ (Nat.lt_succ_self 1) hright.1 hright.2]
    rw [go_cons, step_last _ _ (Nat.le_refl 1) htail.1 htail.2]
    rw [hfirst, hsecond, hthird, hfourth]
    dsimp only
    rw [hbits, Char.ofNat_toNat]
    rfl
  . exact Nat.lt_add_of_pos_left (Nat.succ_pos 1)
  -- an overlong form would have been spelled with three bytes
  . apply second_ge _ hleft.1
    rw [hfirst, hsecond]
    simp only [UInt8.reduceToNat]
    omega
  -- no character lies above U+10FFFF
  . apply second_le _ hleft.2
    rw [hfirst, hsecond]
    simp only [UInt8.reduceToNat]
    omega

theorem go_utf8EncodeChar (c : Char) (rest : List UInt8)
    : decodeLossy.go none (String.utf8EncodeChar c ++ rest) = c :: decodeLossy.go none rest := by
  unfold String.utf8EncodeChar
  dsimp only
  split
  . next hone => exact go_one c rest hone
  . next hone =>
    split
    . next htwo => exact go_two c rest (Nat.lt_of_not_le hone) htwo
    . next htwo =>
      split
      . next hthree => exact go_three c rest (Nat.lt_of_not_le htwo) hthree
      . next hthree => exact go_four c rest (Nat.lt_of_not_le hthree)

theorem go_flatMap (cs : List Char)
    : decodeLossy.go none (cs.flatMap String.utf8EncodeChar) = cs := by
  induction cs with
  | nil => rfl
  | cons c cs ih =>
    rw [List.flatMap_cons]
    rw [go_utf8EncodeChar]
    rw [ih]

end Utf8

theorem lossyText_utf8 (text : String) : lossyText (utf8 text) = text := by
  unfold lossyText Utf8.decodeLossy
  rw [utf8_eq_flatMap]
  rw [Utf8.go_flatMap]
  exact String.ofList_toList

end Galley.Encoding
