import Galley.Proofs.Encoding.Utf8

/-!
This module shows which bytes can be told apart by the text that they spell: bytes are valid if no
replacement stands in their text, and two valid pieces never spell the same text.
-/

namespace Galley.Encoding

/-- The bytes are valid in UTF-8. -/
def IsUtf8 (bytes : List UInt8) : Prop := ∃ text, utf8 text = bytes

namespace Utf8

/-!
The bytes of a character that bytes were put together to.
-/

theorem toNat_ofNat {n : Nat} (h : n.isValidChar) : (Char.ofNat n).toNat = n := by
  unfold Char.ofNat
  rw [dif_pos h]
  rfl

theorem ofNat_eq {b : UInt8} {n : Nat} (h : n = b.toNat) : UInt8.ofNat n = b := by
  rw [h]
  exact UInt8.ofNat_toNat

theorem utf8EncodeChar_one {b : UInt8} (h : b.toNat < 0x80)
    : String.utf8EncodeChar (Char.ofNat b.toNat) = [b] := by
  have hval := toNat_ofNat (n := b.toNat) (by unfold Nat.isValidChar; omega)
  unfold String.utf8EncodeChar
  dsimp only
  rw [← Char.toNat, hval, if_pos (by omega), UInt8.ofNat_toNat]

theorem utf8EncodeChar_two {b c : UInt8} (hb : 0xC2 ≤ b.toNat ∧ b.toNat < 0xE0)
    (hc : 0x80 ≤ c.toNat ∧ c.toNat ≤ 0xBF)
    : String.utf8EncodeChar (Char.ofNat ((b.toNat - 0xC0) * 64 + (c.toNat - 0x80))) = [b, c] := by
  have hval := toNat_ofNat (n := (b.toNat - 0xC0) * 64 + (c.toNat - 0x80))
    (by unfold Nat.isValidChar; omega)
  unfold String.utf8EncodeChar
  dsimp only
  rw [← Char.toNat, hval, if_neg (by omega), if_pos (by omega)]
  rw [ofNat_eq (b := b) (by omega), ofNat_eq (b := c) (by omega)]

theorem utf8EncodeChar_three {b c d : UInt8} (hb : 0xE0 ≤ b.toNat ∧ b.toNat < 0xF0)
    (hc : 0x80 ≤ c.toNat ∧ c.toNat ≤ 0xBF) (hd : 0x80 ≤ d.toNat ∧ d.toNat ≤ 0xBF)
    (hfirst : b.toNat = 0xE0 → 0xA0 ≤ c.toNat) (hsurrogate : b.toNat = 0xED → c.toNat ≤ 0x9F)
    : String.utf8EncodeChar
          (Char.ofNat (((b.toNat - 0xE0) * 64 + (c.toNat - 0x80)) * 64 + (d.toNat - 0x80)))
        =
      [b, c, d] := by
  have hval := toNat_ofNat
    (n := ((b.toNat - 0xE0) * 64 + (c.toNat - 0x80)) * 64 + (d.toNat - 0x80))
    (by unfold Nat.isValidChar; omega)
  unfold String.utf8EncodeChar
  dsimp only
  rw [← Char.toNat, hval, if_neg (by omega), if_neg (by omega), if_pos (by omega)]
  rw [ofNat_eq (b := b) (by omega), ofNat_eq (b := c) (by omega), ofNat_eq (b := d) (by omega)]

theorem utf8EncodeChar_four {b c d e : UInt8} (hb : 0xF0 ≤ b.toNat ∧ b.toNat < 0xF5)
    (hc : 0x80 ≤ c.toNat ∧ c.toNat ≤ 0xBF) (hd : 0x80 ≤ d.toNat ∧ d.toNat ≤ 0xBF)
    (he : 0x80 ≤ e.toNat ∧ e.toNat ≤ 0xBF) (hfirst : b.toNat = 0xF0 → 0x90 ≤ c.toNat)
    (hlast : b.toNat = 0xF4 → c.toNat ≤ 0x8F)
    : String.utf8EncodeChar
          (Char.ofNat
            ((((b.toNat - 0xF0) * 64 + (c.toNat - 0x80)) * 64 + (d.toNat - 0x80)) * 64
              + (e.toNat - 0x80)))
        =
      [b, c, d, e] := by
  have hval := toNat_ofNat
    (n := (((b.toNat - 0xF0) * 64 + (c.toNat - 0x80)) * 64 + (d.toNat - 0x80)) * 64
      + (e.toNat - 0x80))
    (by unfold Nat.isValidChar; omega)
  unfold String.utf8EncodeChar
  dsimp only
  rw [← Char.toNat, hval, if_neg (by omega), if_neg (by omega), if_neg (by omega)]
  rw [ofNat_eq (b := b) (by omega), ofNat_eq (b := c) (by omega), ofNat_eq (b := d) (by omega),
    ofNat_eq (b := e) (by omega)]

/-!
The bytes of a sequence that is not abandoned.
-/

theorem lead_invalid_of_lt (b : UInt8) (hlow : 0x80 ≤ b.toNat) (hhigh : b.toNat < 0xC2)
    : lead b = .invalid := by
  unfold lead
  simp only [UInt8.lt_iff_toNat_lt, UInt8.reduceToNat]
  rw [if_neg (by omega), if_pos hhigh]

theorem lead_invalid_of_ge (b : UInt8) (h : 0xF5 ≤ b.toNat) : lead b = .invalid := by
  have hne : b ≠ 0xE0 ∧ b ≠ 0xED ∧ b ≠ 0xF0 ∧ b ≠ 0xF4 := by
    refine ⟨?_, ?_, ?_, ?_⟩
    all_goals
      intro heq
      subst heq
      simp at h
  unfold lead
  simp only [UInt8.lt_iff_toNat_lt, UInt8.reduceToNat, hne, if_false]
  rw [if_neg (by omega), if_neg (by omega), if_neg (by omega), if_neg (by omega),
    if_neg (by omega)]

/-- A sequence that is not abandoned goes on with a byte in the range of its next byte. -/
theorem exists_cons_of_go_some {p : Partial} {bytes : List UInt8}
    (h : replacement ∉ decodeLossy.go (some p) bytes)
    : ∃ b rest, bytes = b :: rest ∧ p.low ≤ b ∧ b ≤ p.high := by
  cases bytes with
  | nil => simp [decodeLossy.go] at h
  | cons b rest =>
    refine ⟨b, rest, rfl, ?_⟩
    by_cases hrange : p.low ≤ b ∧ b ≤ p.high
    . exact hrange
    . simp [go_cons, step, hrange] at h

theorem exists_cons_of_tail {bits missing : Nat} {bytes : List UInt8}
    (h : replacement ∉ decodeLossy.go (some ⟨bits, missing, 0x80, 0xBF⟩) bytes)
    : ∃ b rest, bytes = b :: rest ∧ 0x80 ≤ b.toNat ∧ b.toNat ≤ 0xBF := by
  rcases exists_cons_of_go_some h with ⟨b, rest, hbytes, hlow, hhigh⟩
  exact ⟨b, rest, hbytes, UInt8.le_iff_toNat_le.mp hlow, UInt8.le_iff_toNat_le.mp hhigh⟩

theorem of_second_ge {first second start low : UInt8} (hlow : 0x80 ≤ low.toNat)
    (h : (if first = start then low else 0x80) ≤ second)
    : 0x80 ≤ second.toNat ∧ (first.toNat = start.toNat → low.toNat ≤ second.toNat) := by
  rw [UInt8.le_iff_toNat_le] at h
  split at h
  . exact ⟨Nat.le_trans hlow h, fun _ => h⟩
  . next hne =>
    exact ⟨h, fun heq => absurd (UInt8.toNat_inj.mp heq) hne⟩

theorem of_second_le {first second stop high : UInt8} (hhigh : high.toNat ≤ 0xBF)
    (h : second ≤ if first = stop then high else 0xBF)
    : second.toNat ≤ 0xBF ∧ (first.toNat = stop.toNat → second.toNat ≤ high.toNat) := by
  rw [UInt8.le_iff_toNat_le] at h
  split at h
  . exact ⟨Nat.le_trans h hhigh, fun _ => h⟩
  . next hne =>
    exact ⟨h, fun heq => absurd (UInt8.toNat_inj.mp heq) hne⟩

theorem replacement_notMem_of_sequence {b : UInt8} {p : Partial} {rest : List UInt8}
    (hlead : lead b = .sequence p) (h : replacement ∉ decodeLossy.go none (b :: rest))
    : replacement ∉ decodeLossy.go (some p) rest := by
  rwa [go_cons, step_lead _ _ hlead] at h

theorem replacement_notMem_of_more {p : Partial} {b : UInt8} {rest : List UInt8}
    (hmissing : 1 < p.missing) (hlow : p.low ≤ b) (hhigh : b ≤ p.high)
    (h : replacement ∉ decodeLossy.go (some p) (b :: rest))
    : replacement ∉
        decodeLossy.go (some ⟨p.bits * 64 + (b.toNat - 0x80), p.missing - 1, 0x80, 0xBF⟩) rest := by
  rwa [go_cons, step_more _ _ hmissing hlow hhigh] at h

theorem exists_append_of_two {b : UInt8} {rest : List UInt8}
    (hb : 0xC2 ≤ b.toNat ∧ b.toNat < 0xE0) (h : replacement ∉ decodeLossy.go none (b :: rest))
    : ∃ c tail, b :: rest = String.utf8EncodeChar c ++ tail := by
  have h := replacement_notMem_of_sequence (lead_two b hb.1 hb.2) h
  rcases exists_cons_of_tail h with ⟨c, rest, rfl, hc⟩
  have hchar := utf8EncodeChar_two hb hc
  exact ⟨_, rest, (congrArg (· ++ rest) hchar).symm⟩

theorem exists_append_of_three {b : UInt8} {rest : List UInt8}
    (hb : 0xE0 ≤ b.toNat ∧ b.toNat < 0xF0) (h : replacement ∉ decodeLossy.go none (b :: rest))
    : ∃ c tail, b :: rest = String.utf8EncodeChar c ++ tail := by
  have h := replacement_notMem_of_sequence (lead_three b hb.1 hb.2) h
  rcases exists_cons_of_go_some h with ⟨c, rest, rfl, hlow, hhigh⟩
  have h := replacement_notMem_of_more (Nat.lt_succ_self 1) hlow hhigh h
  rcases exists_cons_of_tail h with ⟨d, rest, rfl, hd⟩
  rcases of_second_ge (by decide) hlow with ⟨hlow, hfirst⟩
  rcases of_second_le (by decide) hhigh with ⟨hhigh, hsurrogate⟩
  have hchar := utf8EncodeChar_three hb ⟨hlow, hhigh⟩ hd hfirst hsurrogate
  exact ⟨_, rest, (congrArg (· ++ rest) hchar).symm⟩

theorem exists_append_of_four {b : UInt8} {rest : List UInt8}
    (hb : 0xF0 ≤ b.toNat ∧ b.toNat < 0xF5) (h : replacement ∉ decodeLossy.go none (b :: rest))
    : ∃ c tail, b :: rest = String.utf8EncodeChar c ++ tail := by
  have h := replacement_notMem_of_sequence (lead_four b hb.1 hb.2) h
  rcases exists_cons_of_go_some h with ⟨c, rest, rfl, hlow, hhigh⟩
  have h := replacement_notMem_of_more (Nat.lt_add_of_pos_left (Nat.succ_pos 1)) hlow hhigh h
  rcases exists_cons_of_go_some h with ⟨d, rest, rfl, hd⟩
  have h := replacement_notMem_of_more (Nat.lt_succ_self 1) hd.1 hd.2 h
  rcases exists_cons_of_tail h with ⟨e, rest, rfl, he⟩
  rcases of_second_ge (by decide) hlow with ⟨hlow, hfirst⟩
  rcases of_second_le (by decide) hhigh with ⟨hhigh, hlast⟩
  rw [UInt8.le_iff_toNat_le, UInt8.le_iff_toNat_le] at hd
  have hchar := utf8EncodeChar_four hb ⟨hlow, hhigh⟩ hd he hfirst hlast
  exact ⟨_, rest, (congrArg (· ++ rest) hchar).symm⟩

/-- Bytes without a replacement begin with the bytes of a character. -/
theorem exists_utf8EncodeChar_append {b : UInt8} {rest : List UInt8}
    (h : replacement ∉ decodeLossy.go none (b :: rest))
    : ∃ c tail, b :: rest = String.utf8EncodeChar c ++ tail := by
  have hinvalid : lead b ≠ .invalid := by
    intro hlead
    simp [go_cons, step, start, hlead] at h
  by_cases hone : b.toNat < 0x80
  . exact ⟨_, rest, (congrArg (· ++ rest) (utf8EncodeChar_one hone)).symm⟩
  by_cases hgap : b.toNat < 0xC2
  . exact absurd (lead_invalid_of_lt b (by omega) hgap) hinvalid
  by_cases htwo : b.toNat < 0xE0
  . exact exists_append_of_two ⟨by omega, htwo⟩ h
  by_cases hthree : b.toNat < 0xF0
  . exact exists_append_of_three ⟨by omega, hthree⟩ h
  by_cases hfour : b.toNat < 0xF5
  . exact exists_append_of_four ⟨by omega, hfour⟩ h
  . exact absurd (lead_invalid_of_ge b (by omega)) hinvalid

theorem exists_flatMap_of_go (bytes : List UInt8) (h : replacement ∉ decodeLossy.go none bytes)
    : ∃ chars : List Char, chars.flatMap String.utf8EncodeChar = bytes := by
  cases bytes with
  | nil => exact ⟨[], rfl⟩
  | cons b rest =>
    rcases exists_utf8EncodeChar_append h with ⟨c, tail, hbytes⟩
    rw [hbytes, go_utf8EncodeChar, List.mem_cons, not_or] at h
    have hlength : tail.length < (b :: rest).length := by
      have := List.length_pos_iff.mpr (String.utf8EncodeChar_ne_nil (c := c))
      rw [hbytes, List.length_append]
      omega
    rcases exists_flatMap_of_go tail h.2 with ⟨chars, hchars⟩
    exact ⟨c :: chars, by rw [List.flatMap_cons, hchars, hbytes]⟩
termination_by bytes.length

end Utf8

theorem isUtf8_of_replacement_notMem {bytes : List UInt8}
    (h : replacement ∉ (lossyText bytes).toList)
    : IsUtf8 bytes := by
  unfold lossyText Utf8.decodeLossy at h
  rw [String.toList_ofList] at h
  rcases Utf8.exists_flatMap_of_go bytes h with ⟨chars, hchars⟩
  refine ⟨String.ofList chars, ?_⟩
  rw [utf8_eq_flatMap, String.toList_ofList]
  exact hchars

theorem eq_of_isUtf8 {s t : List UInt8} (hs : IsUtf8 s) (ht : IsUtf8 t)
    (h : lossyText s = lossyText t)
    : s = t := by
  rcases hs with ⟨left, rfl⟩
  rcases ht with ⟨right, rfl⟩
  rw [lossyText_utf8, lossyText_utf8] at h
  rw [h]

/-- Only malformed bytes whose text holds a replacement may spell the text of other bytes. -/
theorem lossyText_ne {s t : List UInt8} (hne : s ≠ t)
    (h : (IsUtf8 s ∧ IsUtf8 t) ∨ replacement ∉ (lossyText s).toList ∨
      replacement ∉ (lossyText t).toList)
    : lossyText s ≠ lossyText t := by
  intro heq
  rcases h with ⟨hs, ht⟩ | h | h
  . exact hne (eq_of_isUtf8 hs ht heq)
  . have ht := isUtf8_of_replacement_notMem (heq ▸ h)
    exact hne (eq_of_isUtf8 (isUtf8_of_replacement_notMem h) ht heq)
  . have hs := isUtf8_of_replacement_notMem (heq ▸ h)
    exact hne (eq_of_isUtf8 hs (isUtf8_of_replacement_notMem h) heq)

end Galley.Encoding
