import Mathlib.Computability.Language
import Mathlib.Data.List.TakeWhile
import Mathlib.Data.Nat.Digits.Defs
import Galley.Decimal.Numeral
import Galley.Proofs.Content.Scanning
import Galley.Proofs.Encoding.Lossy

/-!
This module contains the reading of a number: it takes the longest bytes that have the form of one,
and these alone decide whether it is an integer, a real number or no number at all.
-/

namespace Galley.Content

open Computability

/-!
The form of numbers.
-/

def digit : Language UInt8 := {w | ∃ b, isDigit b = true ∧ w = [b]}

/-- An optional sign, digits, and an optional point with digits behind it. -/
def numberForm : Language UInt8 :=
  (1 + {[0x2B], [0x2D]}) * digit∗ * (1 + {[0x2E]} * digit∗)

/-- The longest word of a language that some bytes begin with. -/
structure IsLongestPrefix (L : Language UInt8) (w bytes : List UInt8) : Prop where
  mem : w ∈ L
  begins : w <+: bytes
  longest : ∀ v ∈ L, v <+: bytes → v.length ≤ w.length

theorem IsLongestPrefix.unique {L : Language UInt8} {v w bytes : List UInt8}
    (hv : IsLongestPrefix L v bytes) (hw : IsLongestPrefix L w bytes) : v = w := by
  have hle := hw.longest v hv.mem hv.begins
  have hge := hv.longest w hw.mem hw.begins
  exact (List.prefix_of_prefix_length_le hv.begins hw.begins hle).eq_of_length_le hge

theorem mem_digits_iff (w : List UInt8) : w ∈ digit∗ ↔ ∀ c ∈ w, isDigit c = true := by
  rw [Language.mem_kstar]
  constructor
  . rintro ⟨parts, rfl, hparts⟩ c hc
    obtain ⟨part, hpart, hmem⟩ := List.mem_flatten.mp hc
    obtain ⟨b, hb, rfl⟩ := hparts part hpart
    rw [List.mem_singleton.mp hmem]
    exact hb
  . intro hw
    refine ⟨w.map fun c => [c], ?_, ?_⟩
    . simp [← List.flatMap_def]
    . intro part hpart
      obtain ⟨c, hc, rfl⟩ := List.mem_map.mp hpart
      exact ⟨c, hw c hc, rfl⟩

theorem ne_of_isDigit {b : UInt8} (h : isDigit b = true) : b ≠ 0x2B ∧ b ≠ 0x2D ∧ b ≠ 0x2E := by
  rw [isDigit_iff] at h
  simp only [ne_eq, ← UInt8.toNat_inj, UInt8.reduceToNat]
  omega

theorem not_isDigit_point (rest : List UInt8)
    : ∀ b ∈ (0x2E :: rest).head?, isDigit b = false := by
  intro b hb
  cases hb
  rfl

namespace Numeral

structure WellFormed (n : Numeral) : Prop where
  sign : ∀ s ∈ n.sign, s = 0x2B ∨ s = 0x2D
  whole : ∀ c ∈ n.whole, isDigit c = true
  fraction : ∀ digits ∈ n.fraction, ∀ c ∈ digits, isDigit c = true

theorem mem_numberForm_iff (w : List UInt8)
    : w ∈ numberForm ↔ ∃ n : Numeral, n.WellFormed ∧ n.bytes = w := by
  simp only [numberForm, Language.mem_mul, Language.mem_add, Language.mem_one, mem_digits_iff]
  constructor
  . rintro ⟨front, ⟨sign, hsign, whole, hwhole, rfl⟩, tail, htail, rfl⟩
    obtain ⟨sign?, hsign?, rfl⟩ : ∃ s : Option UInt8,
        (∀ b ∈ s, b = 0x2B ∨ b = 0x2D) ∧ sign = s.toList := by
      rcases hsign with rfl | rfl | rfl
      . exact ⟨none, by simp, rfl⟩
      . exact ⟨some 0x2B, by simp, rfl⟩
      . exact ⟨some 0x2D, by simp, rfl⟩
    rcases htail with rfl | ⟨point, rfl, digits, hdigits, rfl⟩
    . exact ⟨⟨sign?, whole, none⟩, ⟨hsign?, hwhole, by simp⟩, rfl⟩
    . exact ⟨⟨sign?, whole, some digits⟩, ⟨hsign?, hwhole, by simpa using hdigits⟩, rfl⟩
  . rintro ⟨⟨sign, whole, fraction⟩, ⟨hsign, hwhole, hfraction⟩, rfl⟩
    refine ⟨_, ⟨sign.toList, ?_, whole, hwhole, rfl⟩, _, ?_, rfl⟩
    . cases sign with
      | none => exact .inl rfl
      | some s =>
        rcases hsign s rfl with rfl | rfl
        . exact .inr (.inl rfl)
        . exact .inr (.inr rfl)
    . cases fraction with
      | none => exact .inl rfl
      | some digits => exact .inr ⟨[0x2E], rfl, digits, hfraction digits rfl, rfl⟩

/-!
A number takes the longest bytes of that form.
-/

/-- The bytes behind the sign. -/
def unsigned (n : Numeral) : List UInt8 := n.whole ++ (n.fraction.map (0x2E :: ·)).getD []

theorem bytes_eq (n : Numeral) : n.bytes = n.sign.toList ++ n.unsigned := by
  unfold bytes unsigned
  apply List.append_assoc

theorem unsigned_whole (sign : Option UInt8) (whole : List UInt8)
    : (⟨sign, whole, none⟩ : Numeral).unsigned = whole := by
  apply List.append_nil

theorem unsigned_point (sign : Option UInt8) (whole digits : List UInt8)
    : (⟨sign, whole, some digits⟩ : Numeral).unsigned = whole ++ 0x2E :: digits := by
  rfl

theorem scanUnsigned_cases (sign : Option UInt8) (bytes : List UInt8)
    : (∃ rest, bytes.dropWhile isDigit = 0x2E :: rest ∧
        scanUnsigned sign bytes
          =
        (⟨sign, bytes.takeWhile isDigit, some (rest.takeWhile isDigit)⟩, rest.dropWhile isDigit)) ∨
      ((bytes.dropWhile isDigit).head? ≠ some 0x2E ∧
        scanUnsigned sign bytes
          =
        (⟨sign, bytes.takeWhile isDigit, none⟩, bytes.dropWhile isDigit)) := by
  unfold scanUnsigned
  cases hdrop : bytes.dropWhile isDigit with
  | nil => exact .inr ⟨by simp, rfl⟩
  | cons b rest =>
    by_cases hpoint : b = 0x2E
    . exact .inl ⟨rest, by rw [hpoint], if_pos hpoint⟩
    . exact .inr ⟨by simpa using hpoint, if_neg hpoint⟩

section Unsigned

variable (sign : Option UInt8) (bytes : List UInt8)

theorem sign_scanUnsigned : (scanUnsigned sign bytes).1.sign = sign := by
  obtain ⟨rest, _, hscan⟩ | ⟨_, hscan⟩ := scanUnsigned_cases sign bytes
  . rw [hscan]
  . rw [hscan]

theorem unsigned_scanUnsigned
    : (scanUnsigned sign bytes).1.unsigned ++ (scanUnsigned sign bytes).2 = bytes := by
  have hsplit := List.takeWhile_append_dropWhile (p := isDigit) (l := bytes)
  obtain ⟨rest, hdrop, hscan⟩ | ⟨_, hscan⟩ := scanUnsigned_cases sign bytes
  . rw [hscan, unsigned, Option.map_some, Option.getD_some, List.append_assoc, List.cons_append,
      List.takeWhile_append_dropWhile, ← hdrop, hsplit]
  . rw [hscan, unsigned, Option.map_none, Option.getD_none, List.append_nil, hsplit]

theorem wellFormed_scanUnsigned (hsign : ∀ s ∈ sign, s = 0x2B ∨ s = 0x2D)
    : (scanUnsigned sign bytes).1.WellFormed := by
  have hdigits : ∀ l : List UInt8, ∀ c ∈ l.takeWhile isDigit, isDigit c = true := fun _ =>
    List.all_eq_true.mp List.all_takeWhile
  obtain ⟨rest, _, hscan⟩ | ⟨_, hscan⟩ := scanUnsigned_cases sign bytes
  . rw [hscan]
    exact ⟨hsign, hdigits bytes, by simpa using hdigits rest⟩
  . rw [hscan]
    exact ⟨hsign, hdigits bytes, by simp⟩

theorem whole_scanUnsigned : (scanUnsigned sign bytes).1.whole = bytes.takeWhile isDigit := by
  obtain ⟨rest, _, hscan⟩ | ⟨_, hscan⟩ := scanUnsigned_cases sign bytes
  . rw [hscan]
  . rw [hscan]

variable {bytes} in
/-- Whatever else of the form the bytes begin with is a part of what is taken. -/
theorem unsigned_prefix_scanUnsigned {n : Numeral} (hn : n.WellFormed)
    (h : n.unsigned <+: bytes) : n.unsigned <+: (scanUnsigned sign bytes).1.unsigned := by
  obtain ⟨more, rfl⟩ := h
  obtain ⟨_, hwhole, hfraction⟩ := hn
  obtain ⟨_, whole, fraction⟩ := n
  cases fraction with
  | none =>
    rw [unsigned_whole, unsigned, whole_scanUnsigned, List.takeWhile_append_of_pos hwhole,
      List.append_assoc]
    apply List.prefix_append
  | some digits =>
    have hpoint := not_isDigit_point (digits ++ more)
    have hscan
        : (scanUnsigned sign (whole ++ 0x2E :: (digits ++ more))).1
            =
          ⟨sign, whole, some (digits ++ more.takeWhile isDigit)⟩ := by
      unfold scanUnsigned
      rw [takeWhile_stop hwhole hpoint, dropWhile_stop hwhole hpoint]
      dsimp only
      rw [if_pos rfl, List.takeWhile_append_of_pos (hfraction digits rfl)]
    rw [unsigned_point, List.append_assoc, List.cons_append, hscan, unsigned_point,
      ← List.cons_append, ← List.append_assoc]
    apply List.prefix_append

end Unsigned

/-- A sign that stands in front belongs to the number. -/
theorem exists_scan_eq (bytes : List UInt8)
    : ∃ sign tail, (∀ s ∈ sign, s = 0x2B ∨ s = 0x2D) ∧
        (sign = none → ∀ b ∈ tail.head?, b ≠ 0x2B ∧ b ≠ 0x2D) ∧
          bytes = sign.toList ++ tail ∧ scan bytes = scanUnsigned sign tail := by
  cases bytes with
  | nil => exact ⟨none, [], by simp, by simp, rfl, rfl⟩
  | cons b rest =>
    by_cases hsign : b = 0x2B ∨ b = 0x2D
    . exact ⟨some b, rest, by simpa using hsign, by simp, rfl, if_pos hsign⟩
    . exact ⟨none, b :: rest, by simp, by simpa using hsign, rfl, if_neg hsign⟩

theorem ne_sign_of_mem_head_unsigned {n : Numeral} (hn : n.WellFormed)
    : ∀ b ∈ n.unsigned.head?, b ≠ 0x2B ∧ b ≠ 0x2D := by
  obtain ⟨_, hwhole, _⟩ := hn
  obtain ⟨_, whole, fraction⟩ := n
  intro b hb
  cases whole with
  | cons c whole =>
    obtain rfl : c = b := Option.some_inj.mp hb
    obtain ⟨hplus, hminus, _⟩ := ne_of_isDigit (hwhole c List.mem_cons_self)
    exact ⟨hplus, hminus⟩
  | nil =>
    cases fraction with
    | none => cases hb
    | some digits =>
      obtain rfl : 0x2E = b := Option.some_inj.mp hb
      decide

theorem bytes_scan (bytes : List UInt8) : (scan bytes).1.bytes ++ (scan bytes).2 = bytes := by
  obtain ⟨sign, tail, _, _, hbytes, hscan⟩ := exists_scan_eq bytes
  rw [hscan, bytes_eq, sign_scanUnsigned, List.append_assoc, unsigned_scanUnsigned, hbytes]

theorem wellFormed_scan (bytes : List UInt8) : (scan bytes).1.WellFormed := by
  obtain ⟨sign, tail, hsign, _, _, hscan⟩ := exists_scan_eq bytes
  rw [hscan]
  exact wellFormed_scanUnsigned sign tail hsign

theorem bytes_prefix_scan {n : Numeral} {bytes : List UInt8} (hn : n.WellFormed)
    (h : n.bytes <+: bytes) : n.bytes <+: (scan bytes).1.bytes := by
  obtain ⟨sign, tail, hsign, htail, rfl, hscan⟩ := exists_scan_eq bytes
  have hhead := ne_sign_of_mem_head_unsigned hn
  rw [hscan, bytes_eq, bytes_eq, sign_scanUnsigned]
  rw [bytes_eq] at h
  cases hn' : n.sign with
  | none =>
    rw [hn', Option.toList_none, List.nil_append] at h
    rw [Option.toList_none, List.nil_append]
    cases sign with
    | none => exact unsigned_prefix_scanUnsigned none hn h
    | some s =>
      -- without a sign nothing of the form is there in front of one
      cases hunsigned : n.unsigned with
      | nil => apply List.nil_prefix
      | cons b rest =>
        rw [hunsigned] at h hhead
        obtain rfl : b = s := (List.cons_prefix_cons.mp h).1
        obtain ⟨hplus, hminus⟩ := hhead b rfl
        rcases hsign b rfl with h | h
        . exact absurd h hplus
        . exact absurd h hminus
  | some s =>
    rw [hn', Option.toList_some, List.singleton_append] at h
    cases sign with
    | none =>
      rw [Option.toList_none, List.nil_append] at h
      obtain ⟨more, rfl⟩ := h
      obtain ⟨hplus, hminus⟩ := htail rfl s rfl
      rcases hn.sign s hn' with h | h
      . exact absurd h hplus
      . exact absurd h hminus
    | some s' =>
      obtain ⟨rfl, hunsigned⟩ := List.cons_prefix_cons.mp h
      exact (List.prefix_append_right_inj [s]).mpr (unsigned_prefix_scanUnsigned _ hn hunsigned)

theorem isLongestPrefix_scan (bytes : List UInt8)
    : IsLongestPrefix numberForm (scan bytes).1.bytes bytes where
  mem := (mem_numberForm_iff _).mpr ⟨_, wellFormed_scan bytes, rfl⟩
  begins := ⟨_, bytes_scan bytes⟩
  longest := by
    intro v hv hprefix
    obtain ⟨n, hn, rfl⟩ := (mem_numberForm_iff v).mp hv
    exact (bytes_prefix_scan hn hprefix).length_le

end Numeral

/-!
What the bytes of a number stand for.
-/

/-- The number that the digits among these bytes spell. -/
def digitsNumber (w : List UInt8) : Nat :=
  Nat.ofDigits 10 ((w.filter isDigit).reverse.map fun c => c.toNat - 0x30)

/-- The integer that a sign and digits spell. -/
def spelledInt (w : List UInt8) : Int :=
  if w.head? = some 0x2D then -(digitsNumber w : Int) else digitsNumber w

/-- The value that a sign and digits with a point among them spell. -/
def spelledReal {α : Type} [Scalar α] (w : List UInt8) : α :=
  let places := (w.dropWhile (· != 0x2E)).tail.length
  let size : α := OfScientific.ofScientific (digitsNumber w) true places
  if w.head? = some 0x2D then -size else size

/-- The character of the same code. -/
def asChar (c : UInt8) : Char := Char.ofNat c.toNat

/-- Bytes as characters of the same codes. -/
def asText (w : List UInt8) : String := String.ofList (w.map asChar)

theorem toNat_asChar (c : UInt8) : (asChar c).toNat = c.toNat := by
  have hc := c.toNat_lt
  exact Encoding.Utf8.toNat_ofNat (.inl (by omega))

theorem isDigit_comp_asChar : Char.isDigit ∘ asChar = isDigit := by
  funext c
  rw [Function.comp_apply, Bool.eq_iff_iff, Char.isDigit_iff_toNat, toNat_asChar, isDigit_iff]
  rfl

theorem takeWhile_map_asChar (w : List UInt8)
    : (w.map asChar).takeWhile Char.isDigit = (w.takeWhile isDigit).map asChar := by
  rw [List.takeWhile_map, isDigit_comp_asChar]

theorem dropWhile_map_asChar (w : List UInt8)
    : (w.map asChar).dropWhile Char.isDigit = (w.dropWhile isDigit).map asChar := by
  rw [List.dropWhile_map, isDigit_comp_asChar]

theorem digitsValue_eq_ofDigits (digits : List UInt8)
    : digitsValue digits = Nat.ofDigits 10 (digits.reverse.map fun c => c.toNat - 0x30) := by
  induction digits using List.reverseRecOn with
  | nil => rfl
  | append_singleton digits c ih =>
    rw [List.reverse_concat, List.map_cons, Nat.ofDigits_cons, ← ih]
    unfold digitsValue
    rw [List.foldl_concat, Nat.mul_comm, Nat.add_comm]

namespace Numeral

variable {n : Numeral}

theorem filter_isDigit_bytes (hn : n.WellFormed)
    : n.bytes.filter isDigit = n.whole ++ n.fraction.getD [] := by
  obtain ⟨hsign, hwhole, hfraction⟩ := hn
  obtain ⟨sign, whole, fraction⟩ := n
  have hnone : sign.toList.filter isDigit = [] := by
    rw [List.filter_eq_nil_iff]
    intro s hs
    rcases hsign s (Option.mem_toList.mp hs) with rfl | rfl
    . decide
    . decide
  have hall : whole.filter isDigit = whole := List.filter_eq_self.mpr hwhole
  rw [bytes, List.filter_append, List.filter_append, hnone, hall, List.nil_append]
  congr 1
  cases fraction with
  | none => rfl
  | some digits => exact List.filter_eq_self.mpr (hfraction digits rfl)

theorem point_not_mem_front (hn : n.WellFormed) : 0x2E ∉ n.sign.toList ++ n.whole := by
  rw [List.mem_append, not_or]
  constructor
  . intro hpoint
    have hpoint' := hn.sign _ (Option.mem_toList.mp hpoint)
    contradiction
  . intro hpoint
    have hdigit := hn.whole _ hpoint
    contradiction

theorem point_mem_bytes_iff (hn : n.WellFormed) : 0x2E ∈ n.bytes ↔ n.fraction.isSome = true := by
  have hfront := point_not_mem_front hn
  unfold bytes
  rw [List.mem_append]
  cases n.fraction with
  | none => simpa using hfront
  | some digits => simp

theorem head?_bytes_eq_minus_iff (hn : n.WellFormed)
    : n.bytes.head? = some 0x2D ↔ n.isNegative = true := by
  have hhead := ne_sign_of_mem_head_unsigned hn
  rw [bytes_eq]
  unfold isNegative
  cases n.sign with
  | none =>
    rw [Option.toList_none, List.nil_append]
    apply iff_of_false
    . intro hminus
      exact (hhead _ hminus).2 rfl
    . decide
  | some s => simp

theorem length_places (hn : n.WellFormed) {digits : List UInt8} (h : n.fraction = some digits)
    : (n.bytes.dropWhile (· != 0x2E)).tail.length = digits.length := by
  have hfront : ∀ c ∈ n.sign.toList ++ n.whole, (c != 0x2E) = true := by
    intro c hc
    rw [bne_iff_ne]
    rintro rfl
    exact point_not_mem_front hn hc
  have hdrop : n.bytes.dropWhile (· != 0x2E) = 0x2E :: digits := by
    unfold bytes
    rw [h]
    exact dropWhile_stop hfront (by simp)
  rw [hdrop, List.tail_cons]

theorem exists_digit_iff (hn : n.WellFormed)
    : (∃ c ∈ n.bytes, isDigit c = true) ↔ ¬(n.whole = [] ∧ n.fraction.getD [] = []) := by
  rw [← List.append_eq_nil_iff, ← filter_isDigit_bytes hn, List.filter_eq_nil_iff]
  simp

theorem operand_point {α : Type} [Scalar α] (hn : n.WellFormed) {digits : List UInt8}
    (h : n.fraction = some digits)
    : n.operand (α := α)
        =
      .ok (.real (if ∃ c ∈ n.bytes, isDigit c = true then spelledReal n.bytes else 0.0)) := by
  have hdigits := exists_digit_iff hn
  rw [h, Option.getD_some] at hdigits
  have hsize : digitsNumber n.bytes = digitsValue (n.whole ++ digits) := by
    rw [digitsValue_eq_ofDigits, digitsNumber, filter_isDigit_bytes hn, h]
    rfl
  unfold operand real spelledReal
  simp only [h, hdigits, hsize, length_places hn h, head?_bytes_eq_minus_iff hn]
  by_cases hnone : n.whole = [] ∧ digits = []
  . rw [if_pos hnone, if_neg (not_not_intro hnone)]
  . rw [if_neg hnone, if_pos hnone]

theorem operand_whole {α : Type} [Scalar α] (hn : n.WellFormed) (h : n.fraction = none)
    : n.operand (α := α)
        =
      if (∃ c ∈ n.bytes, isDigit c = true) ∧ Int64.minValue.toInt ≤ spelledInt n.bytes ∧
          spelledInt n.bytes ≤ Int64.maxValue.toInt then .ok (.int (spelledInt n.bytes))
      else .error (.invalidInteger (asText n.bytes)) := by
  have hdigits := exists_digit_iff hn
  have hvalue
      : spelledInt n.bytes
          =
        if n.isNegative then -(digitsValue n.whole : Int) else digitsValue n.whole := by
    unfold spelledInt
    simp only [head?_bytes_eq_minus_iff hn]
    rw [digitsValue_eq_ofDigits, digitsNumber, filter_isDigit_bytes hn, h, Option.getD_none,
      List.append_nil]
  have hint
      : n.int?
          =
        if n.whole = [] ∨ spelledInt n.bytes < Int64.minValue.toInt ∨
            Int64.maxValue.toInt < spelledInt n.bytes then none
        else some (spelledInt n.bytes) := by
    rw [hvalue]
    rfl
  have hfits
      : (∃ c ∈ n.bytes, isDigit c = true) ∧ Int64.minValue.toInt ≤ spelledInt n.bytes ∧
            spelledInt n.bytes ≤ Int64.maxValue.toInt
          ↔
        ¬(n.whole = [] ∨ spelledInt n.bytes < Int64.minValue.toInt ∨
            Int64.maxValue.toInt < spelledInt n.bytes) := by
    rw [hdigits, h, Option.getD_none, eq_self, and_true, not_or, not_or, Int.not_lt, Int.not_lt]
  unfold operand
  simp only [h, hint, hfits]
  by_cases hbad : n.whole = [] ∨ spelledInt n.bytes < Int64.minValue.toInt ∨
      Int64.maxValue.toInt < spelledInt n.bytes
  . simp only [if_pos hbad, if_neg (not_not_intro hbad)]
    rfl
  . simp only [if_neg hbad, if_pos hbad]

/-!
A number with a point can be read from its characters.
-/

theorem isSome_unsigned? {whole digits : List UInt8} (hwhole : ∀ c ∈ whole, isDigit c = true)
    (hdigits : ∀ c ∈ digits, isDigit c = true) (hne : ¬(whole = [] ∧ digits = []))
    : (Decimal.unsigned? ((whole ++ 0x2E :: digits).map asChar)).isSome = true := by
  have hpoint := not_isDigit_point digits
  have hdrop
      : ((whole ++ 0x2E :: digits).map asChar).dropWhile Char.isDigit
          =
        '.' :: digits.map asChar := by
    rw [dropWhile_map_asChar, dropWhile_stop hwhole hpoint]
    rfl
  have hall : digits.takeWhile isDigit = digits := List.takeWhile_eq_self_iff.mpr hdigits
  have hnone : digits.dropWhile isDigit = [] := List.dropWhile_eq_nil_iff.mpr hdigits
  unfold Decimal.unsigned?
  simp only [hdrop, takeWhile_map_asChar, takeWhile_stop hwhole hpoint, dropWhile_map_asChar, hall,
    hnone]
  rw [if_neg]
  . rfl
  . simpa using hne

theorem splitSign_bytes (hn : n.WellFormed)
    : Decimal.splitSign (n.bytes.map asChar) = (n.isNegative, n.unsigned.map asChar) := by
  have hhead := ne_sign_of_mem_head_unsigned hn
  rw [bytes_eq]
  cases hsign : n.sign with
  | some s =>
    rcases hn.sign s hsign with rfl | rfl
    . rw [isNegative, hsign]
      rfl
    . rw [isNegative, hsign]
      rfl
  | none =>
    rw [isNegative, hsign, Option.toList_none, List.nil_append]
    have hchar : ∀ a ∈ (n.unsigned.map asChar).head?, a ≠ '+' ∧ a ≠ '-' := by
      intro a ha
      rw [List.head?_map, Option.mem_map] at ha
      obtain ⟨b, hb, rfl⟩ := ha
      obtain ⟨hplus, hminus⟩ := hhead b hb
      rw [ne_eq, ← UInt8.toNat_inj] at hplus hminus
      rw [ne_eq, ne_eq, ← Char.toNat_inj, ← Char.toNat_inj, toNat_asChar]
      exact ⟨hplus, hminus⟩
    unfold Decimal.splitSign
    split
    next heq => exact absurd rfl (hchar _ (by rw [heq]; rfl)).2
    next heq => exact absurd rfl (hchar _ (by rw [heq]; rfl)).1
    next => rfl

theorem isSome_floatOfText? (hn : n.WellFormed) {digits : List UInt8}
    (h : n.fraction = some digits) (hdigits : ∃ c ∈ n.bytes, isDigit c = true)
    : (Decimal.floatOfText? (asText n.bytes)).isSome = true := by
  have hne := (exists_digit_iff hn).mp hdigits
  rw [h, Option.getD_some] at hne
  have hunsigned : n.unsigned = n.whole ++ 0x2E :: digits := by
    rw [unsigned, h]
    rfl
  have hchars : (asText n.bytes).toList = n.bytes.map asChar := String.toList_ofList
  unfold Decimal.floatOfText?
  rw [hchars, splitSign_bytes hn]
  dsimp only
  rw [Option.isSome_map]
  split
  . rfl
  . rfl
  . rfl
  . rw [Option.isSome_map, hunsigned]
    exact isSome_unsigned? hn.whole (hn.fraction digits h) hne

end Numeral

variable {α : Type} [Scalar α]

theorem numbers_read_exactly {content : List UInt8} {pos : Nat} {b : UInt8} {rest : List UInt8}
    (hpos : content.drop pos = b :: rest) (hb : beginsNumber b = true)
    : ∃ w, IsLongestPrefix numberForm w (content.drop pos) ∧
        let after := content.drop (pos + w.length)
        let read : Except Halt (Lexeme α × List UInt8) := scanLexeme b rest
        (0x2E ∈ w →
          ∃ v, read = .ok (.atom (.real v), after) ∧
            if ∃ c ∈ w, isDigit c = true then
              v = spelledReal w ∧ (Decimal.floatOfText? (asText w)).isSome = true
            else v = 0.0) ∧
        (0x2E ∉ w →
          if (∃ c ∈ w, isDigit c = true) ∧ Int64.minValue.toInt ≤ spelledInt w ∧
              spelledInt w ≤ Int64.maxValue.toInt then
            read = .ok (.atom (.int (spelledInt w)), after)
          else read = .error ⟨.invalidInteger (asText w), after.length⟩) := by
  have hwell := Numeral.wellFormed_scan (b :: rest)
  have hlongest := Numeral.isLongestPrefix_scan (b :: rest)
  have hbytes := Numeral.bytes_scan (b :: rest)
  have hscan := scanLexeme_of_beginsNumber (α := α) hb rest
  generalize Numeral.scan (b :: rest) = scanned at hwell hlongest hbytes hscan
  obtain ⟨n, after⟩ := scanned
  have hafter : content.drop (pos + n.bytes.length) = after := by
    rw [← List.drop_drop, hpos, ← hbytes, List.drop_left]
  refine ⟨n.bytes, hpos ▸ hlongest, ?_⟩
  dsimp only at hscan ⊢
  rw [hafter, hscan]
  constructor
  . intro hpoint
    rw [Numeral.point_mem_bytes_iff hwell, Option.isSome_iff_exists] at hpoint
    obtain ⟨digits, hfraction⟩ := hpoint
    rw [Numeral.operand_point hwell hfraction]
    refine ⟨_, rfl, ?_⟩
    split
    next hdigits => exact ⟨rfl, Numeral.isSome_floatOfText? hwell hfraction hdigits⟩
    next => rfl
  . intro hpoint
    rw [Numeral.point_mem_bytes_iff hwell, Option.not_isSome_iff_eq_none] at hpoint
    rw [Numeral.operand_whole hwell hpoint]
    split
    next => rfl
    next => rfl

/-- The bytes of `1 -12.5.7 Td`. -/
def secondPoint : List UInt8 :=
  [0x31, 0x20, 0x2D, 0x31, 0x32, 0x2E, 0x35, 0x2E, 0x37, 0x20, 0x54, 0x64]

theorem numbers_read_exactly_secondPoint
    : secondPoint.drop 2 = 0x2D :: secondPoint.drop 3 ∧ beginsNumber 0x2D = true ∧
        IsLongestPrefix numberForm [0x2D, 0x31, 0x32, 0x2E, 0x35] (secondPoint.drop 2) ∧
          scanLexeme (α := Float) 0x2D (secondPoint.drop 3)
            =
          .ok (.atom (.real (-12.5)), [0x2E, 0x37, 0x20, 0x54, 0x64]) := by
  have hpos : secondPoint.drop 2 = 0x2D :: secondPoint.drop 3 := by
    rfl
  have hbegins : beginsNumber 0x2D = true := by
    decide
  obtain ⟨w, hlongest, hpoint, _⟩ := numbers_read_exactly (α := Float) hpos hbegins
  have hscan : (Numeral.scan (secondPoint.drop 2)).1.bytes = [0x2D, 0x31, 0x32, 0x2E, 0x35] := by
    rfl
  obtain rfl : w = [0x2D, 0x31, 0x32, 0x2E, 0x35] := by
    rw [← hscan]
    exact hlongest.unique (Numeral.isLongestPrefix_scan _)
  obtain ⟨v, hread, hv⟩ := hpoint (by decide)
  rw [if_pos (by decide)] at hv
  refine ⟨hpos, hbegins, hlongest, ?_⟩
  rw [hread, hv.1]
  rfl

end Galley.Content
