import Galley.Proofs.Content.Byte

/-!
This module shows that the scanner reads a spelled lexeme as the lexeme that was spelled, and leaves
the bytes behind it.
-/

namespace Galley.Content

open Encoding

/--
The bytes neither continue a word nor a number.
-/
def Ends (rest : List UInt8) : Prop := ∀ b ∈ rest.head?, isRegular b = false

theorem Ends.of_trivia {gap : List UInt8} (rest : List UInt8) (hgap : Trivia gap) (hne : gap ≠ [])
    : Ends (gap ++ rest) := by
  unfold Ends
  cases hgap with
  | nil => contradiction
  | @blank b gap hblank hrest =>
    intro c hc
    cases hc
    unfold isRegular
    rw [hblank]
    rfl
  | comment htext heol hrest =>
    intro c hc
    cases hc
    decide

theorem Ends.of_trail {trail : List UInt8} (htrail : Trivia trail) : Ends trail := by
  by_cases hne : trail = []
  . subst hne
    intro b hb
    cases hb
  . have hends := Ends.of_trivia [] htrail hne
    rw [List.append_nil] at hends
    exact hends

theorem takeWhile_stop {p : UInt8 → Bool} {word rest : List UInt8} (hword : ∀ c ∈ word, p c = true)
    (hrest : ∀ b ∈ rest.head?, p b = false)
    : (word ++ rest).takeWhile p = word := by
  rw [List.takeWhile_append_of_pos hword]
  cases rest with
  | nil => simp only [List.takeWhile_nil, List.append_nil]
  | cons b rest =>
    have hb := hrest b rfl
    rw [List.takeWhile_cons_of_neg (by rw [hb]; exact Bool.false_ne_true)]
    exact List.append_nil word

theorem dropWhile_stop {p : UInt8 → Bool} {word rest : List UInt8} (hword : ∀ c ∈ word, p c = true)
    (hrest : ∀ b ∈ rest.head?, p b = false)
    : (word ++ rest).dropWhile p = rest := by
  rw [List.dropWhile_append_of_pos hword]
  cases rest with
  | nil => rfl
  | cons b rest =>
    have hb := hrest b rfl
    rw [List.dropWhile_cons_of_neg (by rw [hb]; exact Bool.false_ne_true)]

/-!
The bytes between lexemes.
-/

theorem skipFiller_comment {text : List UInt8} {eol : UInt8} (rest : List UInt8)
    (htext : ∀ b ∈ text, b ≠ 0x0A ∧ b ≠ 0x0D) (heol : eol = 0x0A ∨ eol = 0x0D)
    : skipFiller true (text ++ eol :: rest) = skipFiller false rest := by
  induction text with
  | nil =>
    cases heol with
    | inl heol =>
      subst heol
      rfl
    | inr heol =>
      subst heol
      rfl
  | cons b text ih =>
    have hb := htext b List.mem_cons_self
    have hcontinue : (!(b == 0x0A || b == 0x0D)) = true := by
      rw [beq_false_of_ne hb.1, beq_false_of_ne hb.2]
      rfl
    rw [List.cons_append, skipFiller, hcontinue]
    exact ih fun c hc => htext c (List.mem_cons_of_mem b hc)

theorem skipFiller_trivia {gap : List UInt8} (rest : List UInt8) (hgap : Trivia gap)
    : skipFiller false (gap ++ rest) = skipFiller false rest := by
  induction hgap with
  | nil => rfl
  | @blank b gap hblank hrest ih =>
    have hcomment : b ≠ 0x25 := by
      intro heq
      subst heq
      exact absurd hblank (by decide)
    have hbegins := not_beginsLexeme_of_isBlank (gap ++ rest) hblank
    rw [List.cons_append, skipFiller, if_neg hcomment, hbegins]
    exact ih
  | comment htext heol hrest ih =>
    rw [List.cons_append, skipFiller, if_pos rfl, List.append_assoc, List.cons_append]
    rw [skipFiller_comment _ htext heol]
    exact ih

/-!
Names.
-/

theorem isRegular_of_spellsName {bytes spelled : List UInt8} (h : SpellsName bytes spelled)
    : ∀ b ∈ spelled, isRegular b = true := by
  induction h with
  | nil =>
    intro b hb
    cases hb
  | raw hregular hescape hrest ih => exact List.forall_mem_cons.mpr ⟨hregular, ih⟩
  | escaped high low hrest ih =>
    rw [List.forall_mem_cons, List.forall_mem_cons, List.forall_mem_cons]
    exact ⟨by decide, isRegular_hexDigit _ _, isRegular_hexDigit _ _, ih⟩

theorem unescapeName_raw {b : UInt8} (bytes : List UInt8) (hb : b ≠ 0x23)
    : unescapeName (b :: bytes) = b :: unescapeName bytes := by
  match bytes with
  | [] => rfl
  | [_] => rfl
  | h :: l :: tail =>
    rw [unescapeName, beq_false_of_ne hb]

theorem unescapeName_escaped (high low : UInt8) {h l : UInt8} (tail : List UInt8)
    (hhigh : hexValue? h = some high) (hlow : hexValue? l = some low)
    : unescapeName (0x23 :: h :: l :: tail) = (high * 16 + low) :: unescapeName tail := by
  rw [unescapeName, hhigh, hlow]
  rfl

theorem unescapeName_spelled {bytes spelled : List UInt8} (h : SpellsName bytes spelled)
    : unescapeName spelled = bytes := by
  induction h with
  | nil => rfl
  | raw hregular hescape hrest ih =>
    rw [unescapeName_raw _ hescape]
    rw [ih]
  | escaped high low hrest ih =>
    rw [unescapeName_escaped _ _ _ (hexValue?_hexDigit _ _) (hexValue?_hexDigit _ _)]
    rw [nibbles, ih]

/-!
Hexadecimal strings.
-/

theorem scanHex_blank {b : UInt8} (high : Option UInt8) (rest : List UInt8) (hb : isBlank b = true)
    : scanHex high (b :: rest) = scanHex high rest := by
  have hend : b ≠ 0x3E := by
    intro heq
    subst heq
    exact absurd hb (by decide)
  rw [scanHex.eq_def]
  dsimp only
  rw [if_neg hend, if_pos hb]

theorem scanHex_blanks {gap : List UInt8} (high : Option UInt8) (rest : List UInt8)
    (hgap : ∀ b ∈ gap, isBlank b = true)
    : scanHex high (gap ++ rest) = scanHex high rest := by
  induction gap with
  | nil => rfl
  | cons b gap ih =>
    rw [List.cons_append, scanHex_blank _ _ (hgap b List.mem_cons_self)]
    exact ih fun c hc => hgap c (List.mem_cons_of_mem b hc)

theorem scanHex_digit (capital : Bool) (value : Fin 16) (high : Option UInt8) (rest : List UInt8)
    : scanHex high (hexDigit capital value :: rest)
        =
      match high with
      | some h => (scanHex none rest).map fun (s, r) => ((h * 16 + UInt8.ofNat value.val) :: s, r)
      | none => scanHex (some (UInt8.ofNat value.val)) rest := by
  have hregular := isRegular_hexDigit capital value
  have hend : hexDigit capital value ≠ 0x3E := by
    intro heq
    rw [heq] at hregular
    exact absurd hregular (by decide)
  rw [isRegular_iff] at hregular
  rw [scanHex.eq_def]
  dsimp only
  rw [if_neg hend, if_neg hregular.1, hexValue?_hexDigit]
  cases high with
  | none => rfl
  | some h => rfl

theorem scanHex_spelled {bytes spelled : List UInt8} (rest : List UInt8)
    (h : SpellsHex bytes spelled)
    : scanHex none (spelled ++ 0x3E :: rest) = .ok (bytes, rest) := by
  induction h with
  | nil => rfl
  | blank hblank hrest ih =>
    rw [List.cons_append, scanHex_blank _ _ hblank]
    exact ih
  | byte high low hgap hrest ih =>
    rw [List.cons_append, scanHex_digit]
    dsimp only
    rw [List.append_assoc, scanHex_blanks _ _ hgap]
    rw [List.cons_append, scanHex_digit]
    dsimp only
    rw [ih, nibbles]
    rfl

theorem head_spellsHex {bytes spelled : List UInt8} (rest : List UInt8)
    (h : SpellsHex bytes spelled)
    : ∀ b ∈ (spelled ++ 0x3E :: rest).head?, b ≠ 0x3C := by
  cases h with
  | nil =>
    intro b hb
    cases hb
    decide
  | blank hblank hrest =>
    intro b hb heq
    cases hb
    subst heq
    exact absurd hblank (by decide)
  | @byte c _ _ _ high low hgap hrest =>
    intro b hb heq
    cases hb
    have hregular := isRegular_hexDigit high (highNibble c)
    rw [heq] at hregular
    exact absurd hregular (by decide)

/-!
Literal strings.
-/

theorem LiteralMove.plain_singleton (value : UInt8) (depth : Nat) (b : UInt8)
    : LiteralMove.plain [value] depth b
        =
      match LiteralMove.plain [] depth b with
      | .close bytes => .close (value :: bytes)
      | .go bytes mode depth => .go (value :: bytes) mode depth := by
  unfold LiteralMove.plain
  by_cases hopen : b = 0x28
  . rw [if_pos hopen, if_pos hopen]
    rfl
  . rw [if_neg hopen, if_neg hopen]
    by_cases hclose : b = 0x29
    . rw [if_pos hclose, if_pos hclose]
      cases depth with
      | zero => rfl
      | succ depth => rfl
    . rw [if_neg hclose, if_neg hclose]
      by_cases hescape : b = 0x5C
      . rw [if_pos hescape, if_pos hescape]
      . rw [if_neg hescape, if_neg hescape]
        rfl

theorem scanLiteral_octal_full (value depth : Nat) {rest : List UInt8} (hrest : rest ≠ [])
    : scanLiteral (.octal value 0) depth rest
        =
      (scanLiteral .plain depth rest).map fun (s, r) => (UInt8.ofNat value :: s, r) := by
  -- once its digits are complete, an octal escape only adds its byte
  cases rest with
  | nil => contradiction
  | cons b rest =>
    have hmove := LiteralMove.plain_singleton (UInt8.ofNat value) depth b
    rw [scanLiteral, scanLiteral]
    unfold LiteralMove.of
    dsimp only
    rw [hmove]
    cases LiteralMove.plain [] depth b with
    | close bytes => rfl
    | go bytes mode depth =>
      dsimp only
      cases scanLiteral mode depth rest with
      | error halt => rfl
      | ok read => rfl

theorem scanLiteral_octal_digit (value left depth : Nat) (digit : Fin 8) (rest : List UInt8)
    : scanLiteral (.octal value (left + 1)) depth (octalDigit digit :: rest)
        =
      scanLiteral (.octal (value * 8 + digit.val) left) depth rest := by
  rw [scanLiteral]
  unfold LiteralMove.of
  dsimp only
  rw [if_pos (isOctalDigit_octalDigit digit), toNat_octalDigit, Nat.add_sub_cancel_left]
  dsimp only
  cases scanLiteral (.octal (value * 8 + digit.val) left) depth rest with
  | error halt => rfl
  | ok read => rfl

theorem scanLiteral_escape {code : UInt8} {depth depth' : Nat} {bytes : List UInt8}
    {mode : LiteralMode} (rest : List UInt8)
    (hmove : LiteralMove.escape depth code = .go bytes mode depth')
    : scanLiteral .plain depth (0x5C :: code :: rest)
        =
      (scanLiteral mode depth' rest).map fun (s, r) => (bytes ++ s, r) := by
  have hplain : LiteralMove.of .plain depth 0x5C = .go [] .escape depth := rfl
  have hescape : LiteralMove.of .escape depth code = .go bytes mode depth' := hmove
  rw [scanLiteral, hplain]
  dsimp only
  rw [scanLiteral, hescape]
  dsimp only
  cases scanLiteral mode depth' rest with
  | error halt => rfl
  | ok read => rfl

theorem escape_octalDigit (depth : Nat) (digit : Fin 8)
    : LiteralMove.escape depth (octalDigit digit) = .go [] (.octal digit.val 2) depth := by
  have hne : ∀ b : UInt8, b.toNat < 0x30 ∨ 0x37 < b.toNat → octalDigit digit ≠ b := by
    intro b hb heq
    rw [← heq, toNat_octalDigit] at hb
    omega
  unfold LiteralMove.escape
  rw [if_neg (hne _ (by decide)), if_neg (hne _ (by decide)), if_neg (hne _ (by decide))]
  rw [if_neg (hne _ (by decide)), if_neg (hne _ (by decide)), if_neg (hne _ (by decide))]
  rw [if_neg (hne _ (by decide)), if_pos (isOctalDigit_octalDigit digit)]
  rw [toNat_octalDigit, Nat.add_sub_cancel_left]

theorem escape_of_mem {code b : UInt8} (depth : Nat) (h : (code, b) ∈ literalEscapes)
    : LiteralMove.escape depth code = .go [b] .plain depth := by
  unfold literalEscapes at h
  simp only [List.mem_cons, List.not_mem_nil, or_false, Prod.mk.injEq] at h
  rcases h with h | h | h | h | h | h | h | h
  all_goals
    rw [h.1, h.2]
    rfl

theorem scanLiteral_byte {b : UInt8} {spelling rest : List UInt8} (hb : SpellsByte b spelling)
    (hrest : rest ≠ [])
    : scanLiteral .plain 0 (spelling ++ rest)
        =
      (scanLiteral .plain 0 rest).map fun (s, r) => (b :: s, r) := by
  cases hb with
  | raw hb =>
    have hmove : LiteralMove.of .plain 0 b = .go [b] .plain 0 := by
      unfold LiteralMove.of LiteralMove.plain
      dsimp only
      rw [if_neg hb.1, if_neg hb.2.1, if_neg hb.2.2]
      rfl
    rw [List.singleton_append, scanLiteral, hmove]
    rfl
  | escaped hcode => exact scanLiteral_escape rest (escape_of_mem 0 hcode)
  | octal x y z =>
    have hfirst := scanLiteral_escape (octalDigit y :: octalDigit z :: rest) (escape_octalDigit 0 x)
    rw [scanLiteral_octal_digit, scanLiteral_octal_digit] at hfirst
    rw [scanLiteral_octal_full _ _ hrest] at hfirst
    rw [List.cons_append, List.cons_append, List.cons_append, List.cons_append, List.nil_append]
    rw [hfirst]
    cases scanLiteral .plain 0 rest with
    | error halt => rfl
    | ok read => rfl

theorem scanLiteral_spelled {bytes spelled : List UInt8} (rest : List UInt8)
    (h : SpellsLiteral bytes spelled)
    : scanLiteral .plain 0 (spelled ++ 0x29 :: rest) = .ok (bytes, rest) := by
  induction h with
  | nil => rfl
  | continued hrest ih =>
    rw [List.cons_append, List.cons_append, scanLiteral_escape _ rfl, ih]
    rfl
  | byte hb hrest ih =>
    rw [List.append_assoc, scanLiteral_byte hb, ih]
    . rfl
    . exact List.append_ne_nil_of_right_ne_nil _ (List.cons_ne_nil 0x29 rest)

/-!
Integers.
-/

theorem digitsValue_decimalDigit (digits : List (Fin 10))
    : digitsValue (digits.map decimalDigit) = decimalValue digits := by
  unfold digitsValue decimalValue
  rw [List.foldl_map]
  congr
  funext value digit
  rw [toNat_decimalDigit, Nat.add_sub_cancel_left]

theorem scanUnsigned_decimalDigit (sign : Option UInt8) (digits : List (Fin 10)) {rest : List UInt8}
    (hrest : Ends rest)
    : Numeral.scanUnsigned sign (digits.map decimalDigit ++ rest)
        =
      (⟨sign, digits.map decimalDigit, none⟩, rest) := by
  have hdigits : ∀ c ∈ digits.map decimalDigit, isDigit c = true := by
    intro c hc
    rcases List.mem_map.mp hc with ⟨digit, _, hdigit⟩
    rw [← hdigit]
    exact isDigit_decimalDigit digit
  have hstop : ∀ b ∈ rest.head?, isDigit b = false := by
    intro b hb
    rw [← Bool.not_eq_true]
    intro hdigit
    have hregular := hrest b hb
    rw [isRegular_of_isDigit hdigit] at hregular
    cases hregular
  unfold Numeral.scanUnsigned
  rw [takeWhile_stop hdigits hstop, dropWhile_stop hdigits hstop]
  cases rest with
  | nil => rfl
  | cons b rest =>
    have hpoint : b ≠ 0x2E := by
      intro heq
      subst heq
      exact absurd (hrest 0x2E rfl) (by decide)
    dsimp only
    rw [if_neg hpoint]

theorem scan_int (sign : Sign) {digits : List (Fin 10)} {rest : List UInt8} (hdigits : digits ≠ [])
    (hrest : Ends rest)
    : Numeral.scan (sign.byte?.toList ++ digits.map decimalDigit ++ rest)
        =
      (⟨sign.byte?, digits.map decimalDigit, none⟩, rest) := by
  cases sign with
  | absent =>
    have hscan := scanUnsigned_decimalDigit none digits hrest
    cases digits with
    | nil => contradiction
    | cons digit digits =>
      have hsign : ¬(decimalDigit digit = 0x2B ∨ decimalDigit digit = 0x2D) := by
        rw [← UInt8.toNat_inj, ← UInt8.toNat_inj, toNat_decimalDigit]
        simp only [UInt8.reduceToNat]
        omega
      unfold Numeral.scan
      rw [Sign.byte?, Option.toList_none, List.nil_append, List.map_cons, List.cons_append]
      dsimp only
      rw [if_neg hsign]
      exact hscan
  | plus => exact scanUnsigned_decimalDigit (some 0x2B) digits hrest
  | minus => exact scanUnsigned_decimalDigit (some 0x2D) digits hrest

variable {α : Type} [Scalar α]

theorem operand_int (sign : Sign) {digits : List (Fin 10)} (hdigits : digits ≠ [])
    (hlow : Int64.minValue.toInt ≤ sign.apply (decimalValue digits))
    (hhigh : sign.apply (decimalValue digits) ≤ Int64.maxValue.toInt)
    : Numeral.operand (α := α) ⟨sign.byte?, digits.map decimalDigit, none⟩
        =
      .ok (.int (sign.apply (decimalValue digits))) := by
  have hvalue
      : (Numeral.mk sign.byte? (digits.map decimalDigit) none).int?
          =
        some (sign.apply (decimalValue digits)) := by
    unfold Numeral.int?
    have happly
        : (if (Numeral.mk sign.byte? (digits.map decimalDigit) none).isNegative then
            -(decimalValue digits : Int)
          else decimalValue digits)
            =
          sign.apply (decimalValue digits) := by
      cases sign with
      | absent => rfl
      | plus => rfl
      | minus => rfl
    dsimp only
    rw [digitsValue_decimalDigit, happly]
    apply if_neg
    rw [List.map_eq_nil_iff, not_or, not_or, Int.not_lt, Int.not_lt]
    exact ⟨hdigits, hlow, hhigh⟩
  unfold Numeral.operand
  dsimp only
  rw [hvalue]

/-!
Lexemes.
-/

theorem ne_of_class {p : UInt8 → Bool} {b c : UInt8} (hb : p b = true) (hc : p c = false)
    : b ≠ c := by
  intro heq
  subst heq
  rw [hb] at hc
  cases hc

theorem scanLexeme_word {b : UInt8} (rest : List UInt8) (hb : beginsWord b = true)
    : scanLexeme (α := α) b rest
        =
      .ok (.word (lossyText (b :: rest.takeWhile isRegular)), rest.dropWhile isRegular) := by
  have hnumber : ¬beginsNumber b = true := by
    rw [beginsWord_iff] at hb
    rw [beginsNumber_iff]
    omega
  unfold scanLexeme
  rw [if_neg (ne_of_class hb rfl), if_neg (ne_of_class hb rfl), if_neg (ne_of_class hb rfl)]
  rw [if_neg (ne_of_class hb rfl), if_neg (ne_of_class hb rfl), if_neg (ne_of_class hb rfl)]
  rw [if_neg hnumber]

theorem scanLexeme_of_beginsNumber {b : UInt8} (hb : beginsNumber b = true) (rest : List UInt8)
    : scanLexeme (α := α) b rest
        =
      ((Numeral.scan (b :: rest)).1.operand.map fun o =>
        (.atom o, (Numeral.scan (b :: rest)).2)).mapError fun cause =>
          ⟨cause, (Numeral.scan (b :: rest)).2.length⟩ := by
  unfold scanLexeme
  rw [if_neg (ne_of_class hb rfl), if_neg (ne_of_class hb rfl), if_neg (ne_of_class hb rfl)]
  rw [if_neg (ne_of_class hb rfl), if_neg (ne_of_class hb rfl), if_neg (ne_of_class hb rfl)]
  rw [if_pos hb]
  dsimp only
  cases (Numeral.scan (b :: rest)).1.operand (α := α) <;> rfl

theorem scanLexeme_number {b : UInt8} {rest : List UInt8} {n : Numeral} {after : List UInt8}
    {o : Operand α} (hb : beginsNumber b = true) (hscan : Numeral.scan (b :: rest) = (n, after))
    (ho : n.operand = .ok o)
    : scanLexeme b rest = .ok (.atom o, after) := by
  rw [scanLexeme_of_beginsNumber hb, hscan, ho]
  rfl

theorem scanLexeme_name {bytes spelled rest : List UInt8} (h : SpellsName bytes spelled)
    (hrest : Ends rest)
    : scanLexeme (α := α) 0x2F (spelled ++ rest) = .ok (.atom (.name (lossyText bytes)), rest) := by
  have hregular := isRegular_of_spellsName h
  have hscan
      : scanLexeme (α := α) 0x2F (spelled ++ rest)
          =
        .ok (.atom (.name (lossyText (unescapeName ((spelled ++ rest).takeWhile isRegular)))),
          (spelled ++ rest).dropWhile isRegular) := rfl
  rw [hscan, takeWhile_stop hregular hrest, dropWhile_stop hregular hrest, unescapeName_spelled h]

theorem scanLexeme_hex {bytes spelled : List UInt8} (rest : List UInt8)
    (h : SpellsHex bytes spelled)
    : scanLexeme (α := α) 0x3C (spelled ++ 0x3E :: rest) = .ok (.atom (.hex bytes), rest) := by
  have hscan := scanHex_spelled rest h
  have hhead := head_spellsHex rest h
  unfold scanLexeme
  rw [if_neg (by decide), if_pos rfl]
  split
  . next heq =>
    rw [heq] at hhead
    exact absurd rfl (hhead 0x3C rfl)
  . rw [hscan]
    rfl

theorem scanLexeme_spelled {x : Lexeme α} {spelled rest : List UInt8} (h : Spells x spelled)
    (hrest : Ends rest)
    : ∃ b tail,
        spelled ++ rest = b :: tail ∧ b ≠ 0x25 ∧ beginsLexeme b tail = true ∧
          scanLexeme b tail = .ok (x, rest) := by
  -- a lexeme begins where its spelling begins, and is read to the end of it
  cases h with
  | int sign digits hdigits hlow hhigh =>
    have hscan := scan_int sign hdigits hrest
    have ho := operand_int (α := α) sign hdigits hlow hhigh
    have hbegins
        : ∃ b tail,
            sign.byte?.toList ++ digits.map decimalDigit ++ rest = b :: tail ∧
              beginsNumber b = true := by
      cases sign with
      | absent =>
        cases digits with
        | nil => contradiction
        | cons digit digits =>
          refine ⟨decimalDigit digit, digits.map decimalDigit ++ rest, rfl, ?_⟩
          rw [beginsNumber_iff, toNat_decimalDigit]
          omega
      | plus => exact ⟨0x2B, digits.map decimalDigit ++ rest, rfl, rfl⟩
      | minus => exact ⟨0x2D, digits.map decimalDigit ++ rest, rfl, rfl⟩
    rcases hbegins with ⟨b, tail, heq, hb⟩
    refine ⟨b, tail, heq, ne_of_class hb rfl, ?_, ?_⟩
    . unfold beginsLexeme
      rw [hb, Bool.or_true]
      rfl
    . rw [heq] at hscan
      exact scanLexeme_number hb hscan ho
  | @name text spelled hspelled =>
    refine ⟨0x2F, spelled ++ rest, rfl, by decide, rfl, ?_⟩
    rw [scanLexeme_name hspelled hrest, lossyText_utf8]
  | @literal bytes spelled hspelled =>
    refine ⟨0x28, spelled ++ 0x29 :: rest, ?_, by decide, rfl, ?_⟩
    . rw [List.cons_append, List.append_assoc, List.singleton_append]
    . unfold scanLexeme
      rw [if_pos rfl, scanLiteral_spelled rest hspelled]
      rfl
  | @hex bytes spelled hspelled =>
    refine ⟨0x3C, spelled ++ 0x3E :: rest, ?_, by decide, rfl, ?_⟩
    . rw [List.cons_append, List.append_assoc, List.singleton_append]
    . exact scanLexeme_hex rest hspelled
  | @word text htext =>
    rcases htext with ⟨b, regular, heq, hb, hregular⟩
    refine ⟨b, regular ++ rest, ?_, ne_of_class hb rfl, ?_, ?_⟩
    . rw [heq, List.cons_append]
    . unfold beginsLexeme
      rw [hb]
      rfl
    . rw [scanLexeme_word _ hb, takeWhile_stop hregular hrest, dropWhile_stop hregular hrest]
      rw [← heq, lossyText_utf8]
  | arrayOpen => exact ⟨0x5B, rest, rfl, by decide, rfl, rfl⟩
  | arrayClose => exact ⟨0x5D, rest, rfl, by decide, rfl, rfl⟩
  | dictionaryOpen => exact ⟨0x3C, 0x3C :: rest, rfl, by decide, rfl, rfl⟩
  | dictionaryClose => exact ⟨0x3E, 0x3E :: rest, rfl, by decide, rfl, rfl⟩

theorem nextLexeme_spelled {x : Lexeme α} {gap spelled rest : List UInt8} (hgap : Trivia gap)
    (h : Spells x spelled) (hrest : Ends rest)
    : nextLexeme (gap ++ (spelled ++ rest)) = .ok (some (x, rest)) := by
  rcases scanLexeme_spelled h hrest with ⟨b, tail, heq, hcomment, hbegins, hscan⟩
  unfold nextLexeme
  rw [skipFiller_trivia _ hgap, heq, skipFiller, if_neg hcomment, if_pos hbegins]
  dsimp only
  rw [hscan]
  rfl

theorem nextLexeme_trivia {gap : List UInt8} (hgap : Trivia gap)
    : nextLexeme (α := α) gap = .ok none := by
  have hskip := skipFiller_trivia [] hgap
  rw [List.append_nil] at hskip
  unfold nextLexeme
  rw [hskip]
  rfl

end Galley.Content
