import Galley.Content.Stream
import Galley.Proofs.Content.Byte

/-!
This module shows that a lexeme, and the data of an inline image, is read as it would be by itself
when a line feed and any bytes follow: no reader looks further than the line feed.
-/

namespace Galley.Content

section Stop

variable {p : UInt8 → Bool} {c : UInt8} (h : p c = false) (bytes more : List UInt8)
include h

theorem takeWhile_append_stop : (bytes ++ c :: more).takeWhile p = bytes.takeWhile p := by
  rw [List.takeWhile_append, List.takeWhile_cons_of_neg (by simp [h]), List.append_nil]
  split
  . next hlength => exact ((List.takeWhile_prefix p).eq_of_length hlength).symm
  . rfl

theorem dropWhile_append_stop
    : (bytes ++ c :: more).dropWhile p = bytes.dropWhile p ++ c :: more := by
  rw [List.dropWhile_append, List.dropWhile_cons_of_neg (by simp [h])]
  split
  . next hempty => rw [List.isEmpty_iff.mp hempty, List.nil_append]
  . rfl

end Stop

theorem ok_of_map_ok {ε α β : Type} {e : Except ε α} {f : α → β} {y : β} (h : e.map f = .ok y)
    : ∃ x, e = .ok x ∧ f x = y := by
  cases e with
  | error halt => cases h
  | ok x =>
    cases h
    exact ⟨x, rfl, rfl⟩

theorem error_of_map_error {ε α β : Type} {e : Except ε α} {f : α → β} {halt : ε}
    (h : e.map f = .error halt)
    : e = .error halt := by
  cases e with
  | error halt =>
    cases h
    rfl
  | ok x => cases h

theorem ok_of_mapError_ok {ε ε' α : Type} {e : Except ε α} {f : ε → ε'} {y : α}
    (h : e.mapError f = .ok y)
    : e = .ok y := by
  cases e with
  | error halt => cases h
  | ok x =>
    cases h
    rfl

variable (more : List UInt8)

theorem beginsLexeme_append_lineFeed (b : UInt8) (rest : List UInt8)
    : beginsLexeme b (rest ++ 0x0A :: more) = beginsLexeme b rest := by
  cases rest with
  | nil => simp [beginsLexeme]
  | cons c rest => rfl

theorem beginsLexeme_of_skipFiller {inComment : Bool} {bytes rest : List UInt8} {b : UInt8}
    (h : skipFiller inComment bytes = b :: rest)
    : beginsLexeme b rest = true := by
  induction bytes generalizing inComment with
  | nil => cases inComment <;> cases h
  | cons c bytes ih =>
    cases inComment with
    | true =>
      simp only [skipFiller] at h
      exact ih h
    | false =>
      simp only [skipFiller] at h
      split at h
      . exact ih h
      . split at h
        . next hbegins =>
          cases h
          exact hbegins
        . exact ih h

/--
The line feed ends a comment, and is dropped with the bytes before it if nothing begins there.
-/
theorem skipFiller_append_lineFeed (inComment : Bool) (bytes : List UInt8)
    : skipFiller inComment (bytes ++ 0x0A :: more)
        =
      if skipFiller inComment bytes = [] then skipFiller false more
      else skipFiller inComment bytes ++ 0x0A :: more := by
  induction bytes generalizing inComment with
  | nil => cases inComment <;> rfl
  | cons b rest ih =>
    cases inComment with
    | true =>
      simp only [List.cons_append, skipFiller]
      apply ih
    | false =>
      simp only [List.cons_append, skipFiller]
      split
      . apply ih
      . rw [beginsLexeme_append_lineFeed]
        split
        . simp
        . apply ih

/-!
Strings end at their own closing bytes, so any bytes may follow them.
-/

theorem scanLiteral_append {mode : LiteralMode} {depth : Nat} {bytes s r : List UInt8}
    (h : scanLiteral mode depth bytes = .ok (s, r))
    : scanLiteral mode depth (bytes ++ more) = .ok (s, r ++ more) := by
  induction bytes generalizing mode depth s with
  | nil => simp [scanLiteral] at h
  | cons b rest ih =>
    simp only [List.cons_append, scanLiteral] at h ⊢
    split at h
    . cases h
      rfl
    . rcases ok_of_map_ok h with ⟨read, hrest, heq⟩
      cases heq
      rw [ih hrest]
      rfl

theorem scanHex_append {high : Option UInt8} {bytes s r : List UInt8}
    (h : scanHex high bytes = .ok (s, r))
    : scanHex high (bytes ++ more) = .ok (s, r ++ more) := by
  induction bytes generalizing high s with
  | nil => simp [scanHex] at h
  | cons b rest ih =>
    rw [List.cons_append]
    unfold scanHex at h ⊢
    by_cases hend : b = 0x3E
    . rw [if_pos hend] at h ⊢
      cases h
      rfl
    . rw [if_neg hend] at h ⊢
      by_cases hblank : isBlank b = true
      . rw [if_pos hblank] at h ⊢
        exact ih h
      . rw [if_neg hblank] at h ⊢
        cases hdigit : hexValue? b with
        | none =>
          rw [hdigit] at h
          cases h
        | some l =>
          rw [hdigit] at h
          cases high with
          | none => exact ih h
          | some digit =>
            rcases ok_of_map_ok h with ⟨read, hrest, heq⟩
            cases heq
            dsimp only
            rw [ih hrest]
            rfl

/-!
Numbers, names and words end before the line feed.
-/

theorem scanUnsigned_append_lineFeed (sign : Option UInt8) (bytes : List UInt8)
    : Numeral.scanUnsigned sign (bytes ++ 0x0A :: more)
        =
      ((Numeral.scanUnsigned sign bytes).1,
        (Numeral.scanUnsigned sign bytes).2 ++ 0x0A :: more) := by
  have hdigit : isDigit 0x0A = false := by rfl
  unfold Numeral.scanUnsigned
  rw [takeWhile_append_stop hdigit, dropWhile_append_stop hdigit]
  cases bytes.dropWhile isDigit with
  | nil => rfl
  | cons b rest =>
    simp only [List.cons_append]
    split
    . rw [takeWhile_append_stop hdigit, dropWhile_append_stop hdigit]
    . rfl

theorem scan_append_lineFeed (bytes : List UInt8)
    : Numeral.scan (bytes ++ 0x0A :: more)
        =
      ((Numeral.scan bytes).1, (Numeral.scan bytes).2 ++ 0x0A :: more) := by
  cases bytes with
  | nil => rfl
  | cons b rest =>
    simp only [List.cons_append, Numeral.scan]
    split
    . apply scanUnsigned_append_lineFeed
    . exact scanUnsigned_append_lineFeed more none (b :: rest)

section

variable {α : Type} [Scalar α]

theorem scanLexeme_angle_append {rest r : List UInt8} {x : Lexeme α}
    (h : scanLexeme 0x3C rest = .ok (x, r))
    : scanLexeme 0x3C (rest ++ more) = .ok (x, r ++ more) := by
  unfold scanLexeme at h ⊢
  rw [if_neg (by decide), if_pos rfl] at h ⊢
  split at h
  . cases h
    rfl
  . next hhex =>
    rcases ok_of_map_ok h with ⟨read, hscan, heq⟩
    cases heq
    split
    . next after heq =>
      -- a second angle bracket among the bytes would have begun a dictionary
      cases rest with
      | nil => cases hscan
      | cons c rest =>
        cases heq
        exact absurd rfl (hhex rest)
    . rw [scanHex_append more hscan]
      rfl

theorem scanLexeme_append_lineFeed {b : UInt8} {rest r : List UInt8} {x : Lexeme α}
    (hbegins : beginsLexeme b rest = true) (h : scanLexeme b rest = .ok (x, r))
    : scanLexeme b (rest ++ 0x0A :: more) = .ok (x, r ++ 0x0A :: more) := by
  have hregular : isRegular 0x0A = false := by rfl
  by_cases hangle : b = 0x3C
  . subst hangle
    exact scanLexeme_angle_append (0x0A :: more) h
  unfold scanLexeme at h ⊢
  rw [if_neg hangle] at h ⊢
  by_cases hliteral : b = 0x28
  . rw [if_pos hliteral] at h ⊢
    rcases ok_of_map_ok h with ⟨read, hscan, heq⟩
    cases heq
    rw [scanLiteral_append (0x0A :: more) hscan]
    rfl
  rw [if_neg hliteral] at h ⊢
  by_cases hclose : b = 0x3E
  . rw [if_pos hclose] at h ⊢
    cases h
    subst hclose
    -- what begins here is two angle brackets, so the second is among the bytes
    cases rest with
    | nil => cases hbegins
    | cons c rest => rfl
  rw [if_neg hclose] at h ⊢
  by_cases hopen : b = 0x5B
  . rw [if_pos hopen] at h ⊢
    cases h
    rfl
  rw [if_neg hopen] at h ⊢
  by_cases hend : b = 0x5D
  . rw [if_pos hend] at h ⊢
    cases h
    rfl
  rw [if_neg hend] at h ⊢
  by_cases hname : b = 0x2F
  . rw [if_pos hname] at h ⊢
    cases h
    rw [takeWhile_append_stop hregular, dropWhile_append_stop hregular]
  rw [if_neg hname] at h ⊢
  by_cases hnumber : beginsNumber b = true
  . rw [if_pos hnumber] at h ⊢
    have hscan := scan_append_lineFeed more (b :: rest)
    rw [List.cons_append] at hscan
    rw [hscan]
    dsimp only at h ⊢
    split at h
    . cases h
      rfl
    . cases h
  . rw [if_neg hnumber] at h ⊢
    cases h
    rw [takeWhile_append_stop hregular, dropWhile_append_stop hregular]

theorem nextLexeme_append_lineFeed {bytes : List UInt8} {next : Option (Lexeme α × List UInt8)}
    (h : nextLexeme bytes = .ok next)
    : nextLexeme (bytes ++ 0x0A :: more)
        =
      match next with
      | none => nextLexeme more
      | some (x, rest) => .ok (some (x, rest ++ 0x0A :: more)) := by
  unfold nextLexeme at h ⊢
  rw [skipFiller_append_lineFeed]
  split at h
  . next hskip =>
    cases h
    rw [if_pos hskip]
  . next b rest hskip =>
    rcases ok_of_map_ok h with ⟨read, hscan, heq⟩
    cases heq
    rw [if_neg (hskip ▸ List.cons_ne_nil b rest), hskip, List.cons_append]
    dsimp only
    rw [scanLexeme_append_lineFeed more (beginsLexeme_of_skipFiller hskip) hscan]
    rfl

end

/-!
The data of an inline image ends at its mark, if it has one.
-/

/-- Whether the mark that `skipImageData` looks for is among the bytes. -/
def closesImageData (afterBlank : Bool) : List UInt8 → Bool
  | [] => false
  | b :: rest =>
    (afterBlank && b == 0x45 && endsImageData rest) || closesImageData (isBlank b) rest

/-- Whether the bytes behind `ID` hold the mark that ends the image data. -/
def closesImage (bytes : List UInt8) : Bool :=
  match bytes with
  | b :: rest => if isBlank b then closesImageData true rest else closesImageData false bytes
  | [] => false

theorem endsImageData_append_lineFeed (rest : List UInt8)
    : endsImageData (rest ++ 0x0A :: more) = endsImageData rest := by
  match rest with
  | [] => rfl
  | [b] => rfl
  | b :: c :: rest => rfl

theorem skipImageData_append_lineFeed {afterBlank : Bool} {bytes : List UInt8}
    (h : closesImageData afterBlank bytes = true)
    : skipImageData afterBlank (bytes ++ 0x0A :: more)
        =
      skipImageData afterBlank bytes ++ 0x0A :: more := by
  induction bytes generalizing afterBlank with
  | nil => cases h
  | cons b rest ih =>
    simp only [closesImageData, Bool.or_eq_true] at h
    simp only [List.cons_append, skipImageData, endsImageData_append_lineFeed]
    split
    . next hmark =>
      cases rest with
      | nil => simp [endsImageData] at hmark
      | cons c rest => rfl
    . next hmark => exact ih (h.resolve_left hmark)

theorem afterImageData_append_lineFeed {bytes : List UInt8} (h : closesImage bytes = true)
    : afterImageData (bytes ++ 0x0A :: more) = afterImageData bytes ++ 0x0A :: more := by
  unfold closesImage at h
  unfold afterImageData
  cases bytes with
  | nil => cases h
  | cons b rest =>
    simp only [List.cons_append] at h ⊢
    split at h
    . next hblank =>
      rw [if_pos hblank, if_pos hblank]
      exact skipImageData_append_lineFeed more h
    . next hblank =>
      rw [if_neg hblank, if_neg hblank]
      exact skipImageData_append_lineFeed more h

end Galley.Content
