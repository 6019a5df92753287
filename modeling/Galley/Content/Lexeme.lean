import Galley.Content.Number
import Galley.Encoding.Utf8

/-!
The lexemes of a content stream. Reading one never looks at what came before, and always leaves
fewer bytes than it was given.
-/

namespace Galley.Content

/-- The indivisible pieces of a content stream. -/
inductive Lexeme (α : Type)
  /-- A number, a name or a string. -/
  | atom (o : Operand α)
  | word (text : String)
  | arrayOpen
  | arrayClose
  | dictionaryOpen
  | dictionaryClose
deriving Repr

def isBlank (b : UInt8) : Bool :=
  b == 0x20 || b == 0x09 || b == 0x0D || b == 0x0A || b == 0x0C || b == 0x00

def isDelimiter (b : UInt8) : Bool :=
  b == 0x28 || b == 0x29 || b == 0x3C || b == 0x3E || b == 0x5B || b == 0x5D || b == 0x7B ||
    b == 0x7D || b == 0x2F || b == 0x25

/-- Bytes that continue a name or a word. -/
def isRegular (b : UInt8) : Bool := !isBlank b && !isDelimiter b

def isLetter (b : UInt8) : Bool := (0x41 ≤ b && b ≤ 0x5A) || (0x61 ≤ b && b ≤ 0x7A)

/-- Letters, `*`, and the two quotes, which begin the name of an operator. -/
def beginsWord (b : UInt8) : Bool := isLetter b || b == 0x2A || b == 0x27 || b == 0x22

/-- Digits, signs and the point. -/
def beginsNumber (b : UInt8) : Bool := isDigit b || b == 0x2B || b == 0x2D || b == 0x2E

/-- Whether a lexeme begins with this byte, given the bytes after it. -/
def beginsLexeme (b : UInt8) (rest : List UInt8) : Bool :=
  beginsWord b || beginsNumber b || b == 0x28 || b == 0x3C || b == 0x5B || b == 0x5D ||
    b == 0x2F || (b == 0x3E && rest.head? == some 0x3E)

/--
Drop blanks, comments and bytes that begin nothing. A comment runs from `%` to the end of its line.
-/
def skipFiller : (inComment : Bool) → List UInt8 → List UInt8
  | _, [] => []
  | true, b :: rest => skipFiller (!(b == 0x0A || b == 0x0D)) rest
  | false, b :: rest =>
    if b = 0x25 then skipFiller true rest
    else if beginsLexeme b rest then b :: rest
    else skipFiller false rest

def hexValue? (b : UInt8) : Option UInt8 :=
  if isDigit b then some (b - 0x30)
  else if 0x61 ≤ b ∧ b ≤ 0x66 then some (b - 0x61 + 10)
  else if 0x41 ≤ b ∧ b ≤ 0x46 then some (b - 0x41 + 10)
  else none

/-- Replace each `#` with two hexadecimal digits after it by the byte that they spell. -/
def unescapeName : List UInt8 → List UInt8
  | b :: h :: l :: tail =>
    match b == 0x23, hexValue? h, hexValue? l with
    | true, some high, some low => (high * 16 + low) :: unescapeName tail
    | _, _, _ => b :: unescapeName (h :: l :: tail)
  | short => short

/-- Where the reader of a literal string stands. -/
inductive LiteralMode
  | plain
  /-- Behind a backslash. -/
  | escape
  /-- Behind a backslash and octal digits of this value; so many more may follow. -/
  | octal (value : Nat) (left : Nat)
  /-- Behind a backslash and a carriage return. -/
  | lineEnd
deriving DecidableEq, Repr

/-- What one byte does to the reader of a literal string. -/
inductive LiteralMove
  | close (bytes : List UInt8)
  | go (bytes : List UInt8) (mode : LiteralMode) (depth : Nat)
deriving DecidableEq, Repr

namespace LiteralMove

/--
The move for a byte that no escape is waiting for. `depth` counts the inner parentheses without
bound, where a counter of 32 bits would overflow at `2 ^ 32` of them.
-/
def plain (emitted : List UInt8) (depth : Nat) (b : UInt8) : LiteralMove :=
  if b = 0x28 then .go (emitted ++ [b]) .plain (depth + 1)
  else if b = 0x29 then
    match depth with
    | 0 => .close emitted
    | outer + 1 => .go (emitted ++ [b]) .plain outer
  else if b = 0x5C then .go emitted .escape depth
  else .go (emitted ++ [b]) .plain depth

def isOctalDigit (b : UInt8) : Bool := 0x30 ≤ b && b ≤ 0x37

/-- The move for the byte behind a backslash. -/
def escape (depth : Nat) (b : UInt8) : LiteralMove :=
  if b = 0x6E then .go [0x0A] .plain depth
  else if b = 0x72 then .go [0x0D] .plain depth
  else if b = 0x74 then .go [0x09] .plain depth
  else if b = 0x62 then .go [0x08] .plain depth
  else if b = 0x66 then .go [0x0C] .plain depth
  else if b = 0x0D then .go [] .lineEnd depth
  else if b = 0x0A then .go [] .plain depth
  else if isOctalDigit b then .go [] (.octal (b.toNat - 0x30) 2) depth
  else .go [b] .plain depth

/-- The move for any byte; an octal escape ends before the first byte that is not part of it. -/
def of (mode : LiteralMode) (depth : Nat) (b : UInt8) : LiteralMove :=
  match mode with
  | .plain => plain [] depth b
  | .escape => escape depth b
  | .lineEnd => if b = 0x0A then .go [] .plain depth else plain [] depth b
  | .octal value left =>
    match left with
    | 0 => plain [UInt8.ofNat value] depth b
    | more + 1 =>
      if isOctalDigit b then .go [] (.octal (value * 8 + (b.toNat - 0x30)) more) depth
      else plain [UInt8.ofNat value] depth b

end LiteralMove

/-- The rest of a literal string behind its opening parenthesis, and the bytes after it. -/
def scanLiteral (mode : LiteralMode) (depth : Nat) :
    List UInt8 → Except Halt (List UInt8 × List UInt8)
  | [] => .error ⟨if mode = .escape then .unterminatedEscape else .unterminatedLiteral, 0⟩
  | b :: rest =>
    match LiteralMove.of mode depth b with
    | .close bytes => .ok (bytes, rest)
    | .go bytes mode depth => (scanLiteral mode depth rest).map fun (s, r) => (bytes ++ s, r)

/--
The rest of a hexadecimal string behind its opening bracket, and the bytes after it. `high` is a
digit that waits for its partner; at the end it pairs with zero.
-/
def scanHex (high : Option UInt8) : List UInt8 → Except Halt (List UInt8 × List UInt8)
  | [] => .error ⟨.unterminatedHex, 0⟩
  | b :: rest =>
    if b = 0x3E then .ok ((high.map (· * 16)).toList, rest)
    else if isBlank b then scanHex high rest
    else
      match hexValue? b, high with
      | none, _ => .error ⟨.invalidHexDigit b, rest.length⟩
      | some l, some h => (scanHex none rest).map fun (s, r) => ((h * 16 + l) :: s, r)
      | some h, none => scanHex (some h) rest

/--
Read the lexeme that begins with the byte `b`. What begins with nothing else is a word.
-/
def scanLexeme {α : Type} [Scalar α] (b : UInt8) (rest : List UInt8) :
    Except Halt (Lexeme α × List UInt8) :=
  if b = 0x28 then
    (scanLiteral .plain 0 rest).map fun (bytes, r) => (.atom (.literal bytes), r)
  else if b = 0x3C then
    match rest with
    | 0x3C :: r => .ok (.dictionaryOpen, r)
    | _ => (scanHex none rest).map fun (bytes, r) => (.atom (.hex bytes), r)
  else if b = 0x3E then .ok (.dictionaryClose, rest.tail)
  else if b = 0x5B then .ok (.arrayOpen, rest)
  else if b = 0x5D then .ok (.arrayClose, rest)
  else if b = 0x2F then
    .ok (.atom (.name (Encoding.lossyText (unescapeName (rest.takeWhile isRegular)))),
      rest.dropWhile isRegular)
  else if beginsNumber b then
    let scanned := Numeral.scan (b :: rest)
    match scanned.1.operand (α := α) with
    | .ok o => .ok (.atom o, scanned.2)
    | .error cause => .error ⟨cause, scanned.2.length⟩
  else
    .ok (.word (Encoding.lossyText (b :: rest.takeWhile isRegular)), rest.dropWhile isRegular)

/-- The next lexeme and the bytes after it, `none` at the end. -/
def nextLexeme {α : Type} [Scalar α] (bytes : List UInt8) :
    Except Halt (Option (Lexeme α × List UInt8)) :=
  match skipFiller false bytes with
  | [] => .ok none
  | b :: rest => (scanLexeme b rest).map some

/-!
Each reader leaves a suffix, so the lexemes of a stream can be counted down by its length.
-/

theorem length_dropWhile_le {p : UInt8 → Bool} (l : List UInt8) :
    (l.dropWhile p).length ≤ l.length :=
  (List.dropWhile_suffix p).length_le

theorem length_skipFiller_le (inComment : Bool) (l : List UInt8) :
    (skipFiller inComment l).length ≤ l.length := by
  induction l generalizing inComment with
  | nil => cases inComment <;> simp [skipFiller]
  | cons b rest ih =>
    cases inComment with
    | true => simpa [skipFiller] using Nat.le_succ_of_le (ih _)
    | false =>
      simp only [skipFiller]
      split
      · exact Nat.le_succ_of_le (ih _)
      · split
        · exact Nat.le_refl _
        · exact Nat.le_succ_of_le (ih _)

theorem length_scanLiteral_lt {mode : LiteralMode} {depth : Nat} {l s r : List UInt8}
    (h : scanLiteral mode depth l = .ok (s, r)) : r.length < l.length := by
  induction l generalizing mode depth s with
  | nil => simp [scanLiteral] at h
  | cons b rest ih =>
    simp only [scanLiteral] at h
    split at h
    · simp only [Except.ok.injEq, Prod.mk.injEq] at h
      simp [← h.2]
    · rename_i mode' depth' _
      cases hr : scanLiteral mode' depth' rest with
      | error e => simp [hr, Except.map] at h
      | ok p =>
        obtain ⟨s', r'⟩ := p
        simp only [hr, Except.map, Except.ok.injEq, Prod.mk.injEq] at h
        obtain ⟨_, rfl⟩ := h
        exact Nat.lt_succ_of_lt (ih hr)

theorem length_scanHex_lt {high : Option UInt8} {l s r : List UInt8}
    (h : scanHex high l = .ok (s, r)) : r.length < l.length := by
  induction l generalizing high s with
  | nil => simp [scanHex] at h
  | cons b rest ih =>
    simp only [scanHex] at h
    split at h
    · simp only [Except.ok.injEq, Prod.mk.injEq] at h
      simp [← h.2]
    · split at h
      · exact Nat.lt_succ_of_lt (ih h)
      · split at h
        · simp at h
        · cases hr : scanHex none rest with
          | error e => simp [hr, Except.map] at h
          | ok p =>
            obtain ⟨s', r'⟩ := p
            simp only [hr, Except.map, Except.ok.injEq, Prod.mk.injEq] at h
            obtain ⟨_, rfl⟩ := h
            exact Nat.lt_succ_of_lt (ih hr)
        · exact Nat.lt_succ_of_lt (ih h)

theorem length_scan_le (unsigned : List UInt8) (sign : Option UInt8) :
    (Numeral.scanUnsigned sign unsigned).2.length ≤ (unsigned.dropWhile isDigit).length := by
  unfold Numeral.scanUnsigned
  split
  · rename_i b rest heq
    rw [heq]
    split
    · exact Nat.le_succ_of_le (length_dropWhile_le rest)
    · exact Nat.le_refl _
  · simp

theorem length_scan_lt {b : UInt8} (h : beginsNumber b) (l : List UInt8) :
    (Numeral.scan (b :: l)).2.length ≤ l.length := by
  simp only [Numeral.scan]
  split
  · exact Nat.le_trans (length_scan_le l _) (length_dropWhile_le l)
  · rename_i hsign
    simp only [not_or] at hsign
    by_cases hd : isDigit b
    · refine Nat.le_trans (length_scan_le _ _) ?_
      simpa [List.dropWhile, hd] using length_dropWhile_le l
    · have hp : b = 0x2E := by simpa [beginsNumber, hd, hsign] using h
      subst hp
      simpa [Numeral.scanUnsigned, List.dropWhile, isDigit] using length_dropWhile_le l

/-- A lexeme takes at least its first byte. -/
theorem length_scanLexeme_le {α : Type} [Scalar α] {b : UInt8} {l r : List UInt8} {x : Lexeme α}
    (h : scanLexeme b l = .ok (x, r)) : r.length ≤ l.length := by
  unfold scanLexeme at h
  split at h
  · cases hs : scanLiteral .plain 0 l with
    | error e => simp [hs, Except.map] at h
    | ok p =>
      simp only [hs, Except.map, Except.ok.injEq, Prod.mk.injEq] at h
      obtain ⟨_, rfl⟩ := h
      exact Nat.le_of_lt (length_scanLiteral_lt hs)
  split at h
  · split at h
    · simp only [Except.ok.injEq, Prod.mk.injEq] at h
      obtain ⟨_, rfl⟩ := h
      exact Nat.le_succ _
    · cases hs : scanHex none l with
      | error e => simp [hs, Except.map] at h
      | ok p =>
        simp only [hs, Except.map, Except.ok.injEq, Prod.mk.injEq] at h
        obtain ⟨_, rfl⟩ := h
        exact Nat.le_of_lt (length_scanHex_lt hs)
  split at h
  · simp only [Except.ok.injEq, Prod.mk.injEq] at h
    obtain ⟨_, rfl⟩ := h
    simp
  split at h
  · simp only [Except.ok.injEq, Prod.mk.injEq] at h
    exact Nat.le_of_eq (congrArg _ h.2.symm)
  split at h
  · simp only [Except.ok.injEq, Prod.mk.injEq] at h
    exact Nat.le_of_eq (congrArg _ h.2.symm)
  split at h
  · simp only [Except.ok.injEq, Prod.mk.injEq] at h
    obtain ⟨_, rfl⟩ := h
    exact length_dropWhile_le l
  split at h
  · rename_i hn
    dsimp only at h
    split at h
    · simp only [Except.ok.injEq, Prod.mk.injEq] at h
      obtain ⟨_, rfl⟩ := h
      exact length_scan_lt hn l
    · simp at h
  · simp only [Except.ok.injEq, Prod.mk.injEq] at h
    obtain ⟨_, rfl⟩ := h
    exact length_dropWhile_le l

theorem length_nextLexeme_lt {α : Type} [Scalar α] {l r : List UInt8} {x : Lexeme α}
    (h : nextLexeme l = .ok (some (x, r))) : r.length < l.length := by
  unfold nextLexeme at h
  have hs := length_skipFiller_le false l
  split at h
  · simp at h
  · rename_i b rest heq
    rw [heq] at hs
    cases hx : scanLexeme (α := α) b rest with
    | error e => simp [hx, Except.map] at h
    | ok p =>
      simp only [hx, Except.map, Except.ok.injEq, Option.some.injEq] at h
      subst h
      have := length_scanLexeme_le hx
      simp only [List.length_cons] at hs
      omega

end Galley.Content
