import Galley.Content.Stream
import Galley.Proofs.Encoding.Utf8

/-!
This module defines the spellings of operators: the byte sequences that are meant to be read as
given operators. A lexeme has many spellings, so all of these are relations.
-/

namespace Galley.Content

open Encoding

/--
Blanks and comments, in any order. A comment ends with a line feed or a carriage return.
-/
inductive Trivia : List UInt8 → Prop where
  | nil : Trivia []
  | blank {b : UInt8} {rest : List UInt8} (hblank : isBlank b = true) (hrest : Trivia rest)
    : Trivia (b :: rest)
  | comment {text rest : List UInt8} {eol : UInt8} (htext : ∀ b ∈ text, b ≠ 0x0A ∧ b ≠ 0x0D)
      (heol : eol = 0x0A ∨ eol = 0x0D) (hrest : Trivia rest)
    : Trivia (0x25 :: (text ++ eol :: rest))

def decimalDigit (digit : Fin 10) : UInt8 := UInt8.ofNat (0x30 + digit.val)

def octalDigit (digit : Fin 8) : UInt8 := UInt8.ofNat (0x30 + digit.val)

/--
The hexadecimal digit of a value, as a capital letter or a small one.
-/
def hexDigit (capital : Bool) (value : Fin 16) : UInt8 :=
  if value.val < 10 then UInt8.ofNat (0x30 + value.val)
  else if capital then UInt8.ofNat (0x41 + (value.val - 10))
  else UInt8.ofNat (0x61 + (value.val - 10))

def highNibble (b : UInt8) : Fin 16 :=
  ⟨b.toNat / 16, by have := b.toNat_lt; omega⟩

def lowNibble (b : UInt8) : Fin 16 :=
  ⟨b.toNat % 16, by omega⟩

inductive Sign where
  | absent
  | plus
  | minus
deriving DecidableEq

namespace Sign

def byte? : Sign → Option UInt8
  | absent => none
  | plus => some 0x2B
  | minus => some 0x2D

def apply (sign : Sign) (size : Nat) : Int :=
  match sign with
  | absent => size
  | plus => size
  | minus => -size

end Sign

def decimalValue (digits : List (Fin 10)) : Nat :=
  digits.foldl (fun value digit => value * 10 + digit.val) 0

/--
The spellings of the bytes of a name behind its solidus.
-/
inductive SpellsName : List UInt8 → List UInt8 → Prop where
  | nil : SpellsName [] []
  | raw {b : UInt8} {bytes spelled : List UInt8} (hregular : isRegular b = true)
      (hescape : b ≠ 0x23) (hrest : SpellsName bytes spelled)
    : SpellsName (b :: bytes) (b :: spelled)
  | escaped {b : UInt8} {bytes spelled : List UInt8} (high low : Bool)
      (hrest : SpellsName bytes spelled)
    : SpellsName (b :: bytes)
        (0x23 :: hexDigit high (highNibble b) :: hexDigit low (lowNibble b) :: spelled)

/--
The bytes that stand for others behind a backslash, with those they stand for.
-/
def literalEscapes : List (UInt8 × UInt8) :=
  [(0x6E, 0x0A), (0x72, 0x0D), (0x74, 0x09), (0x62, 0x08), (0x66, 0x0C), (0x28, 0x28),
    (0x29, 0x29), (0x5C, 0x5C)]

/--
The spellings of one byte of a literal string. An octal escape stands for its value modulo 256.
-/
inductive SpellsByte : UInt8 → List UInt8 → Prop where
  | raw {b : UInt8} (hb : b ≠ 0x28 ∧ b ≠ 0x29 ∧ b ≠ 0x5C) : SpellsByte b [b]
  | escaped {code b : UInt8} (hcode : (code, b) ∈ literalEscapes) : SpellsByte b [0x5C, code]
  | octal (x y z : Fin 8)
    : SpellsByte (UInt8.ofNat ((x.val * 8 + y.val) * 8 + z.val))
        [0x5C, octalDigit x, octalDigit y, octalDigit z]

/--
The spellings of a literal string between its parentheses. Line continuations may stand between
the bytes.
-/
inductive SpellsLiteral : List UInt8 → List UInt8 → Prop where
  | nil : SpellsLiteral [] []
  | continued {bytes spelled : List UInt8} (hrest : SpellsLiteral bytes spelled)
    : SpellsLiteral bytes (0x5C :: 0x0A :: spelled)
  | byte {b : UInt8} {bytes spelling spelled : List UInt8} (hb : SpellsByte b spelling)
      (hrest : SpellsLiteral bytes spelled)
    : SpellsLiteral (b :: bytes) (spelling ++ spelled)

/--
The spellings of a hexadecimal string between its brackets.
-/
inductive SpellsHex : List UInt8 → List UInt8 → Prop where
  | nil : SpellsHex [] []
  | blank {b : UInt8} {bytes spelled : List UInt8} (hblank : isBlank b = true)
      (hrest : SpellsHex bytes spelled)
    : SpellsHex bytes (b :: spelled)
  | byte {b : UInt8} {bytes gap spelled : List UInt8} (high low : Bool)
      (hgap : ∀ c ∈ gap, isBlank c = true) (hrest : SpellsHex bytes spelled)
    : SpellsHex (b :: bytes)
        (hexDigit high (highNibble b) :: (gap ++ hexDigit low (lowNibble b) :: spelled))

/--
Texts that can be written as words.
-/
def IsWord (text : String) : Prop :=
  ∃ b rest, utf8 text = b :: rest ∧ beginsWord b = true ∧ ∀ c ∈ rest, isRegular c = true

/--
Texts that can name an operator: neither a constant nor the mark that begins an inline image.
-/
structure IsOperatorName (text : String) : Prop where
  isWord : IsWord text
  isFree : text ∉ ["true", "false", "null", "BI"]

variable {α : Type}

/--
The spellings of a lexeme. The values of integers are those of signed 64-bit integers; reals are
left out, since a text in decimal need not be read back as the number that was meant.
-/
inductive Spells : Lexeme α → List UInt8 → Prop where
  | int (sign : Sign) (digits : List (Fin 10)) (hdigits : digits ≠ [])
      (hlow : Int64.minValue.toInt ≤ sign.apply (decimalValue digits))
      (hhigh : sign.apply (decimalValue digits) ≤ Int64.maxValue.toInt)
    : Spells (.atom (.int (sign.apply (decimalValue digits))))
        (sign.byte?.toList ++ digits.map decimalDigit)
  | name {text : String} {spelled : List UInt8} (hspelled : SpellsName (utf8 text) spelled)
    : Spells (.atom (.name text)) (0x2F :: spelled)
  | literal {bytes spelled : List UInt8} (hspelled : SpellsLiteral bytes spelled)
    : Spells (.atom (.literal bytes)) (0x28 :: (spelled ++ [0x29]))
  | hex {bytes spelled : List UInt8} (hspelled : SpellsHex bytes spelled)
    : Spells (.atom (.hex bytes)) (0x3C :: (spelled ++ [0x3E]))
  | word {text : String} (htext : IsWord text) : Spells (.word text) (utf8 text)
  | arrayOpen : Spells .arrayOpen [0x5B]
  | arrayClose : Spells .arrayClose [0x5D]
  | dictionaryOpen : Spells .dictionaryOpen [0x3C, 0x3C]
  | dictionaryClose : Spells .dictionaryClose [0x3E, 0x3E]

/--
The spellings of lexemes in a row, with blanks or comments between any two of them.
-/
inductive SpellsAll : List (Lexeme α) → List UInt8 → Prop where
  | nil : SpellsAll [] []
  | one {x : Lexeme α} {spelled : List UInt8} (hx : Spells x spelled) : SpellsAll [x] spelled
  | cons {x y : Lexeme α} {xs : List (Lexeme α)} {spelled gap rest : List UInt8}
      (hx : Spells x spelled) (hgap : Trivia gap) (hne : gap ≠ [])
      (hrest : SpellsAll (y :: xs) rest)
    : SpellsAll (x :: y :: xs) (spelled ++ gap ++ rest)

namespace Operand

mutual

/--
The lexemes of an operand. Arrays and dictionaries are written with their members between brackets,
the constants as words.
-/
def lexemes : Operand α → List (Lexeme α)
  | .array items => .arrayOpen :: (itemLexemes items ++ [.arrayClose])
  | .dictionary entries => .dictionaryOpen :: (entryLexemes entries ++ [.dictionaryClose])
  | .bool true => [.word "true"]
  | .bool false => [.word "false"]
  | .null => [.word "null"]
  | .int value => [.atom (.int value)]
  | .real value => [.atom (.real value)]
  | .name text => [.atom (.name text)]
  | .literal bytes => [.atom (.literal bytes)]
  | .hex bytes => [.atom (.hex bytes)]

def itemLexemes : List (Operand α) → List (Lexeme α)
  | [] => []
  | o :: items => o.lexemes ++ itemLexemes items

def entryLexemes : List (String × Operand α) → List (Lexeme α)
  | [] => []
  | (key, o) :: entries => .atom (.name key) :: (o.lexemes ++ entryLexemes entries)

end

mutual

/--
Operands that have a spelling: no real occurs in them, and every integer fits into 64 bits.
-/
def IsSpellable : Operand α → Prop
  | .array items => AreSpellable items
  | .dictionary entries => AreSpellableEntries entries
  | .int value => Int64.minValue.toInt ≤ value ∧ value ≤ Int64.maxValue.toInt
  | .real _ => False
  | _ => True

def AreSpellable : List (Operand α) → Prop
  | [] => True
  | o :: items => o.IsSpellable ∧ AreSpellable items

def AreSpellableEntries : List (String × Operand α) → Prop
  | [] => True
  | (_, o) :: entries => o.IsSpellable ∧ AreSpellableEntries entries

end

end Operand

namespace Operator

def lexemes (op : Operator α) : List (Lexeme α) :=
  Operand.itemLexemes op.operands ++ [.word op.name]

/--
The spellings of a list of operators. More blanks and comments may stand at either end.
-/
inductive Spelled (ops : List (Operator α)) : List UInt8 → Prop where
  | mk {lead spelled trail : List UInt8} (hlead : Trivia lead)
      (hspelled : SpellsAll (ops.flatMap lexemes) spelled) (htrail : Trivia trail)
    : Spelled ops (lead ++ spelled ++ trail)

end Operator
end Galley.Content
