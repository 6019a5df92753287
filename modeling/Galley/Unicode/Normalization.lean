import Galley.Unicode.CanonicalDecomposition
import Galley.Unicode.CompatibilityDecomposition
import Galley.Unicode.Composition
import Galley.Unicode.CombiningClass

/-!
The four Unicode normalization forms: decompose, order the marks, and, for two of the forms,
compose again.
-/

namespace Galley

/-- The form that decoded text is brought into. -/
inductive Normalization
  | none
  | nfc
  | nfd
  | nfkc
  | nfkd
deriving DecidableEq, Repr, Inhabited

namespace Unicode

/-- The arithmetic of Hangul syllables: leading consonants, vowels and trailing consonants. -/
def hangulDecompose? (code : Nat) : Option (List Char) :=
  if 0xAC00 ≤ code ∧ code < 0xAC00 + 11172 then
    let index := code - 0xAC00
    let leading := Char.ofNat (0x1100 + index / 588)
    let vowel := Char.ofNat (0x1161 + index % 588 / 28)
    if index % 28 = 0 then some [leading, vowel]
    else some [leading, vowel, Char.ofNat (0x11A7 + index % 28)]
  else none

/-- The syllable that a leading consonant and a vowel, or a syllable and a trailing one, form. -/
def hangulCompose? (a b : Nat) : Option Char :=
  if 0x1100 ≤ a ∧ a < 0x1100 + 19 ∧ 0x1161 ≤ b ∧ b < 0x1161 + 21 then
    some (Char.ofNat (0xAC00 + ((a - 0x1100) * 21 + (b - 0x1161)) * 28))
  else if 0xAC00 ≤ a ∧ a < 0xAC00 + 11172 ∧ (a - 0xAC00) % 28 = 0 ∧ 0x11A7 < b ∧
      b < 0x11A7 + 28 then
    some (Char.ofNat (a + (b - 0x11A7)))
  else none

/-- The full decomposition of a character. -/
def decompose (compatibility : Bool) (c : Char) : List Char :=
  let canonical := hangulDecompose? c.toNat <|> canonicalDecompositions.find? c.toNat
  let found :=
    if compatibility then compatibilityDecompositions.find? c.toNat <|> canonical else canonical
  found.getD [c]

/-- Put a mark behind all marks of its own or a lower class. -/
def insertMark (c : Char) : List Char → List Char
  | [] => [c]
  | m :: rest =>
    if combiningClass c < combiningClass m then c :: m :: rest else m :: insertMark c rest

/-- Sort each run of marks by combining class, keeping the order within a class. -/
def orderMarks (chars : List Char) : List Char := go [] chars
where
  go (marks : List Char) : List Char → List Char
    | [] => marks
    | c :: rest =>
      if combiningClass c = 0 then marks ++ c :: go [] rest else go (insertMark c marks) rest

/-- The character that two characters compose to, if any. -/
def composePair? (a b : Char) : Option Char :=
  hangulCompose? a.toNat b.toNat <|>
    ((primaryComposites.find? (a.toNat * 0x200000 + b.toNat)).bind List.head?)

/--
Join each character to the last starter before it when the two compose and no mark of the same or
a higher class stands between them.
-/
def compose (chars : List Char) : List Char :=
  match chars with
  | [] => []
  | c :: rest => if combiningClass c = 0 then go c [] rest else c :: compose rest
where
  go (starter : Char) (marks : List Char) : List Char → List Char
    | [] => starter :: marks.reverse
    | c :: rest =>
      let blocked :=
        match marks with
        | [] => false
        | m :: _ => combiningClass c ≤ combiningClass m
      match if blocked then none else composePair? starter c with
      | some joined => go joined marks rest
      | none =>
        if combiningClass c = 0 then starter :: marks.reverse ++ go c [] rest
        else go starter (c :: marks) rest

end Unicode

namespace Normalization

/-- Bring characters into a form. -/
def applyList (form : Normalization) (chars : List Char) : List Char :=
  match form with
  | .none => chars
  | .nfd => Unicode.orderMarks (chars.flatMap (Unicode.decompose false))
  | .nfkd => Unicode.orderMarks (chars.flatMap (Unicode.decompose true))
  | .nfc => Unicode.compose (Unicode.orderMarks (chars.flatMap (Unicode.decompose false)))
  | .nfkc => Unicode.compose (Unicode.orderMarks (chars.flatMap (Unicode.decompose true)))

/-- Bring text into a form. -/
def apply (form : Normalization) (text : String) : String :=
  match form with
  | .none => text
  | _ => String.ofList (form.applyList text.toList)

end Normalization
end Galley
