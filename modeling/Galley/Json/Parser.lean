import Galley.Decimal.Basic
import Galley.Json.Basic

/-!
Reading JSON text.
-/

namespace Galley.Json

/-- The four characters that may stand between the parts of a JSON text. -/
def isSpace (c : Char) : Bool := c == ' ' || c == '\n' || c == '\t' || c == '\r'

def skipSpace (cs : List Char) : List Char := cs.dropWhile isSpace

/-- A part of a string: a character as such, or a UTF-16 unit as an escape. -/
inductive StringPart
  | char (c : Char)
  | unit (value : Nat)
deriving DecidableEq, Repr

def hexValue? (c : Char) : Option Nat :=
  if '0' ≤ c ∧ c ≤ '9' then some (c.toNat - 0x30)
  else if 'a' ≤ c ∧ c ≤ 'f' then some (c.toNat - 0x57)
  else if 'A' ≤ c ∧ c ≤ 'F' then some (c.toNat - 0x37)
  else none

/-- The unit that four hexadecimal digits spell. -/
def unit? (a b c d : Char) : Option Nat := do
  let a ← hexValue? a
  let b ← hexValue? b
  let c ← hexValue? c
  let d ← hexValue? d
  return ((a * 16 + b) * 16 + c) * 16 + d

/-- The character of a one-letter escape. -/
def escapedChar? (c : Char) : Option Char :=
  match c with
  | '"' => some '"'
  | '\\' => some '\\'
  | '/' => some '/'
  | 'b' => some '\x08'
  | 'f' => some '\x0c'
  | 'n' => some '\n'
  | 'r' => some '\r'
  | 't' => some '\t'
  | _ => none

/-- The parts of a string behind its opening quote, and what follows its closing one. -/
def stringParts? : List Char → Option (List StringPart × List Char)
  | [] => none
  | '"' :: rest => some ([], rest)
  | '\\' :: 'u' :: a :: b :: c :: d :: rest => do
    let unit ← unit? a b c d
    let (parts, after) ← stringParts? rest
    return (.unit unit :: parts, after)
  | '\\' :: e :: rest => do
    let c ← escapedChar? e
    let (parts, after) ← stringParts? rest
    return (.char c :: parts, after)
  | c :: rest =>
    if c.toNat < 0x20 || c == '\\' then none
    else do
      let (parts, after) ← stringParts? rest
      return (.char c :: parts, after)

/-- The characters of the parts, with pairs of surrogates joined; `none` if one stands alone. -/
def joinParts? : List StringPart → Option (List Char)
  | [] => some []
  | .char c :: rest => (joinParts? rest).map (c :: ·)
  | .unit high :: rest =>
    if 0xD800 ≤ high ∧ high < 0xDC00 then
      match rest with
      | .unit low :: rest =>
        if 0xDC00 ≤ low ∧ low < 0xE000 then
          (joinParts? rest).map
            (Char.ofNat (0x10000 + (high - 0xD800) * 0x400 + (low - 0xDC00)) :: ·)
        else none
      | _ => none
    else if 0xDC00 ≤ high ∧ high < 0xE000 then none
    else (joinParts? rest).map (Char.ofNat high :: ·)

def isDigit (c : Char) : Bool := '0' ≤ c && c ≤ '9'

def digitsValue (digits : List Char) : Nat :=
  digits.foldl (fun n c => n * 10 + (c.toNat - 0x30)) 0

/-- The digits behind a point, if there is a point. -/
def fraction? (cs : List Char) : Option (Option (List Char) × List Char) :=
  match cs with
  | '.' :: rest =>
    let digits := rest.takeWhile isDigit
    if digits.isEmpty then none else some (some digits, rest.dropWhile isDigit)
  | _ => some (none, cs)

/-- The exponent, if there is one. -/
def exponent? (cs : List Char) : Option (Option Int × List Char) :=
  match cs with
  | c :: rest =>
    if c == 'e' || c == 'E' then
      let (negative, unsigned) :=
        match rest with
        | '-' :: tail => (true, tail)
        | '+' :: tail => (false, tail)
        | _ => (false, rest)
      let digits := unsigned.takeWhile isDigit
      let size : Int := digitsValue digits
      if digits.isEmpty then none
      else some (some (if negative then -size else size), unsigned.dropWhile isDigit)
    else some (none, cs)
  | [] => some (none, [])

/-- The value of a number from its parts. -/
def numberValue (negative : Bool) (whole : List Char) (fraction : Option (List Char))
    (exponent : Option Int) : Json :=
  let decimal : Json :=
    let digits := fraction.getD []
    .float (Decimal.toFloat
      ⟨negative, digitsValue (whole ++ digits), exponent.getD 0 - (digits.length : Int)⟩)
  match fraction, exponent with
  | none, none =>
    let size : Int := digitsValue whole
    if negative then (if size = 0 ∨ -size < Int64.minValue.toInt then decimal else .int (-size))
    else if size < UInt64.size then .int size
    else decimal
  | _, _ => decimal

/-- A number and what follows it. No digit may follow a leading zero. -/
def number? (cs : List Char) : Option (Json × List Char) := do
  let (negative, unsigned) :=
    match cs with
    | '-' :: rest => (true, rest)
    | _ => (false, cs)
  let (whole, afterWhole) ←
    match unsigned with
    | '0' :: rest => some (['0'], rest)
    | _ =>
      let digits := unsigned.takeWhile isDigit
      if digits.isEmpty then none else some (digits, unsigned.dropWhile isDigit)
  let (fraction, afterFraction) ← fraction? afterWhole
  let (exponent, rest) ← exponent? afterFraction
  return (numberValue negative whole fraction exponent, rest)

/-- A string behind its opening quote, and what follows it. -/
def string? (cs : List Char) : Option (Json × List Char) := do
  let (parts, rest) ← stringParts? cs
  match joinParts? parts with
  | some chars => return (.text (String.ofList chars), rest)
  | none => return (.brokenText, rest)

mutual

/-- A value and what follows it. `fuel` bounds the depth. -/
def value? (fuel : Nat) (cs : List Char) : Option (Json × List Char) :=
  match fuel with
  | 0 => none
  | fuel + 1 =>
    match skipSpace cs with
    | '"' :: rest => string? rest
    | '[' :: rest =>
      match skipSpace rest with
      | ']' :: after => some (.array [], after)
      | inner => (items? fuel inner).map fun (items, after) => (.array items, after)
    | '\x7b' :: rest =>
      match skipSpace rest with
      | '\x7d' :: after => some (.object [], after)
      | inner => (fields? fuel inner).map fun (fields, after) => (.object fields, after)
    | 't' :: 'r' :: 'u' :: 'e' :: rest => some (.bool true, rest)
    | 'f' :: 'a' :: 'l' :: 's' :: 'e' :: rest => some (.bool false, rest)
    | 'n' :: 'u' :: 'l' :: 'l' :: rest => some (.null, rest)
    | other => number? other

/-- The rest of an array from the beginning of an item on. -/
def items? (fuel : Nat) (cs : List Char) : Option (List Json × List Char) :=
  match fuel with
  | 0 => none
  | fuel + 1 => do
    let (item, rest) ← value? fuel cs
    match skipSpace rest with
    | ']' :: after => return ([item], after)
    | ',' :: next =>
      let (items, after) ← items? fuel next
      return (item :: items, after)
    | _ => none

/-- The rest of an object from the beginning of a field on. -/
def fields? (fuel : Nat) (cs : List Char) : Option (List (String × Json) × List Char) :=
  match fuel with
  | 0 => none
  | fuel + 1 =>
    match skipSpace cs with
    | '"' :: rest => do
      let (parts, afterName) ← stringParts? rest
      let name ← joinParts? parts
      match skipSpace afterName with
      | ':' :: afterColon =>
        let (value, rest) ← value? fuel afterColon
        let field := (String.ofList name, value)
        match skipSpace rest with
        | '\x7d' :: after => return ([field], after)
        | ',' :: next =>
          let (fields, after) ← fields? fuel next
          return (field :: fields, after)
        | _ => none
      | _ => none
    | _ => none

end

/-- The value that a text spells. -/
def parse? (text : String) : Option Json := do
  let cs := text.toList
  let (value, rest) ← value? (cs.length + 1) cs
  if (skipSpace rest).isEmpty then some value else none

end Galley.Json
