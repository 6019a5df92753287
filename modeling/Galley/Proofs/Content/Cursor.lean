import Galley.Proofs.Content.InlineImage

/-!
This module contains a reader of content streams that moves a cursor over the bytes: it descends
into collections, asks for single bytes and for slices, and stops as soon as one of these or the
cursor itself lies out of range. Nothing in its definition says that it ever ends.
-/

namespace Galley.Content

/-- The bytes that a cursor moves over. -/
abbrev Cursor : Type := List UInt8

namespace Cursor

/-- Why a cursor stops before its time. -/
inductive Stop
  /-- A byte or a slice out of range was asked for, or the cursor was moved behind the end. -/
  | outOfRange
  | fault (f : Fault)
deriving DecidableEq, Repr

/-- A way to move a cursor and find something; `none` if it never comes to an end. -/
abbrev Scan (β : Type) : Type := StateT Nat (ExceptT Stop Option) β

/-- Stop with a fault at the cursor. -/
def fail {β : Type} (cause : Cause) : Scan β := do
  throw (.fault ⟨cause, ← get⟩)

/-- The byte at an index. -/
def byteAt (bytes : List UInt8) (i : Nat) : Scan UInt8 :=
  match bytes[i]? with
  | some b => pure b
  | none => throw .outOfRange

/-- The byte so far ahead of the cursor, if there is one. -/
def peekAt (content : Cursor) (ahead : Nat) : Scan (Option UInt8) := do
  return content[(← get) + ahead]?

def peek (content : Cursor) : Scan (Option UInt8) := content.peekAt 0

def advance (content : Cursor) (count : Nat) : Scan Unit := do
  let pos ← get
  if pos + count ≤ content.length then set (pos + count) else throw .outOfRange

/-- The bytes from the first index to the last, without the byte there. -/
def slice (content : Cursor) (first last : Nat) : Scan (List UInt8) :=
  if first ≤ last ∧ last ≤ content.length then pure ((content.take last).drop first)
  else throw .outOfRange

/-!
Trivia and atoms.
-/

def pastWhile (content : Cursor) (p : UInt8 → Bool) : Scan Unit := do
  match ← content.peek with
  | none => pure ()
  | some b =>
    if p b then
      content.advance 1
      content |>.pastWhile p
    else pure ()
partial_fixpoint

def pastTrivia (content : Cursor) : Scan Unit := do
  match ← content.peek with
  | none => pure ()
  | some b =>
    if isBlank b then
      content.advance 1
      content |>.pastTrivia
    else if b = 0x25 then
      content.pastWhile fun c => c != 0x0A && c != 0x0D
      content |>.pastTrivia
    else pure ()
partial_fixpoint

/-- At most so many octal digits behind those that spell `value`. -/
def octal (content : Cursor) (value : Nat) : (count : Nat) → Scan Nat
  | 0 => pure value
  | count + 1 => do
    match ← content.peek with
    | none => pure value
    | some b =>
      if LiteralMove.isOctalDigit b then
        content.advance 1
        content.octal (value * 8 + (b.toNat - 0x30)) count
      else pure value

/-- What stands behind a backslash in a literal string. -/
def escape (content : Cursor) : Scan (List UInt8) := do
  match ← content.peek with
  | none => fail .unterminatedEscape
  | some b =>
    content.advance 1
    if b = 0x6E then return [0x0A]
    else if b = 0x72 then return [0x0D]
    else if b = 0x74 then return [0x09]
    else if b = 0x62 then return [0x08]
    else if b = 0x66 then return [0x0C]
    else if b = 0x0D then
      if (← content.peek) = some 0x0A then content.advance 1
      return []
    else if b = 0x0A then return []
    else if LiteralMove.isOctalDigit b then
      return [UInt8.ofNat (← content.octal (b.toNat - 0x30) 2)]
    else return [b]

def literalFrom (content : Cursor) (depth : Nat) (out : List UInt8) : Scan (List UInt8) := do
  match ← content.peek with
  | none => fail .unterminatedLiteral
  | some b =>
    content.advance 1
    if b = 0x28 then content |>.literalFrom (depth + 1) (out ++ [b])
    else if b = 0x29 then
      if depth - 1 = 0 then return out else content |>.literalFrom (depth - 1) (out ++ [b])
    else if b = 0x5C then
      let bytes ← content.escape
      content |>.literalFrom depth (out ++ bytes)
    else content |>.literalFrom depth (out ++ [b])
partial_fixpoint

def literalString (content : Cursor) : Scan (List UInt8) := do
  content.advance 1
  content.literalFrom 1 []

def hexFrom (content : Cursor) (high : Option UInt8) (out : List UInt8) : Scan (List UInt8) := do
  match ← content.peek with
  | none => fail .unterminatedHex
  | some b =>
    content.advance 1
    if b = 0x3E then return out ++ (high.map (· * 16)).toList
    else if isBlank b then content |>.hexFrom high out
    else
      match hexValue? b, high with
      | none, _ => fail (.invalidHexDigit b)
      | some l, some h => content |>.hexFrom none (out ++ [h * 16 + l])
      | some h, none => content |>.hexFrom (some h) out
partial_fixpoint

def hexString (content : Cursor) : Scan (List UInt8) := do
  content.advance 1
  content.hexFrom none []

/-- Resolve the escapes of a name from an index on. -/
def unescapeFrom (raw : Cursor) (i : Nat) (name : List UInt8) : Scan (List UInt8) := do
  if i < raw.length then
    let b ← byteAt raw i
    if b = 0x23 ∧ i + 2 < raw.length then
      let high ← byteAt raw (i + 1)
      let low ← byteAt raw (i + 2)
      match hexValue? high, hexValue? low with
      | some h, some l => raw |>.unescapeFrom (i + 3) (name ++ [h * 16 + l])
      | _, _ => raw |>.unescapeFrom (i + 1) (name ++ [b])
    else raw |>.unescapeFrom (i + 1) (name ++ [b])
  else return name
partial_fixpoint

def name (content : Cursor) : Scan String := do
  content.advance 1
  let first ← get
  content.pastWhile isRegular
  let raw ← content.slice first (← get)
  return Encoding.lossyText (← unescapeFrom raw 0 [])

def pastDigits (content : Cursor) (afterPoint : Bool) : Scan Unit := do
  match ← content.peek with
  | none => pure ()
  | some b =>
    if isDigit b then
      content.advance 1
      content |>.pastDigits afterPoint
    else if b = 0x2E ∧ afterPoint = false then
      content.advance 1
      content |>.pastDigits true
    else pure ()
partial_fixpoint

def pastNumber (content : Cursor) : Scan Unit := do
  let sign ← content.peek
  if sign = some 0x2B ∨ sign = some 0x2D then content.advance 1
  content.pastDigits false

def keyword (content : Cursor) : Scan String := do
  let first ← get
  content.pastWhile isRegular
  return Encoding.lossyText (← content.slice first (← get))

variable {α : Type} [Scalar α]

def number (content : Cursor) : Scan (Operand α) := do
  let first ← get
  content.pastNumber
  match (Numeral.scan (← content.slice first (← get))).1.operand with
  | .ok o => return o
  | .error cause => fail cause

/-!
Tokens and what they make up.
-/

omit [Scalar α] in
/-- The value inside a collection that a token stands for. -/
def value (token : Token α) : Scan (Operand α) :=
  match token with
  | .operand o => pure o
  | .word text => pure ((Reader.constant? text).getD (.name text))
  | .arrayEnd => fail .unexpectedArrayEnd
  | .dictionaryEnd => fail .unexpectedDictionaryEnd

mutual

/-- The next token, `none` at the end. -/
def nextToken (content : Cursor) : Scan (Option (Token α)) := do
  content.pastTrivia
  match ← content.peek with
  | none => return none
  | some b => content |>.tokenAt b
partial_fixpoint

/-- The token at the cursor, which stands before this byte, or the next one if it begins none. -/
def tokenAt (content : Cursor) (b : UInt8) : Scan (Option (Token α)) := do
  let ahead ← content.peekAt 1
  if b = 0x28 then return some (.operand (.literal (← content.literalString)))
  else if b = 0x3C ∧ ahead = some 0x3C then
    content.advance 2
    return some (.operand (.dictionary (← content |>.dictionary [])))
  else if b = 0x3C then return some (.operand (.hex (← content.hexString)))
  else if b = 0x3E ∧ ahead = some 0x3E then
    content.advance 2
    return some .dictionaryEnd
  else if b = 0x5B then
    content.advance 1
    return some (.operand (.array (← content |>.array [])))
  else if b = 0x5D then
    content.advance 1
    return some .arrayEnd
  else if b = 0x2F then return some (.operand (.name (← content.name)))
  else if beginsNumber b then return some (.operand (← content.number))
  else if beginsWord b then return some (.word (← content.keyword))
  else
    content.advance 1
    content |>.nextToken
partial_fixpoint

/-- The elements of an array to its end, behind these. -/
def array (content : Cursor) (items : List (Operand α)) : Scan (List (Operand α)) := do
  match ← content |>.nextToken with
  | none => fail .unterminatedArray
  | some .arrayEnd => return items
  | some token =>
    let o ← value token
    content |>.array (items ++ [o])
partial_fixpoint

/-- The entries of a dictionary to its end, behind these. -/
def dictionary (content : Cursor) (entries : List (String × Operand α))
    : Scan (List (String × Operand α)) := do
  match ← content |>.nextToken with
  | none => fail .unterminatedDictionary
  | some .dictionaryEnd => return entries
  | some (.operand (.name key)) => content |>.entry entries key
  | some _ => fail .expectedKey
partial_fixpoint

/-- The entries of a dictionary to its end, behind these and a key. -/
def entry (content : Cursor) (entries : List (String × Operand α)) (key : String)
    : Scan (List (String × Operand α)) := do
  match ← content |>.nextToken with
  | none => fail .unterminatedEntry
  | some token =>
    let o ← value token
    content |>.dictionary (entries ++ [(key, o)])
partial_fixpoint

end

variable (α) in
/-- The header of an inline image, with the `ID` behind it. -/
def pastHeader (content : Cursor) : Scan Unit := do
  match ← content.nextToken (α := α) with
  | none => fail .unterminatedImage
  | some (.word text) => if text = "ID" then pure () else content |>.pastHeader
  | some _ => content |>.pastHeader
partial_fixpoint

/-- Whether the cursor stands at the beginning or behind a blank. -/
def behindBlank (content : Cursor) : Scan Bool := do
  let pos ← get
  if pos = 0 then return true else return isBlank (← byteAt content (pos - 1))

/-- Whether the mark that ends the data of an inline image stands at the cursor. -/
def atDataEnd (content : Cursor) : Scan Bool := do
  let bytes ← content.slice (← get) content.length
  if [0x45, 0x49].isPrefixOf bytes then
    let free ← content.behindBlank
    let next ← content.peekAt 2
    return free && next.all fun b => isBlank b || isDelimiter b
  else return false

def pastData (content : Cursor) : Scan Unit := do
  if (← get) < content.length then
    if ← content.atDataEnd then content.advance 2
    else
      content.advance 1
      content |>.pastData
  else pure ()
partial_fixpoint

/-- The data of an inline image; one blank separates it from `ID`. -/
def pastImageData (content : Cursor) : Scan Unit := do
  if (← content.peek).any isBlank then content.advance 1
  content.pastData

variable (α) in
/-- An inline image behind its `BI`. -/
def pastImage (content : Cursor) : Scan Unit := do
  pastHeader α content
  content.pastImageData

/-- The operators to the end, behind these and some operands of the next. -/
def operatorsFrom (content : Cursor) (operators : List (Operator α))
    (operands : List (Operand α))
    : Scan (List (Operator α)) := do
  match ← content.nextToken (α := α) with
  | none => return operators
  | some (.operand o) => content |>.operatorsFrom operators (operands ++ [o])
  | some (.word text) =>
    match Reader.constant? (α := α) text with
    | some o => content |>.operatorsFrom operators (operands ++ [o])
    | none =>
      if text = "BI" then
        pastImage α content
        content |>.operatorsFrom operators []
      else content |>.operatorsFrom (operators ++ [Operator.mk text operands]) []
  | some .arrayEnd => fail .arrayEndOutside
  | some .dictionaryEnd => fail .dictionaryEndOutside
partial_fixpoint

/-- The operators of a content stream, if the cursor comes to an end. -/
def tokenize (content : Cursor) : Option (Except Stop (List (Operator α))) :=
  ((content.operatorsFrom [] []).run' 0).run

end Cursor
end Galley.Content
