import Galley.Content.Operand
import Galley.Geometry.Transform

/-!
The operators that move or show text, with their operands. Operands are taken from the end of the
list, so stray ones in front do no harm; an operator that lacks a usable one is malformed as a
whole.
-/

namespace Galley.Content

/-- A member of a `TJ` array. -/
inductive TextItem (α : Type)
  | text (bytes : List UInt8)
  /-- A shift against the writing direction, in thousandths of the font size. -/
  | adjust (amount : α)
deriving Repr

/-- An operator by its meaning. -/
inductive Command (α : Type)
  | save
  | restore
  | concat (m : Transform α)
  | beginText
  | endText
  | setFont (name : String) (size : α)
  | setCharSpacing (v : α)
  | setWordSpacing (v : α)
  | setHorizontalScale (v : α)
  | setLeading (v : α)
  | setRise (v : α)
  | setRenderMode (mode : Int)
  | moveText (tx ty : α)
  | moveTextSetLeading (tx ty : α)
  | setTextMatrix (m : Transform α)
  | nextLine
  | showText (bytes : List UInt8)
  | showTextArray (items : List (TextItem α))
  | nextLineShowText (bytes : List UInt8)
  | nextLineShowSpaced (wordSpacing charSpacing : α) (bytes : List UInt8)
  /-- An operator that does not concern text. -/
  | other (name : String)
  | malformed (name expected : String) (found : Nat)
deriving Repr

variable {α : Type} [Scalar α]

namespace Operand

def number? : Operand α → Option α
  | .int value => some (Scalar.ofInt value)
  | .real value => some value
  | _ => none

omit [Scalar α] in
def name? : Operand α → Option String
  | .name text => some text
  | _ => none

omit [Scalar α] in
/-- The bytes of a string in either notation. -/
def bytes? : Operand α → Option (List UInt8)
  | .literal bytes => some bytes
  | .hex bytes => some bytes
  | _ => none

omit [Scalar α] in
def array? : Operand α → Option (List (Operand α))
  | .array items => some items
  | _ => none

end Operand

/-- The last `n` members of a list, if it has so many. -/
def lastOf? {β : Type} (n : Nat) (l : List β) : Option (List β) :=
  if n ≤ l.length then some (l.drop (l.length - n)) else none

/-- The last `n` operands as numbers. -/
def lastNumbers? (n : Nat) (operands : List (Operand α)) : Option (List α) :=
  (lastOf? n operands).bind fun l => l.mapM Operand.number?

namespace TextItem

/-- A string or a number; other members of the array mean nothing. -/
def ofOperand? (o : Operand α) : Option (TextItem α) :=
  match o.bytes? with
  | some bytes => some (.text bytes)
  | none => o.number?.map .adjust

end TextItem

namespace Command

def withNumber? (make : α → Command α) (operands : List (Operand α)) : Option (Command α) :=
  match lastNumbers? 1 operands with
  | some [v] => some (make v)
  | _ => none

def withTwoNumbers? (make : α → α → Command α) (operands : List (Operand α)) :
    Option (Command α) :=
  match lastNumbers? 2 operands with
  | some [v, w] => some (make v w)
  | _ => none

def withTransform? (make : Transform α → Command α) (operands : List (Operand α)) :
    Option (Command α) :=
  match lastNumbers? 6 operands with
  | some [a, b, c, d, e, f] => some (make ⟨a, b, c, d, e, f⟩)
  | _ => none

omit [Scalar α] in
def withBytes? (make : List UInt8 → Command α) (operands : List (Operand α)) :
    Option (Command α) :=
  (operands.getLast?.bind Operand.bytes?).map make

def withFont? (operands : List (Operand α)) : Option (Command α) :=
  match lastOf? 2 operands with
  | some [font, size] =>
    match font.name?, size.number? with
    | some name, some size => some (.setFont name size)
    | _, _ => none
  | _ => none

def withSpacedText? (operands : List (Operand α)) : Option (Command α) :=
  match lastOf? 3 operands with
  | some [wordSpacing, charSpacing, text] =>
    match wordSpacing.number?, charSpacing.number?, text.bytes? with
    | some wordSpacing, some charSpacing, some bytes =>
      some (.nextLineShowSpaced wordSpacing charSpacing bytes)
    | _, _, _ => none
  | _ => none

def withArray? (operands : List (Operand α)) : Option (Command α) :=
  (operands.getLast?.bind Operand.array?).map fun items =>
    .showTextArray (items.filterMap TextItem.ofOperand?)

/-- What an operator that takes operands expects, in words, and how it reads them. -/
def reader? (name : String) : Option (String × (List (Operand α) → Option (Command α))) :=
  match name with
  | "q" => some ("", fun _ => some .save)
  | "Q" => some ("", fun _ => some .restore)
  | "BT" => some ("", fun _ => some .beginText)
  | "ET" => some ("", fun _ => some .endText)
  | "T*" => some ("", fun _ => some .nextLine)
  | "cm" => some ("6 numbers", withTransform? .concat)
  | "Tm" => some ("6 numbers", withTransform? .setTextMatrix)
  | "Tc" => some ("a number", withNumber? .setCharSpacing)
  | "Tw" => some ("a number", withNumber? .setWordSpacing)
  | "Tz" => some ("a number", withNumber? .setHorizontalScale)
  | "TL" => some ("a number", withNumber? .setLeading)
  | "Ts" => some ("a number", withNumber? .setRise)
  | "Tr" => some ("a number", withNumber? fun v => .setRenderMode (Scalar.toInt64 v))
  | "Td" => some ("2 numbers", withTwoNumbers? .moveText)
  | "TD" => some ("2 numbers", withTwoNumbers? .moveTextSetLeading)
  | "Tf" => some ("a font name and a size", withFont?)
  | "Tj" => some ("a string", withBytes? .showText)
  | "'" => some ("a string", withBytes? .nextLineShowText)
  | "\"" => some ("2 numbers and a string", withSpacedText?)
  | "TJ" => some ("an array", withArray?)
  | _ => none

/-- The meaning of an operator. -/
def ofOperator (op : Operator α) : Command α :=
  match reader? op.name with
  | none => .other op.name
  | some (expected, read) =>
    (read op.operands).getD (.malformed op.name expected op.operands.length)

omit [Scalar α] in
/-- Whether the operator shows text. -/
def showsText : Command α → Bool
  | .showText _ | .showTextArray _ | .nextLineShowText _ | .nextLineShowSpaced .. => true
  | _ => false

end Command
end Galley.Content
