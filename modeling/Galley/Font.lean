import Galley.Encoding.Codepage
import Galley.Scalar
import Galley.Unicode.Quoted

/-!
Fonts as text placement sees them: what text a code stands for and how wide it is drawn.
-/

namespace Galley

/-- What is known of a font. -/
structure Font (α : Type) where
  name : String
  /-- The text of one code, given by its bytes. -/
  decode : List UInt8 → String
  /-- The width of a code in thousandths of the font size. -/
  width? : UInt32 → Option α
  /-- Whether a code takes two bytes. -/
  isTwoByte : Bool
  /-- Whether glyphs stand below one another. -/
  isVertical : Bool
  /-- Whether the text of a code is known and not guessed. -/
  isMapped : UInt32 → Bool

/--
The code that bytes spell, the first byte highest. Of more than four bytes the last four count.
-/
def codeOfBytes (bytes : List UInt8) : UInt32 :=
  bytes.foldl (fun code b => (code <<< 8) ||| b.toUInt32) 0

/-- Cut a shown string into the bytes of its codes; an odd byte at the end is a code of its own. -/
def splitCodes (isTwoByte : Bool) : List UInt8 → List (List UInt8)
  | [] => []
  | [b] => [[b]]
  | b :: c :: rest =>
    if isTwoByte then [b, c] :: splitCodes true rest else [b] :: splitCodes false (c :: rest)

/-- A font given by tables. -/
structure FontTables (α : Type) where
  name : String
  /-- The code of the first of `widths`. -/
  firstCode : UInt32 := 0
  widths : Array α := #[]
  /-- Widths that take precedence; of two for one code the earlier counts. -/
  overrides : List (UInt32 × α) := []
  /-- The width of all other codes. -/
  missingWidth : Option α := none
  /-- The text of codes; of two for one code the earlier counts. -/
  texts : List (UInt32 × String) := []
  isTwoByte : Bool := false
  isVertical : Bool := false

namespace FontTables

variable {α : Type}

/-- The text of a code. Without an entry, bytes read as Windows-1252 and pairs as UTF-16. -/
def decode (t : FontTables α) (bytes : List UInt8) : String :=
  match t.texts.lookup (codeOfBytes bytes) with
  | some text => text
  | none =>
    match t.isTwoByte, bytes with
    | true, [high, low] => (Encoding.utf16Unit high low).toString
    | _, _ => String.ofList (bytes.map Encoding.windows1252)

def width? (t : FontTables α) (code : UInt32) : Option α :=
  match t.overrides.lookup code with
  | some w => some w
  | none =>
    if t.firstCode ≤ code then
      t.widths[code.toNat - t.firstCode.toNat]? <|> t.missingWidth
    else t.missingWidth

def isMapped (t : FontTables α) (code : UInt32) : Bool :=
  !t.isTwoByte || (t.texts.lookup code).isSome

/-- The font that the tables describe. -/
def font (t : FontTables α) : Font α where
  name := t.name
  decode := t.decode
  width? := t.width?
  isTwoByte := t.isTwoByte
  isVertical := t.isVertical
  isMapped := t.isMapped

end FontTables

/-- What stands in for a font that is not known: each byte is a character, and no width is known. -/
def Font.substitute {α : Type} (name : String) : Font α where
  name := name
  decode bytes := String.ofList (bytes.map Encoding.latin1)
  width? _ := none
  isTwoByte := false
  isVertical := false
  isMapped _ := true

/-- The fonts of a page by the names that its content uses. -/
structure FontBook (α : Type) where
  entries : List (String × Font α)

namespace FontBook

variable {α : Type}

def empty : FontBook α := ⟨[]⟩

/-- Add a font, in place of any other of that name. -/
def insert (book : FontBook α) (name : String) (font : Font α) : FontBook α :=
  ⟨(name, font) :: book.entries.filter (·.1 != name)⟩

def get? (book : FontBook α) (name : String) : Option (Font α) := book.entries.lookup name

def contains (book : FontBook α) (name : String) : Bool := (book.get? name).isSome

def size (book : FontBook α) : Nat := book.entries.length

/-- The names in increasing order. -/
def names (book : FontBook α) : List String :=
  (book.entries.map (·.1)).mergeSort (fun a b => decide (a ≤ b))

/-- The names in one line. -/
def describe (book : FontBook α) : String :=
  "FontMap \x7b fonts: [" ++ ", ".intercalate (book.names.map Unicode.quotedText) ++ "] \x7d"

end FontBook
end Galley
