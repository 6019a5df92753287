import Galley.Unicode.GraphemeExtend
import Galley.Unicode.Printable

/-!
Text between quotes, with escapes for everything that would not show.
-/

namespace Galley.Unicode

/-- The digits of a number in lower-case hexadecimal. -/
def hexDigits (n : Nat) : String := String.ofList (Nat.toDigits 16 n)

/-- A character as it stands between quotes of the given kind. -/
def escapeChar (quote c : Char) : String :=
  if c = '\x00' then "\\0"
  else if c = '\t' then "\\t"
  else if c = '\n' then "\\n"
  else if c = '\r' then "\\r"
  else if c = '\\' then "\\\\"
  else if c = quote then String.ofList ['\\', quote]
  else if isGraphemeExtend c || isUnprintable c then "\\u\x7b" ++ hexDigits c.toNat ++ "\x7d"
  else c.toString

/-- The single quote. -/
def singleQuote : Char := Char.ofNat 0x27

/-- The double quote. -/
def doubleQuote : Char := Char.ofNat 0x22

/-- A character between single quotes. -/
def quotedChar (c : Char) : String :=
  singleQuote.toString ++ escapeChar singleQuote c ++ singleQuote.toString

/-- Text between double quotes. -/
def quotedText (text : String) : String :=
  doubleQuote.toString ++ String.join (text.toList.map (escapeChar doubleQuote)) ++
    doubleQuote.toString

end Galley.Unicode
