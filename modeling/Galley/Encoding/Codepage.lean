import Galley.Encoding.Utf8

/-!
Character sets with one byte per character, and the reading of one UTF-16 unit.
-/

namespace Galley.Encoding

/-- The character with the value of the byte. -/
def latin1 (b : UInt8) : Char := Char.ofNat b.toNat

/-- Where Windows-1252 departs from Latin-1: the characters of the bytes `80` to `9F`. -/
def windows1252High : Array Nat := #[
  0x20AC, 0x81, 0x201A, 0x0192, 0x201E, 0x2026, 0x2020, 0x2021,
  0x02C6, 0x2030, 0x0160, 0x2039, 0x0152, 0x8D, 0x017D, 0x8F,
  0x90, 0x2018, 0x2019, 0x201C, 0x201D, 0x2022, 0x2013, 0x2014,
  0x02DC, 0x2122, 0x0161, 0x203A, 0x0153, 0x9D, 0x017E, 0x0178]

/-- The character of a byte in Windows-1252. -/
def windows1252 (b : UInt8) : Char :=
  if b < 0x80 then latin1 b
  else match windows1252High[b.toNat - 0x80]? with
    | some code => Char.ofNat code
    | none => latin1 b

/-- The character of a lone big-endian UTF-16 unit; half a surrogate pair is none. -/
def utf16Unit (high low : UInt8) : Char :=
  let unit := high.toNat * 256 + low.toNat
  if 0xD800 ≤ unit ∧ unit ≤ 0xDFFF then replacement else Char.ofNat unit

end Galley.Encoding
