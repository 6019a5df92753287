import Galley.Unicode.Quoted

/-!
What can be wrong with the bytes of a content stream.
-/

namespace Galley.Content

/-- The causes for which a content stream is refused. -/
inductive Cause
  | arrayEndOutside
  | dictionaryEndOutside
  | unexpectedArrayEnd
  | unexpectedDictionaryEnd
  | unterminatedArray
  | unterminatedDictionary
  | expectedKey
  | unterminatedEntry
  | unterminatedLiteral
  | unterminatedEscape
  | unterminatedHex
  | invalidHexDigit (byte : UInt8)
  | invalidInteger (digits : String)
  | unterminatedImage
deriving DecidableEq, Repr

/-- The cause in words. -/
def Cause.message : Cause → String
  | .arrayEndOutside => "unexpected ']' outside array"
  | .dictionaryEndOutside => "unexpected '>>' outside dictionary"
  | .unexpectedArrayEnd => "unexpected ']'"
  | .unexpectedDictionaryEnd => "unexpected '>>'"
  | .unterminatedArray => "unterminated array"
  | .unterminatedDictionary => "unterminated dictionary"
  | .expectedKey => "expected name key in dictionary"
  | .unterminatedEntry => "unterminated dictionary value"
  | .unterminatedLiteral => "unterminated literal string"
  | .unterminatedEscape => "unterminated escape in literal string"
  | .unterminatedHex => "unterminated hex string"
  | .invalidHexDigit byte =>
    "invalid hex digit " ++ Unicode.quotedChar (Char.ofNat byte.toNat)
  | .invalidInteger digits => "invalid integer " ++ Unicode.quotedText digits
  | .unterminatedImage => "unterminated inline image (missing ID)"

/-- A cause and the number of bytes read when it was found. -/
structure Fault where
  cause : Cause
  offset : Nat
deriving DecidableEq, Repr

namespace Fault

def message (f : Fault) : String := f.cause.message ++ " at byte " ++ toString f.offset

/-- A reason as the reader of content streams reports it. -/
def describe (reason : String) : String := "content stream parse error: " ++ reason

def report (f : Fault) : String := describe f.message

end Fault

/-- A cause and the number of bytes left unread when it was found. -/
structure Halt where
  cause : Cause
  unread : Nat
deriving DecidableEq, Repr

end Galley.Content
