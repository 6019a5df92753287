/-!
Warnings: what was skipped or guessed while a page was read.
-/

namespace Galley

/-- The kinds of warnings. -/
inductive WarningCode
  | missingFont
  | malformedOperator
  | unbalancedRestore
  | resourceLimitReached
  | encodingFallback
deriving DecidableEq, Repr, Inhabited

namespace WarningCode

/-- The tag under which a kind of warning is reported. -/
def tag : WarningCode → String
  | missingFont => "MISSING_FONT"
  | malformedOperator => "MALFORMED_OPERATOR"
  | unbalancedRestore => "UNBALANCED_RESTORE"
  | resourceLimitReached => "RESOURCE_LIMIT_REACHED"
  | encodingFallback => "ENCODING_FALLBACK"

end WarningCode

/-- A warning, with the operator and the font that it concerns. -/
structure Warning where
  code : WarningCode
  description : String
  operatorIndex : Option Nat := none
  font : Option String := none
deriving DecidableEq, Repr, Inhabited

namespace Warning

/-- The warning in one line. -/
def display (w : Warning) : String :=
  "[" ++ w.code.tag ++ "] " ++ w.description ++
    (match w.font with
      | some font => " [font " ++ font ++ "]"
      | none => "") ++
    (match w.operatorIndex with
      | some index => " [operator #" ++ toString index ++ "]"
      | none => "")

/-- A `Q` with nothing to restore. -/
def unbalancedRestore (index : Nat) : Warning where
  code := .unbalancedRestore
  description := "Q without matching q; ignored"
  operatorIndex := some index

/-- An operator whose operands cannot be used. -/
def malformedOperator (index : Nat) (name expected : String) (found : Nat) : Warning where
  code := .malformedOperator
  description := s!"{name} expects {expected}, got {found} operand(s); skipped"
  operatorIndex := some index

/-- Text shown in a font that is not known. -/
def missingFont (index : Nat) (name : String) : Warning where
  code := .missingFont
  description := s!"font '{name}' not found; using byte decoding and estimated widths"
  operatorIndex := some index
  font := some name

/-- At least four hexadecimal digits. -/
def paddedHex (n : Nat) : String :=
  let digits := Nat.toDigits 16 n
  String.ofList (List.replicate (4 - digits.length) '0' ++ digits)

/-- A code whose text had to be guessed. -/
def encodingFallback (index : Nat) (name : String) (code : UInt32) : Warning where
  code := .encodingFallback
  description :=
    "font '" ++ name ++ "' has no Unicode mapping for code 0x" ++ paddedHex code.toNat
  operatorIndex := some index
  font := some name

/-- More tiny glyphs than are let through. -/
def tinyGlyphs (limit : Nat) : Warning where
  code := .resourceLimitReached
  description := s!"more than {limit} tiny glyphs on page; further tiny glyphs dropped"

end Warning
end Galley
