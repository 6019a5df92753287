/-!
Reading bytes as UTF-8 without ever failing: each longest piece that cannot be part of a valid
sequence reads as one replacement character.
-/

namespace Galley.Encoding

/-- U+FFFD, which stands for bytes that spell no character. -/
def replacement : Char := Char.ofNat 0xFFFD

namespace Utf8

/-- A sequence under way: its bits so far, how many bytes are missing, and the range of the next. -/
structure Partial where
  bits : Nat
  missing : Nat
  low : UInt8
  high : UInt8
deriving DecidableEq, Repr

/-- What a byte outside any sequence begins. -/
inductive Lead
  | char (c : Char)
  | sequence (p : Partial)
  | invalid
deriving DecidableEq, Repr

/-- Classify the first byte of a sequence. The ranges exclude overlong forms and surrogates. -/
def lead (b : UInt8) : Lead :=
  if b < 0x80 then .char (Char.ofNat b.toNat)
  else if b < 0xC2 then .invalid
  else if b < 0xE0 then .sequence ⟨b.toNat - 0xC0, 1, 0x80, 0xBF⟩
  else if b = 0xE0 then .sequence ⟨0, 2, 0xA0, 0xBF⟩
  else if b = 0xED then .sequence ⟨0xD, 2, 0x80, 0x9F⟩
  else if b < 0xF0 then .sequence ⟨b.toNat - 0xE0, 2, 0x80, 0xBF⟩
  else if b = 0xF0 then .sequence ⟨0, 3, 0x90, 0xBF⟩
  else if b < 0xF4 then .sequence ⟨b.toNat - 0xF0, 3, 0x80, 0xBF⟩
  else if b = 0xF4 then .sequence ⟨4, 3, 0x80, 0x8F⟩
  else .invalid

/-- Read a byte outside any sequence: the characters it completes and the sequence it opens. -/
def start (b : UInt8) : List Char × Option Partial :=
  match lead b with
  | .char c => ([c], none)
  | .sequence p => ([], some p)
  | .invalid => ([replacement], none)

/-- Read one byte. A byte that does not continue the open sequence abandons it and starts anew. -/
def step (state : Option Partial) (b : UInt8) : List Char × Option Partial :=
  match state with
  | none => start b
  | some p =>
    if p.low ≤ b ∧ b ≤ p.high then
      let bits := p.bits * 64 + (b.toNat - 0x80)
      if p.missing ≤ 1 then ([Char.ofNat bits], none)
      else ([], some ⟨bits, p.missing - 1, 0x80, 0xBF⟩)
    else
      let (chars, next) := start b
      (replacement :: chars, next)

/-- The characters that bytes spell, with replacements for what is malformed. -/
def decodeLossy (bytes : List UInt8) : List Char := go none bytes
where
  go : Option Partial → List UInt8 → List Char
    | none, [] => []
    | some _, [] => [replacement]
    | state, b :: rest =>
      let (chars, next) := step state b
      chars ++ go next rest

end Utf8

/-- The text that bytes spell in UTF-8, with replacements for what is malformed. -/
def lossyText (bytes : List UInt8) : String := String.ofList (Utf8.decodeLossy bytes)

end Galley.Encoding
