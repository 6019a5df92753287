import Galley.Content.Lexeme

/-!
From bytes to operators. Lexemes are fed one at a time to a reader that keeps the collections still
open on a stack, so nesting of any depth is read by one loop over the bytes.
-/

namespace Galley.Content

/-- A collection whose end has not been read; its members are latest first. -/
inductive Opened (α : Type)
  | array (items : List (Operand α))
  /-- `key` is the name whose value is to follow. -/
  | dictionary (entries : List (String × Operand α)) (key : Option String)
deriving Repr

/-- What has been read so far, latest first everywhere. -/
structure Reader (α : Type) where
  operators : List (Operator α)
  /-- The operands that wait for their operator. -/
  operands : List (Operand α)
  /-- Between `BI` and `ID`. -/
  inImage : Bool
  opened : List (Opened α)
deriving Repr

namespace Reader

variable {α : Type}

def empty : Reader α := ⟨[], [], false, []⟩

/-- Hand a complete value to the innermost open collection, or else to the operands. -/
def deliver (r : Reader α) (o : Operand α) : Except Cause (Reader α) :=
  match r.opened with
  | [] => .ok (if r.inImage then r else { r with operands := o :: r.operands })
  | .array items :: outer => .ok { r with opened := .array (o :: items) :: outer }
  | .dictionary entries (some key) :: outer =>
    .ok { r with opened := .dictionary ((key, o) :: entries) none :: outer }
  | .dictionary entries none :: outer =>
    match o with
    | .name key => .ok { r with opened := .dictionary entries (some key) :: outer }
    | _ => .error .expectedKey

/-- The constant that a word stands for. -/
def constant? (text : String) : Option (Operand α) :=
  match text with
  | "true" => some (.bool true)
  | "false" => some (.bool false)
  | "null" => some .null
  | _ => none

/-- Whether the word is where the data of an inline image begins. -/
def beginsImageData (r : Reader α) (text : String) : Bool :=
  r.inImage && r.opened.isEmpty && text == "ID"

/--
Read a word: a constant, a name inside a collection, or an operator. Inside the header of an inline
image words mean nothing.
-/
def word (r : Reader α) (text : String) : Except Cause (Reader α) :=
  match r.opened with
  | .dictionary _ none :: _ => .error .expectedKey
  | _ :: _ => r.deliver ((constant? text).getD (.name text))
  | [] =>
    if r.inImage then .ok r
    else
      match constant? text with
      | some o => r.deliver o
      | none =>
        if text = "BI" then .ok { r with inImage := true }
        else .ok { r with operators := ⟨text, r.operands.reverse⟩ :: r.operators, operands := [] }

/-- Read the end of an array. -/
def closeArray (r : Reader α) : Except Cause (Reader α) :=
  match r.opened with
  | [] => if r.inImage then .ok r else .error .arrayEndOutside
  | .array items :: outer => { r with opened := outer }.deliver (.array items.reverse)
  | .dictionary _ (some _) :: _ => .error .unexpectedArrayEnd
  | .dictionary _ none :: _ => .error .expectedKey

/-- Read the end of a dictionary. -/
def closeDictionary (r : Reader α) : Except Cause (Reader α) :=
  match r.opened with
  | [] => if r.inImage then .ok r else .error .dictionaryEndOutside
  | .array _ :: _ => .error .unexpectedDictionaryEnd
  | .dictionary _ (some _) :: _ => .error .unexpectedDictionaryEnd
  | .dictionary entries none :: outer =>
    { r with opened := outer }.deliver (.dictionary entries.reverse)

/-- Read one lexeme. -/
def accept (r : Reader α) : Lexeme α → Except Cause (Reader α)
  | .atom o => r.deliver o
  | .word text => r.word text
  | .arrayOpen => .ok { r with opened := .array [] :: r.opened }
  | .arrayClose => r.closeArray
  | .dictionaryOpen => .ok { r with opened := .dictionary [] none :: r.opened }
  | .dictionaryClose => r.closeDictionary

/-- The operators read, once the bytes have ended. Operands without an operator are dropped. -/
def finish (r : Reader α) : Except Cause (List (Operator α)) :=
  match r.opened with
  | .array _ :: _ => .error .unterminatedArray
  | .dictionary _ (some _) :: _ => .error .unterminatedEntry
  | .dictionary _ none :: _ => .error .unterminatedDictionary
  | [] => if r.inImage then .error .unterminatedImage else .ok r.operators.reverse

/-- The reader behind the data of an inline image, which leaves nothing behind. -/
def leaveImage (r : Reader α) : Reader α := { r with inImage := false, operands := [] }

end Reader

/-- Whether the bytes behind `E` complete the mark that ends the data of an inline image. -/
def endsImageData : List UInt8 → Bool
  | i :: rest =>
    i == 0x49 && (match rest with
      | [] => true
      | b :: _ => isBlank b || isDelimiter b)
  | [] => false

/--
The bytes behind the data of an inline image: behind the first `EI` that stands between a blank and
a blank, a delimiter or the end. Without one the data takes all that is left.
-/
def skipImageData (afterBlank : Bool) : List UInt8 → List UInt8
  | [] => []
  | b :: rest =>
    if afterBlank && b == 0x45 && endsImageData rest then rest.tail
    else skipImageData (isBlank b) rest

/-- The bytes behind `ID` and its image data. One blank separates the two. -/
def afterImageData (bytes : List UInt8) : List UInt8 :=
  match bytes with
  | b :: rest => if isBlank b then skipImageData true rest else skipImageData false bytes
  | [] => []

theorem length_skipImageData_le (afterBlank : Bool) (l : List UInt8) :
    (skipImageData afterBlank l).length ≤ l.length := by
  induction l generalizing afterBlank with
  | nil => simp [skipImageData]
  | cons b rest ih =>
    simp only [skipImageData]
    split
    · simp only [List.length_tail, List.length_cons]
      omega
    · exact Nat.le_succ_of_le (ih _)

theorem length_afterImageData_le (l : List UInt8) : (afterImageData l).length ≤ l.length := by
  unfold afterImageData
  split
  · split
    · exact Nat.le_succ_of_le (length_skipImageData_le _ _)
    · exact length_skipImageData_le _ _
  · exact Nat.le_refl _

variable {α : Type} [Scalar α]

/-- Read bytes to their end. -/
def Reader.run (r : Reader α) (bytes : List UInt8) : Except Halt (List (Operator α)) :=
  match h : nextLexeme (α := α) bytes with
  | .error halt => .error halt
  | .ok none => r.finish.mapError (⟨·, 0⟩)
  | .ok (some (x, rest)) =>
    have := length_nextLexeme_lt h
    match x with
    | .word text =>
      if r.beginsImageData text then
        have := length_afterImageData_le rest
        r.leaveImage.run (afterImageData rest)
      else
        match r.accept x with
        | .ok next => next.run rest
        | .error cause => .error ⟨cause, rest.length⟩
    | _ =>
      match r.accept x with
      | .ok next => next.run rest
      | .error cause => .error ⟨cause, rest.length⟩
termination_by bytes.length

/-- The operators that the bytes of a content stream spell. -/
def tokenize (bytes : List UInt8) : Except Fault (List (Operator α)) :=
  (Reader.empty.run bytes).mapError fun halt => ⟨halt.cause, bytes.length - halt.unread⟩

end Galley.Content
