import Galley.Proofs.Content.Operands
import Galley.Proofs.Content.Saving

/-!
This module contains the strings that an operator shows and the name of the font that is current
then. Both are told from the names and the operands of the operators, and a run agrees with them.
-/

namespace Galley.Content

variable {α : Type}

namespace Operand

/-- The bytes of a string, be it between parentheses or in hexadecimal digits. -/
def text? : Operand α → Option (List UInt8)
  | .literal bytes | .hex bytes => some bytes
  | _ => none

def isNumber : Operand α → Bool
  | .int _ | .real _ => true
  | _ => false

theorem bytes?_eq_text? (o : Operand α) : o.bytes? = o.text? := by
  cases o <;> rfl

theorem isSome_number? [Scalar α] (o : Operand α) : o.number?.isSome = o.isNumber := by
  cases o <;> rfl

end Operand

namespace Operator

/-- The strings that an operator shows, none if it lacks a usable operand. -/
def strings (op : Operator α) : List (List UInt8) :=
  match op.name, op.operands.reverse with
  | "Tj", text :: _ => text.text?.toList
  | "'", text :: _ => text.text?.toList
  | "\"", text :: charSpacing :: wordSpacing :: _ =>
    if wordSpacing.isNumber && charSpacing.isNumber then text.text?.toList else []
  | "TJ", .array items :: _ => items.filterMap Operand.text?
  | _, _ => []

theorem strings_of_ne {op : Operator α}
    (h : op.name ≠ "Tj" ∧ op.name ≠ "'" ∧ op.name ≠ "\"" ∧ op.name ≠ "TJ") : op.strings = [] := by
  obtain ⟨htext, hline, hspaced, harray⟩ := h
  unfold strings
  split
  . next hname _ => exact absurd hname htext
  . next hname _ => exact absurd hname hline
  . next hname _ => exact absurd hname hspaced
  . next hname _ => exact absurd hname harray
  . rfl

/-- The name of the font that an operator selects. -/
def selected? (op : Operator α) : Option String :=
  match op.name, op.operands.reverse with
  | "Tf", size :: .name name :: _ => if size.isNumber then some name else none
  | _, _ => none

end Operator

/-- The name of the current font, and those that are saved, latest first. -/
structure FontNames where
  current : String := ""
  saved : List String := []

/-- The names behind an operator. -/
def FontNames.after (names : FontNames) (op : Operator α) : FontNames :=
  match op.name, names.saved with
  | "q", saved => ⟨names.current, names.current :: saved⟩
  | "Q", latest :: saved => ⟨latest, saved⟩
  | _, saved => ⟨op.selected?.getD names.current, saved⟩

/-- The name of the font that is current when operator number `i` of a page is carried out. -/
def fontNameAt (ops : List (Operator α)) (i : Nat) : String :=
  ((ops.take i).foldl FontNames.after {}).current

def TextItem.bytes? : TextItem α → Option (List UInt8)
  | .text bytes => some bytes
  | .adjust _ => none

namespace Command

/-- The strings that a command shows. -/
def strings : Command α → List (List UInt8)
  | .showText bytes => [bytes]
  | .showTextArray items => items.filterMap TextItem.bytes?
  | .nextLineShowText bytes => [bytes]
  | .nextLineShowSpaced _ _ bytes => [bytes]
  | _ => []

/-- The name of the font that a command selects. -/
def selected? : Command α → Option String
  | .setFont name _ => some name
  | _ => none

theorem strings_withFound (found : Nat) (command : Command α)
    : (command.withFound found).strings = command.strings := by
  cases command <;> rfl

theorem selected?_withFound (found : Nat) (command : Command α)
    : (command.withFound found).selected? = command.selected? := by
  cases command <;> rfl

variable [Scalar α]

theorem strings_ofOperator_of_ne (op : Operator α)
    (h : op.name ≠ "Tj" ∧ op.name ≠ "'" ∧ op.name ≠ "\"" ∧ op.name ≠ "TJ")
    : (ofOperator op).strings = [] := by
  obtain ⟨htext, hline, hspaced, harray⟩ := h
  cases hcommand : ofOperator op with
  | showText => exact absurd (name_of_operatorName? hcommand rfl) htext
  | nextLineShowText => exact absurd (name_of_operatorName? hcommand rfl) hline
  | nextLineShowSpaced => exact absurd (name_of_operatorName? hcommand rfl) hspaced
  | showTextArray => exact absurd (name_of_operatorName? hcommand rfl) harray
  | _ => rfl

theorem selected?_ofOperator_of_ne (op : Operator α) (h : op.name ≠ "Tf")
    : (ofOperator op).selected? = none := by
  cases hcommand : ofOperator op with
  | setFont => exact absurd (name_of_operatorName? hcommand rfl) h
  | _ => rfl

section Reversed

variable (name : String) (last rest : List (Operand α)) (h : operandCount name ≤ last.length)
include h

/-- Only the operands that an operator takes matter to what it shows. -/
theorem strings_ofOperator_reverse
    : (ofOperator ⟨name, (last ++ rest).reverse⟩).strings
        =
      (ofOperator ⟨name, last.reverse⟩).strings := by
  rw [List.reverse_append, ofOperator_append name _ (by rwa [List.length_reverse]),
    strings_withFound]

theorem selected?_ofOperator_reverse
    : (ofOperator ⟨name, (last ++ rest).reverse⟩).selected?
        =
      (ofOperator ⟨name, last.reverse⟩).selected? := by
  rw [List.reverse_append, ofOperator_append name _ (by rwa [List.length_reverse]),
    selected?_withFound]

end Reversed

theorem strings_withSpacedText? (wordSpacing charSpacing text : Operand α) (found : Nat)
    : ((withSpacedText? [wordSpacing, charSpacing, text]).getD
        (.malformed "\"" "2 numbers and a string" found)).strings
        =
      if wordSpacing.isNumber && charSpacing.isNumber then text.text?.toList else [] := by
  have hlast : lastOf? 3 [wordSpacing, charSpacing, text] = some [wordSpacing, charSpacing, text] :=
    rfl
  unfold withSpacedText?
  rw [hlast, ← Operand.isSome_number?, ← Operand.isSome_number?, ← Operand.bytes?_eq_text?]
  dsimp only
  cases wordSpacing.number? with
  | none => rfl
  | some v =>
    cases charSpacing.number? with
    | none => rfl
    | some w => cases text.bytes? <;> rfl

theorem strings_withArray? (items : List (Operand α))
    : (items.filterMap TextItem.ofOperand?).filterMap TextItem.bytes?
        =
      items.filterMap Operand.text? := by
  rw [List.filterMap_filterMap]
  congr 1
  funext o
  cases o <;> rfl

end Command

namespace Operator

variable [Scalar α]

section Latest

-- the operands of an operator, the last one first
variable (latest : List (Operand α))

theorem strings_showText {name : String} (h : name = "Tj" ∨ name = "'")
    : (Command.ofOperator ⟨name, latest.reverse⟩).strings
        =
      (⟨name, latest.reverse⟩ : Operator α).strings := by
  unfold strings
  rw [List.reverse_reverse]
  cases latest with
  | nil => rcases h with rfl | rfl <;> rfl
  | cons text rest =>
    have hcount : operandCount name ≤ 1 := by
      rcases h with rfl | rfl
      . exact Nat.le_refl 1
      . exact Nat.le_refl 1
    apply (Command.strings_ofOperator_reverse name [text] rest hcount).trans
    rcases h with rfl | rfl <;> cases text <;> rfl

theorem strings_nextLineShowSpaced
    : (Command.ofOperator ⟨"\"", latest.reverse⟩).strings
        =
      (⟨"\"", latest.reverse⟩ : Operator α).strings := by
  unfold strings
  rw [List.reverse_reverse]
  match latest with
  | [] => rfl
  | [_] => rfl
  | [_, _] => rfl
  | text :: charSpacing :: wordSpacing :: rest =>
    have hlast := Command.strings_ofOperator_reverse "\"" [text, charSpacing, wordSpacing] rest
      (Nat.le_refl 3)
    apply hlast.trans
    apply Command.strings_withSpacedText?

theorem strings_showTextArray
    : (Command.ofOperator ⟨"TJ", latest.reverse⟩).strings
        =
      (⟨"TJ", latest.reverse⟩ : Operator α).strings := by
  unfold strings
  rw [List.reverse_reverse]
  cases latest with
  | nil => rfl
  | cons o rest =>
    apply (Command.strings_ofOperator_reverse "TJ" [o] rest (Nat.le_refl 1)).trans
    cases o with
    | array items => apply Command.strings_withArray?
    | _ => rfl

theorem selected?_setFont
    : (Command.ofOperator ⟨"Tf", latest.reverse⟩).selected?
        =
      (⟨"Tf", latest.reverse⟩ : Operator α).selected? := by
  unfold selected?
  rw [List.reverse_reverse]
  match latest with
  | [] => rfl
  | [_] => rfl
  | size :: o :: rest =>
    apply (Command.selected?_ofOperator_reverse "Tf" [size, o] rest (Nat.le_refl 2)).trans
    cases o with
    | name text => cases size <;> rfl
    | _ => rfl

end Latest

theorem strings_ofOperator (op : Operator α) : (Command.ofOperator op).strings = op.strings := by
  obtain ⟨name, operands⟩ := op
  rw [← operands.reverse_reverse]
  by_cases htext : name = "Tj" ∨ name = "'"
  . exact strings_showText _ htext
  by_cases hspaced : name = "\""
  . rw [hspaced]
    apply strings_nextLineShowSpaced
  by_cases harray : name = "TJ"
  . rw [harray]
    apply strings_showTextArray
  obtain ⟨hshow, hline⟩ := not_or.mp htext
  have hname : name ≠ "Tj" ∧ name ≠ "'" ∧ name ≠ "\"" ∧ name ≠ "TJ" :=
    ⟨hshow, hline, hspaced, harray⟩
  rw [Command.strings_ofOperator_of_ne _ hname, strings_of_ne hname]

theorem selected?_ofOperator (op : Operator α)
    : (Command.ofOperator op).selected? = op.selected? := by
  obtain ⟨name, operands⟩ := op
  rw [← operands.reverse_reverse]
  by_cases hname : name = "Tf"
  . rw [hname]
    apply selected?_setFont
  . rw [Command.selected?_ofOperator_of_ne _ hname]
    unfold selected?
    split
    . contradiction
    . rfl

end Operator

/-!
The names in a run.
-/

namespace RunState

section Text

variable (setting : Setting α) (index : Nat) (s : RunState α)

theorem text_resolveFont : (s.resolveFont setting index).2.1.text = s.text := by
  unfold resolveFont
  dsimp only
  split
  . rfl
  . split <;> rfl

theorem text_reportGuess (font : Font α) (code : UInt32)
    : (s.reportGuess font index code).1.text = s.text := by
  unfold reportGuess
  dsimp only
  split <;> rfl

end Text

section FontName

variable [Scalar α] (setting : Setting α) (index : Nat) (s : RunState α)

theorem fontName_showCode (font : Font α) (bytes : List UInt8)
    : (s.showCode setting font index bytes).1.text.fontName = s.text.fontName := by
  unfold showCode
  dsimp only
  rw [text_reportGuess]
  rfl

theorem fontName_showCodes (font : Font α) (codes : List (List UInt8))
    : (s.showCodes setting font index codes).1.text.fontName = s.text.fontName := by
  induction codes generalizing s with
  | nil => rfl
  | cons bytes rest ih =>
    simp only [showCodes]
    rw [ih, fontName_showCode]

theorem fontName_showString (bytes : List UInt8)
    : (s.showString setting index bytes).1.text.fontName = s.text.fontName := by
  unfold showString
  dsimp only
  rw [fontName_showCodes, text_resolveFont]

theorem fontName_adjust (amount : α)
    : (s.adjust setting amount).text.fontName = s.text.fontName := by
  unfold adjust
  dsimp only
  split <;> rfl

theorem fontName_showItems (items : List (TextItem α))
    : (s.showItems setting index items).1.text.fontName = s.text.fontName := by
  induction items generalizing s with
  | nil => rfl
  | cons item rest ih =>
    cases item with
    | adjust amount =>
      simp only [showItems]
      rw [ih, fontName_adjust]
    | text bytes =>
      simp only [showItems]
      rw [ih, fontName_showString]

/-- A command that restores nothing leaves the name that it selects, or else the name as it was. -/
theorem fontName_execute {command : Command α} (h : command.restores = false)
    : (s.execute setting index command).1.text.fontName
        =
      command.selected?.getD s.text.fontName := by
  cases command with
  | restore => contradiction
  | showText bytes => apply fontName_showString
  | showTextArray items => apply fontName_showItems
  | nextLineShowText bytes => apply fontName_showString
  | nextLineShowSpaced wordSpacing charSpacing bytes => apply fontName_showString
  | _ => rfl

end FontName

/-- The names that a run has come to. -/
def fontNames (s : RunState α) : FontNames :=
  ⟨s.text.fontName, s.graphics.saved.map fun saved => saved.text.fontName⟩

section Names

variable [Scalar α] (setting : Setting α) (index : Nat) (s : RunState α)

theorem fontNames_execute (op : Operator α)
    : (s.execute setting index (.ofOperator op)).1.fontNames = s.fontNames.after op := by
  unfold FontNames.after
  split
  . next hname =>
    have hsave : op.isSave = true := beq_iff_eq.mpr hname
    rw [Operator.ofOperator_of_isSave hsave]
    rfl
  . next latest saved hname hsaved =>
    have hrestore : op.isRestore = true := beq_iff_eq.mpr hname
    obtain ⟨state, rest, hstates, hlatest, hrest⟩ := List.map_eq_cons_iff.mp hsaved
    rw [Operator.ofOperator_of_isRestore hrestore, ← hlatest, ← hrest]
    unfold execute GraphicsState.restore?
    rw [hstates]
    rfl
  . next hsave hrestore =>
    rw [← op.selected?_ofOperator]
    cases hop : op.isRestore with
    | true =>
      have hnone : s.graphics.saved = [] := by
        cases hstates : s.graphics.saved with
        | nil => rfl
        | cons state rest =>
          have hsaved : s.fontNames.saved = state.text.fontName :: rest.map (·.text.fontName) := by
            unfold fontNames
            rw [hstates]
            rfl
          exact (hrestore _ _ (eq_of_beq hop) hsaved).elim
      rw [execute_of_saved_eq_nil setting index s op hop hnone,
        Operator.ofOperator_of_isRestore hop]
      rfl
    | false =>
      have hlocal := Operator.isLocal_ofOperator (beq_eq_false_iff_ne.mpr hsave) hop
      have hrestores := (restores_ofOperator op).trans hop
      unfold fontNames
      rw [fontName_execute setting index s hrestores,
        saved_execute_of_isLocal setting index s hlocal]

theorem fontNames_run (ops : List (Operator α))
    : (s.run setting index ops).1.fontNames = ops.foldl FontNames.after s.fontNames := by
  induction ops generalizing s index with
  | nil => rfl
  | cons op rest ih =>
    simp only [run]
    rw [ih, fontNames_execute]
    rfl

theorem fontName_stateAt (sheet : Sheet α) (ops : List (Operator α)) (i : Nat)
    : ((initial sheet).stateAt setting 0 ops i).text.fontName = fontNameAt ops i := by
  have hnames := fontNames_run setting 0 (initial sheet) (ops.take i)
  exact congrArg FontNames.current hnames

end Names
end RunState

end Galley.Content
