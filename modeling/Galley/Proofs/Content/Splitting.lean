import Mathlib.Algebra.Group.Nat.Even
import Galley.Binary64
import Galley.Proofs.Content.FontReport

/-!
This module shows that it makes no difference where shown text is cut into strings: cuts between
codes leave no trace in the glyphs, the warnings and the state of a run.
-/

namespace Galley

theorem splitCodes_false (bytes : List UInt8)
    : splitCodes false bytes = bytes.map fun b => [b] := by
  induction bytes with
  | nil => rfl
  | cons b rest ih =>
    cases rest with
    | nil => rfl
    | cons c rest =>
      rw [splitCodes, if_neg (by decide), ih]
      rfl

theorem splitCodes_true_append {bytes : List UInt8} (h : Even bytes.length) (more : List UInt8)
    : splitCodes true (bytes ++ more) = splitCodes true bytes ++ splitCodes true more := by
  induction bytes using List.twoStepInduction with
  | nil => rfl
  | singleton b => simp at h
  | cons_cons b c rest ih _ =>
    have hrest : Even rest.length := by
      rw [List.length_cons, List.length_cons, Nat.even_add_one, Nat.even_add_one, not_not] at h
      exact h
    simp only [List.cons_append, splitCodes, if_true]
    rw [ih hrest]

/-- A string falls into the codes of its parts if no code lies across the cut. -/
theorem splitCodes_append {isTwoByte : Bool} {bytes : List UInt8}
    (h : isTwoByte = false ∨ Even bytes.length) (more : List UInt8)
    : splitCodes isTwoByte (bytes ++ more)
        =
      splitCodes isTwoByte bytes ++ splitCodes isTwoByte more := by
  cases isTwoByte with
  | true => exact splitCodes_true_append (h.resolve_left (by decide)) more
  | false => simp only [splitCodes_false, List.map_append]

namespace Content

variable {α : Type} [Scalar α]

namespace RunState

omit [Scalar α] in
/-- The font in which text is shown. -/
def currentFont (setting : Setting α) (s : RunState α) : Font α :=
  (setting.fonts.get? s.text.fontName).getD (.substitute s.text.fontName)

section Strings

variable (setting : Setting α) (index : Nat) (s : RunState α)

omit [Scalar α] in
theorem fst_resolveFont : (s.resolveFont setting index).1 = s.currentFont setting := by
  unfold resolveFont currentFont
  dsimp only
  split
  . next font hfont => rw [hfont, Option.getD_some]
  . next hfont => split <;> rw [hfont, Option.getD_none]

omit [Scalar α] in
theorem resolveFont_of_unreported? (h : s.unreported? setting = none)
    : s.resolveFont setting index = (s.currentFont setting, s, []) := by
  rw [← fst_resolveFont setting index]
  unfold resolveFont
  dsimp only
  split
  . rfl
  . next hfont =>
    have hmissing : s.missing.contains s.text.fontName = true := by
      simpa [unreported?, hfont] using h
    rw [if_pos hmissing]

theorem currentFont_showString (bytes : List UInt8)
    : (s.showString setting index bytes).1.currentFont setting = s.currentFont setting := by
  unfold currentFont
  rw [fontName_showString]

theorem showCodes_append (font : Font α) (codes later : List (List UInt8))
    : s.showCodes setting font index (codes ++ later)
        =
      (((s.showCodes setting font index codes).1.showCodes setting font index later).1,
        (s.showCodes setting font index codes).2 ++
          ((s.showCodes setting font index codes).1.showCodes setting font index later).2) := by
  induction codes generalizing s with
  | nil => rfl
  | cons code rest ih =>
    simp only [List.cons_append, showCodes]
    rw [ih]
    simp only [List.append_assoc]

/-- Behind the first string the font has been reported, so only codes are left to show. -/
theorem showString_append {bytes : List UInt8}
    (h : (s.currentFont setting).isTwoByte = false ∨ Even bytes.length) (more : List UInt8)
    : s.showString setting index (bytes ++ more)
        =
      (((s.showString setting index bytes).1.showString setting index more).1,
        (s.showString setting index bytes).2 ++
          ((s.showString setting index bytes).1.showString setting index more).2) := by
  have hmore
      : (s.showString setting index bytes).1.resolveFont setting index
          =
        (s.currentFont setting, (s.showString setting index bytes).1, []) := by
    rw [resolveFont_of_unreported? _ _ _ (unreported?_showString setting index bytes)]
    rw [currentFont_showString]
  generalize hfirst : s.showString setting index bytes = first at hmore
  unfold showString at hfirst ⊢
  dsimp only at hfirst ⊢
  rw [fst_resolveFont] at hfirst ⊢
  rw [splitCodes_append h, showCodes_append, hmore, ← hfirst]
  simp only [List.nil_append, List.append_assoc]

/-- Strings that are shown one after the other, none of which ends within a code but the last. -/
theorem showItems_map_text {strings : List (List UInt8)} (hne : strings ≠ [])
    (hcut : (s.currentFont setting).isTwoByte = false ∨
      ∀ bytes ∈ strings.dropLast, Even bytes.length)
    : s.showItems setting index (strings.map .text)
        =
      s.showString setting index strings.flatten := by
  induction strings generalizing s with
  | nil => contradiction
  | cons bytes rest ih =>
    cases rest with
    | nil => simp [showItems]
    | cons next later =>
      have hbytes : (s.currentFont setting).isTwoByte = false ∨ Even bytes.length :=
        hcut.imp_right fun h => h bytes (by simp)
      have hrest := ih (s.showString setting index bytes).1 (by simp) <| by
        rw [currentFont_showString]
        exact hcut.imp_right fun h l hl => h l (by simp_all)
      rw [List.flatten_cons, showString_append _ _ _ hbytes, ← hrest]
      rfl

end Strings

end RunState

/-- An array of strings is read as these strings. -/
theorem ofOperator_strings {operands : List (Operand α)} {strings : List (List UInt8)}
    (h : operands.map Operand.bytes? = strings.map some)
    : Command.ofOperator ⟨"TJ", [.array operands]⟩ = .showTextArray (strings.map .text) := by
  have hitems : operands.filterMap TextItem.ofOperand? = strings.map .text := by
    induction operands generalizing strings with
    | nil =>
      rw [List.map_nil, List.nil_eq, List.map_eq_nil_iff] at h
      rw [h]
      rfl
    | cons o rest ih =>
      obtain ⟨bytes, later, hstrings, ho, hrest⟩ := List.map_eq_cons_iff.mp h.symm
      rw [hstrings, List.map_cons, ← ih hrest.symm]
      simp only [List.filterMap_cons, TextItem.ofOperand?, ← ho]
  rw [← hitems]
  rfl

namespace RunState

theorem execute_cut_strings (setting : Setting α) (index : Nat) (s : RunState α)
    {strings : List (List UInt8)} (hne : strings ≠ [])
    (hcut : (s.currentFont setting).isTwoByte = false ∨
      ∀ bytes ∈ strings.dropLast, Even bytes.length)
    {operands : List (Operand α)} (hoperands : operands.map Operand.bytes? = strings.map some)
    {whole : Operand α} (hwhole : whole.bytes? = some strings.flatten)
    : s.execute setting index (.ofOperator ⟨"TJ", [.array operands]⟩)
        =
      s.execute setting index (.ofOperator ⟨"Tj", [whole]⟩) := by
  have hshow : Command.ofOperator ⟨"Tj", [whole]⟩ = .showText strings.flatten := by
    simp [Command.ofOperator, Command.reader?, Command.withBytes?, hwhole]
  rw [ofOperator_strings hoperands, hshow]
  exact showItems_map_text setting index s hne hcut

/-- A font of two-byte codes with a ligature, which knows the text of no other code. -/
def ligatured : FontTables Float where
  name := "Ligatured"
  texts := [(0x41, "fi")]
  isTwoByte := true

theorem execute_cut_strings_ligatured
    : let setting : Setting Float := ⟨⟨[("F1", ligatured.font)]⟩, .none⟩
      let s : RunState Float :=
        (initial ⟨612.0, 792.0, 0⟩).withText (TextState.initial.setFont "F1" 10.0)
      let strings : List (List UInt8) := [[0x00, 0x41, 0x26, 0x42], [], [0x00, 0x41, 0x43]]
      let parts : List (Operand Float) := strings.map .literal
      let whole : Operand Float := .hex strings.flatten
      (s.currentFont setting).isTwoByte = true ∧
        (∀ bytes ∈ strings.dropLast, Even bytes.length) ∧
          s.execute setting 7 (.ofOperator ⟨"TJ", [.array parts]⟩)
              =
            s.execute setting 7 (.ofOperator ⟨"Tj", [whole]⟩) ∧
          (s.execute setting 7 (.ofOperator ⟨"Tj", [whole]⟩)).1.emitted = 6 := by
  intro setting s strings parts whole
  have heven : ∀ bytes ∈ strings.dropLast, Even bytes.length := by decide
  refine ⟨rfl, heven, ?_, by decide +kernel⟩
  exact execute_cut_strings setting 7 s (by decide) (.inr heven) rfl rfl

end RunState
end Content
end Galley
