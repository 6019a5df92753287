import Galley.Proofs.Content.GuessReport
import Galley.Proofs.Content.Operands
import Galley.Proofs.Content.Scanning
import Galley.Proofs.Encoding.Lossy

/-!
This module contains the way from the bytes of a name to the font that it selects: names that spell
different bytes differ, but for malformed bytes, and a font that is registered under another name
than the selected one is never used.
-/

namespace Galley

theorem lookup_filter_of_ne {α : Type} {name other : String} (h : name ≠ other)
    (entries : List (String × α))
    : (entries.filter (·.1 != other)).lookup name = entries.lookup name := by
  induction entries with
  | nil => rfl
  | cons entry entries ih =>
    rcases entry with ⟨key, value⟩
    by_cases hkey : key = other
    . subst hkey
      rw [List.lookup_cons, beq_false_of_ne h]
      simpa using ih
    . have hkept : (key != other) = true := bne_iff_ne.mpr hkey
      rw [List.filter_cons_of_pos (by exact hkept), List.lookup_cons, List.lookup_cons, ih]

theorem FontBook.get?_insert_of_ne {α : Type} {name other : String} (h : name ≠ other)
    (book : FontBook α) (font : Font α)
    : (book.insert other font).get? name = book.get? name := by
  unfold FontBook.insert FontBook.get?
  rw [List.lookup_cons, beq_false_of_ne h]
  exact lookup_filter_of_ne h book.entries

namespace Content

open Encoding

variable {α : Type} [Scalar α]

omit [Scalar α] in
/-- Whether the current font stays the same. -/
def Command.keepsFont : Command α → Bool
  | .setFont .. | .restore => false
  | _ => true

namespace RunState

/-!
A run looks a font up by the current name only.
-/

section

variable {setting other : Setting α} (hform : other.form = setting.form) (index : Nat)
  {s : RunState α} (hfont : other.fonts.get? s.text.fontName = setting.fonts.get? s.text.fontName)

omit [Scalar α] in
include hfont in
theorem resolveFont_congr : s.resolveFont other index = s.resolveFont setting index := by
  unfold resolveFont
  dsimp only
  rw [hfont]

include hfont in
theorem adjust_congr (amount : α) : s.adjust other amount = s.adjust setting amount := by
  unfold adjust
  dsimp only
  rw [hfont]

include hform in
theorem showCodes_congr (font : Font α) (codes : List (List UInt8))
    : s.showCodes other font index codes = s.showCodes setting font index codes := by
  induction codes generalizing s with
  | nil => rfl
  | cons bytes rest ih =>
    simp only [showCodes, showCode, hform, ih]

include hform hfont in
theorem showString_congr (bytes : List UInt8)
    : s.showString other index bytes = s.showString setting index bytes := by
  unfold showString
  dsimp only
  rw [resolveFont_congr index hfont, showCodes_congr hform]

include hform hfont in
theorem showItems_congr (items : List (TextItem α))
    : s.showItems other index items = s.showItems setting index items := by
  induction items generalizing s with
  | nil => rfl
  | cons item rest ih =>
    cases item with
    | adjust amount =>
      simp only [showItems]
      rw [adjust_congr hfont, ih]
      rw [fontName_adjust]
      exact hfont
    | text bytes =>
      simp only [showItems]
      rw [showString_congr hform index hfont, ih]
      rw [fontName_showString]
      exact hfont

include hform hfont in
theorem execute_congr (command : Command α)
    : s.execute other index command = s.execute setting index command := by
  cases command with
  | showText bytes => exact showString_congr hform index hfont bytes
  | showTextArray items => exact showItems_congr hform index hfont items
  | nextLineShowText bytes =>
    exact showString_congr hform index (s := s.withText s.text.nextLine) hfont bytes
  | nextLineShowSpaced wordSpacing charSpacing bytes =>
    let text := { s.text with wordSpacing := wordSpacing, charSpacing := charSpacing }
    exact showString_congr hform index (s := s.withText text.nextLine) hfont bytes
  | _ => rfl

end

theorem fontName_execute_of_keepsFont {command : Command α} (h : command.keepsFont = true)
    (setting : Setting α) (index : Nat) (s : RunState α)
    : (s.execute setting index command).1.text.fontName = s.text.fontName := by
  have hlocal : command.restores = false ∧ command.selected? = none := by
    cases command with
    | setFont | restore => contradiction
    | _ => exact ⟨rfl, rfl⟩
  rw [fontName_execute setting index s hlocal.1, hlocal.2, Option.getD_none]

/-- As long as the current name is kept, only the font of that name matters. -/
theorem run_congr (setting other : Setting α) (hform : other.form = setting.form) (index : Nat)
    {s : RunState α}
    (hfont : other.fonts.get? s.text.fontName = setting.fonts.get? s.text.fontName)
    {ops : List (Operator α)} (hops : ∀ op ∈ ops, (Command.ofOperator op).keepsFont = true)
    : s.run other index ops = s.run setting index ops := by
  induction ops generalizing s index with
  | nil => rfl
  | cons op rest ih =>
    rw [List.forall_mem_cons] at hops
    have hname := fontName_execute_of_keepsFont hops.1 setting index s
    simp only [run]
    rw [execute_congr hform index hfont, ih _ (by rw [hname]; exact hfont) hops.2]

end RunState

/-!
Names.
-/

theorem nextLexeme_name {bytes spelled rest : List UInt8} (h : SpellsName bytes spelled)
    (hrest : Ends rest)
    : nextLexeme (α := α) (0x2F :: (spelled ++ rest))
        =
      .ok (some (.atom (.name (lossyText bytes)), rest)) := by
  have hskip : skipFiller false (0x2F :: (spelled ++ rest)) = 0x2F :: (spelled ++ rest) := rfl
  unfold nextLexeme
  rw [hskip]
  dsimp only
  rw [scanLexeme_name h hrest]
  rfl

variable (α) in
/--
From a `Tf` with the first name to the next change of the font, everything runs as if no font were
registered under the second name.
-/
def NeverSelects (name other : String) : Prop :=
  ∀ (setting : Setting α) (font : Font α) (s : RunState α) (index : Nat)
    (stray : List (Operand α)) (size : Operand α) (later : List (Operator α)),
    size.number?.isSome = true → (∀ op ∈ later, (Command.ofOperator op).keepsFont = true) →
      let tf : Operator α := ⟨"Tf", stray ++ [.name name, size]⟩
      s.run { setting with fonts := setting.fonts.insert other font } index (tf :: later)
        =
      s.run setting index (tf :: later)

theorem ofOperator_selectFont {name : String} {size : Operand α} {value : α}
    (hsize : size.number? = some value) (stray : List (Operand α))
    : Command.ofOperator ⟨"Tf", stray ++ [.name name, size]⟩ = .setFont name value := by
  have hcount : operandCount "Tf" ≤ [Operand.name name, size].length := Nat.le_refl 2
  have hread : Command.ofOperator ⟨"Tf", [.name name, size]⟩ = .setFont name value := by
    simp [Command.ofOperator, Command.reader?, Command.withFont?, lastOf?, Operand.name?, hsize]
  rw [Command.ofOperator_append "Tf" stray hcount, hread]
  rfl

theorem neverSelects_of_ne {name other : String} (h : name ≠ other)
    : NeverSelects α name other := by
  intro setting font s index stray size later hsize hlater
  rcases Option.isSome_iff_exists.mp hsize with ⟨value, hvalue⟩
  have hget := FontBook.get?_insert_of_ne h setting.fonts font
  simp only [RunState.run]
  rw [ofOperator_selectFont hvalue]
  dsimp only [RunState.execute]
  rw [RunState.run_congr setting { setting with fonts := setting.fonts.insert other font } rfl _
    hget hlater]

/--
The names that spell two different byte strings differ and select their fonts apart, unless one of
the strings is malformed and both spell the replacement character.
-/
theorem names_keep_identity {s t a b : List UInt8} (hs : SpellsName s a) (ht : SpellsName t b)
    (hne : s ≠ t)
    (htext : (IsUtf8 s ∧ IsUtf8 t) ∨ replacement ∉ (lossyText s).toList ∨
      replacement ∉ (lossyText t).toList)
    : ∃ name other,
        (∀ rest, Ends rest →
          nextLexeme (α := α) (0x2F :: (a ++ rest)) = .ok (some (.atom (.name name), rest))) ∧
        (∀ rest, Ends rest →
          nextLexeme (α := α) (0x2F :: (b ++ rest)) = .ok (some (.atom (.name other), rest))) ∧
        name ≠ other ∧ NeverSelects α name other ∧ NeverSelects α other name := by
  have hnames := lossyText_ne hne htext
  refine ⟨lossyText s, lossyText t, ?_, ?_, hnames, ?_, ?_⟩
  . intro rest hrest
    exact nextLexeme_name hs hrest
  . intro rest hrest
    exact nextLexeme_name ht hrest
  . exact neverSelects_of_ne hnames
  . exact neverSelects_of_ne hnames.symm

/-- One of the two names is malformed, and the other does not spell a replacement. -/
theorem names_keep_identity_loneByte
    : SpellsName [0x46] [0x46] ∧ SpellsName [0x80] [0x23, 0x38, 0x30] ∧
        [(0x46 : UInt8)] ≠ [0x80] ∧ replacement ∉ (lossyText [0x46]).toList ∧
        ∃ name other,
          (∀ rest, Ends rest →
            nextLexeme (α := Float) (0x2F :: ([0x46] ++ rest))
              =
            .ok (some (.atom (.name name), rest))) ∧
          (∀ rest, Ends rest →
            nextLexeme (α := Float) (0x2F :: ([0x23, 0x38, 0x30] ++ rest))
              =
            .ok (some (.atom (.name other), rest))) ∧
          name ≠ other ∧ NeverSelects Float name other ∧ NeverSelects Float other name := by
  have hs : SpellsName [0x46] [0x46] := .raw rfl (by decide) .nil
  have ht : SpellsName [0x80] [0x23, 0x38, 0x30] := .escaped false false .nil
  have hne : [(0x46 : UInt8)] ≠ [0x80] := by decide
  have htext : replacement ∉ (lossyText [0x46]).toList := by decide
  exact ⟨hs, ht, hne, htext, names_keep_identity hs ht hne (.inr (.inl htext))⟩

/-- Two bytes that begin nothing spell the same name. -/
theorem loneBytes_collide
    : SpellsName [0x80] [0x23, 0x38, 0x30] ∧ SpellsName [0x81] [0x23, 0x38, 0x31] ∧
        [(0x80 : UInt8)] ≠ [0x81] ∧
        nextLexeme (α := Float) [0x2F, 0x23, 0x38, 0x30]
          =
        .ok (some (.atom (.name "\uFFFD"), [])) ∧
        nextLexeme (α := Float) [0x2F, 0x23, 0x38, 0x31]
          =
        .ok (some (.atom (.name "\uFFFD"), [])) := by
  have hs : SpellsName [0x80] [0x23, 0x38, 0x30] := .escaped false false .nil
  have ht : SpellsName [0x81] [0x23, 0x38, 0x31] := .escaped false false .nil
  have hends : Ends [] := Ends.of_trail .nil
  exact ⟨hs, ht, by decide, nextLexeme_name hs hends, nextLexeme_name ht hends⟩

end Content
end Galley
