import Galley.Content.Run

/-!
This module contains what a run reports besides glyphs: each kind of warning comes from its own
operators, and where an operator stands among the others is in its warnings alone.
-/

namespace Galley.Content

variable {α : Type} [Scalar α]

section

omit [Scalar α]

def Event.warningOf? (code : WarningCode) : Event α → Option Warning
  | .warning w => if w.code = code then some w else none
  | _ => none

/-- The warnings of one kind, in order. -/
def warningsIn (code : WarningCode) (events : List (Event α)) : List Warning :=
  events.filterMap (Event.warningOf? code)

/-- The event with another number for the operator that it concerns. -/
def Event.renumber (f : Nat → Nat) : Event α → Event α
  | .warning w => .warning { w with operatorIndex := w.operatorIndex.map f }
  | e => e

@[simp]
theorem warningsIn_nil (code : WarningCode) : warningsIn code ([] : List (Event α)) = [] := by
  rfl

@[simp]
theorem warningsIn_append (code : WarningCode) (events later : List (Event α))
    : warningsIn code (events ++ later) = warningsIn code events ++ warningsIn code later := by
  unfold warningsIn
  apply List.filterMap_append

@[simp]
theorem warningsIn_warning (code : WarningCode) (w : Warning)
    : warningsIn code [(.warning w : Event α)] = if w.code = code then [w] else [] := by
  simp only [warningsIn, Event.warningOf?, List.filterMap_cons, List.filterMap_nil]
  split
  . next h =>
    split at h
    . contradiction
    . next hcode => rw [if_neg hcode]
  . next h =>
    split at h
    . next hcode =>
      injection h with h
      rw [if_pos hcode, h]
    . contradiction

@[simp]
theorem warningsIn_map_glyph (code : WarningCode) (glyphs : List (Glyph α))
    : warningsIn code (glyphs.map Event.glyph) = [] := by
  unfold warningsIn
  rw [List.filterMap_map]
  apply List.filterMap_eq_nil_iff.mpr
  intro g _
  rfl

/-- The warning that a malformed operator calls for. -/
def Command.malformed? (index : Nat) : Command α → Option Warning
  | .malformed name expected found => some (.malformedOperator index name expected found)
  | _ => none

def Command.restores : Command α → Bool
  | .restore => true
  | _ => false

theorem renumber_renumber (f g : Nat → Nat) (e : Event α)
    : (e.renumber g).renumber f = e.renumber (f ∘ g) := by
  cases e with
  | warning w => simp [Event.renumber]
  | _ => rfl

theorem map_renumber_map_glyph (f : Nat → Nat) (glyphs : List (Glyph α))
    : (glyphs.map Event.glyph).map (Event.renumber f) = glyphs.map Event.glyph := by
  rw [List.map_map]
  rfl

end

namespace RunState

omit [Scalar α] in
/-- An outcome with other numbers for the operators that its warnings concern. -/
def renumbered (f : Nat → Nat) (outcome : RunState α × List (Event α)) :
    RunState α × List (Event α) :=
  (outcome.1, outcome.2.map (Event.renumber f))

section Numbering

variable (setting : Setting α) (f : Nat → Nat) (index : Nat) (s : RunState α)

omit [Scalar α] in
theorem resolveFont_renumber
    : s.resolveFont setting (f index) =
        ((s.resolveFont setting index).1,
          renumbered f (s.resolveFont setting index).2) := by
  unfold resolveFont renumbered
  dsimp only
  split
  . rfl
  . split <;> rfl

omit [Scalar α] in
theorem reportGuess_renumber (font : Font α) (code : UInt32)
    : s.reportGuess font (f index) code = renumbered f (s.reportGuess font index code) := by
  unfold reportGuess renumbered
  dsimp only
  split <;> rfl

theorem showCode_renumber (font : Font α) (bytes : List UInt8)
    : s.showCode setting font (f index) bytes =
        renumbered f (s.showCode setting font index bytes) := by
  unfold showCode
  dsimp only
  rw [reportGuess_renumber f index]
  unfold renumbered
  simp only [List.map_append, map_renumber_map_glyph]

theorem showCodes_renumber (font : Font α) (codes : List (List UInt8))
    : s.showCodes setting font (f index) codes =
        renumbered f (s.showCodes setting font index codes) := by
  induction codes generalizing s with
  | nil => rfl
  | cons code rest ih =>
    simp only [showCodes]
    rw [showCode_renumber setting f index]
    simp only [renumbered] at ih ⊢
    rw [ih, List.map_append]

theorem showString_renumber (bytes : List UInt8)
    : s.showString setting (f index) bytes = renumbered f (s.showString setting index bytes) := by
  unfold showString
  rw [resolveFont_renumber setting f index]
  simp only [renumbered]
  rw [showCodes_renumber setting f index]
  simp only [renumbered, List.map_append]

theorem showItems_renumber (items : List (TextItem α))
    : s.showItems setting (f index) items = renumbered f (s.showItems setting index items) := by
  induction items generalizing s with
  | nil => rfl
  | cons item rest ih =>
    cases item with
    | adjust amount =>
      simp only [showItems]
      apply ih
    | text bytes =>
      simp only [showItems]
      rw [showString_renumber setting f index]
      simp only [renumbered] at ih ⊢
      rw [ih, List.map_append]

theorem execute_renumber (command : Command α)
    : s.execute setting (f index) command = renumbered f (s.execute setting index command) := by
  cases command with
  | showText bytes => apply showString_renumber
  | showTextArray items => apply showItems_renumber
  | nextLineShowText bytes => apply showString_renumber
  | nextLineShowSpaced wordSpacing charSpacing bytes => apply showString_renumber
  | restore =>
    unfold execute
    dsimp only
    split <;> rfl
  | _ => rfl

theorem run_shift (k : Nat) (ops : List (Operator α))
    : s.run setting (index + k) ops = renumbered (· + k) (s.run setting index ops) := by
  induction ops generalizing s index with
  | nil => rfl
  | cons op rest ih =>
    have hrest := ih (index + 1) (s.execute setting index (.ofOperator op)).1
    have hop := execute_renumber setting (· + k) index s (.ofOperator op)
    simp only [run]
    rw [hop]
    simp only [renumbered] at hrest ⊢
    rw [Nat.add_right_comm, hrest, List.map_append]

end Numbering

section Kinds

variable (setting : Setting α) (index : Nat) (s : RunState α) {code : WarningCode}

section Showing

variable (hmissing : WarningCode.missingFont ≠ code)
variable (hguessed : WarningCode.encodingFallback ≠ code)

omit [Scalar α] in
include hmissing in
theorem warningsIn_resolveFont : warningsIn code (s.resolveFont setting index).2.2 = [] := by
  unfold resolveFont
  dsimp only
  split
  . rfl
  . split
    . rfl
    . rw [warningsIn_warning]
      apply if_neg hmissing

omit [Scalar α] in
include hguessed in
theorem warningsIn_reportGuess (font : Font α) (shown : UInt32)
    : warningsIn code (s.reportGuess font index shown).2 = [] := by
  unfold reportGuess
  dsimp only
  split
  . rfl
  . rw [warningsIn_warning]
    apply if_neg hguessed

include hguessed in
theorem warningsIn_showCodes (font : Font α) (codes : List (List UInt8))
    : warningsIn code (s.showCodes setting font index codes).2 = [] := by
  induction codes generalizing s with
  | nil => rfl
  | cons bytes rest ih =>
    simp only [showCodes, showCode]
    rw [warningsIn_append, warningsIn_append, warningsIn_map_glyph,
      warningsIn_reportGuess index s hguessed, ih]
    rfl

include hmissing hguessed

theorem warningsIn_showString (bytes : List UInt8)
    : warningsIn code (s.showString setting index bytes).2 = [] := by
  unfold showString
  dsimp only
  rw [warningsIn_append, warningsIn_resolveFont setting index s hmissing,
    warningsIn_showCodes setting index _ hguessed]
  rfl

theorem warningsIn_showItems (items : List (TextItem α))
    : warningsIn code (s.showItems setting index items).2 = [] := by
  induction items generalizing s with
  | nil => rfl
  | cons item rest ih =>
    cases item with
    | adjust amount => apply ih
    | text bytes =>
      simp only [showItems]
      rw [warningsIn_append, warningsIn_showString setting index s hmissing hguessed, ih]
      rfl

end Showing

theorem warningsIn_malformedOperator_execute (command : Command α)
    : warningsIn .malformedOperator (s.execute setting index command).2 =
        (command.malformed? index).toList := by
  cases command with
  | showText bytes => apply warningsIn_showString <;> decide
  | showTextArray items => apply warningsIn_showItems <;> decide
  | nextLineShowText bytes => apply warningsIn_showString <;> decide
  | nextLineShowSpaced wordSpacing charSpacing bytes => apply warningsIn_showString <;> decide
  | restore =>
    unfold execute
    dsimp only
    split <;> rfl
  | _ => rfl

theorem warningsIn_unbalancedRestore_execute (command : Command α)
    : warningsIn .unbalancedRestore (s.execute setting index command).2 =
        if command.restores && s.graphics.saved.isEmpty then [.unbalancedRestore index]
        else [] := by
  cases command with
  | showText bytes => apply warningsIn_showString <;> decide
  | showTextArray items => apply warningsIn_showItems <;> decide
  | nextLineShowText bytes => apply warningsIn_showString <;> decide
  | nextLineShowSpaced wordSpacing charSpacing bytes => apply warningsIn_showString <;> decide
  | restore =>
    unfold execute GraphicsState.restore?
    dsimp only
    cases s.graphics.saved <;> rfl
  | _ => rfl

end Kinds

section Runs

variable (setting : Setting α) (index : Nat) (s : RunState α)

/-- The state in which a run carries out operator number `i` of these. -/
def stateAt (ops : List (Operator α)) (i : Nat) : RunState α :=
  (s.run setting index (ops.take i)).1

theorem run_append (ops more : List (Operator α))
    : s.run setting index (ops ++ more) =
        (((s.run setting index ops).1.run setting (index + ops.length) more).1,
          (s.run setting index ops).2 ++
            ((s.run setting index ops).1.run setting (index + ops.length) more).2) := by
  induction ops generalizing s index with
  | nil => rfl
  | cons op rest ih =>
    simp only [List.cons_append, run, List.length_cons]
    rw [ih]
    simp only [List.append_assoc]
    rw [Nat.add_right_comm, Nat.add_assoc index]

theorem stateAt_succ {ops : List (Operator α)} {i : Nat} {op : Operator α}
    (h : ops[i]? = some op)
    : s.stateAt setting index ops (i + 1) =
        ((s.stateAt setting index ops i).execute setting (index + (ops.take i).length)
          (.ofOperator op)).1 := by
  unfold stateAt
  rw [List.take_add_one, h, run_append]
  rfl

end Runs

end RunState

end Galley.Content
