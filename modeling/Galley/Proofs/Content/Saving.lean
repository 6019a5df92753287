import Galley.Binary64
import Galley.Proofs.Content.Report

/-!
This module contains the discipline of `q` and `Q`: how many states are saved after a run, which `Q`
finds none, and that a balanced run between the two hands back the state that was saved.
-/

namespace Galley.Content

variable {α : Type} [Scalar α]

namespace Command

omit [Scalar α] in
/-- Whether a command leaves the saved states alone. -/
def isLocal : Command α → Bool
  | .save | .restore => false
  | _ => true

omit [Scalar α] in
/-- The operator whose well-formed operands a command has. -/
def operatorName? : Command α → Option String
  | .save => some "q"
  | .restore => some "Q"
  | .beginText => some "BT"
  | .endText => some "ET"
  | .nextLine => some "T*"
  | .concat _ => some "cm"
  | .setTextMatrix _ => some "Tm"
  | .setCharSpacing _ => some "Tc"
  | .setWordSpacing _ => some "Tw"
  | .setHorizontalScale _ => some "Tz"
  | .setLeading _ => some "TL"
  | .setRise _ => some "Ts"
  | .setRenderMode _ => some "Tr"
  | .moveText .. => some "Td"
  | .moveTextSetLeading .. => some "TD"
  | .setFont .. => some "Tf"
  | .showText _ => some "Tj"
  | .nextLineShowText _ => some "'"
  | .nextLineShowSpaced .. => some "\""
  | .showTextArray _ => some "TJ"
  | .other _ | .malformed .. => none

section Readers

variable {operands : List (Operand α)} {command : Command α}

theorem exists_of_withNumber? {make : α → Command α}
    (h : withNumber? make operands = some command) : ∃ v, make v = command := by
  unfold withNumber? at h
  split at h
  . exact ⟨_, Option.some_inj.mp h⟩
  . contradiction

theorem exists_of_withTwoNumbers? {make : α → α → Command α}
    (h : withTwoNumbers? make operands = some command) : ∃ v w, make v w = command := by
  unfold withTwoNumbers? at h
  split at h
  . exact ⟨_, _, Option.some_inj.mp h⟩
  . contradiction

theorem exists_of_withTransform? {make : Transform α → Command α}
    (h : withTransform? make operands = some command) : ∃ m, make m = command := by
  unfold withTransform? at h
  split at h
  . exact ⟨_, Option.some_inj.mp h⟩
  . contradiction

omit [Scalar α] in
theorem exists_of_withBytes? {make : List UInt8 → Command α}
    (h : withBytes? make operands = some command) : ∃ bytes, make bytes = command := by
  unfold withBytes? at h
  rw [Option.map_eq_some_iff] at h
  obtain ⟨bytes, _, hmake⟩ := h
  exact ⟨bytes, hmake⟩

theorem exists_of_withFont? (h : withFont? operands = some command)
    : ∃ name size, .setFont name size = command := by
  unfold withFont? at h
  split at h
  . split at h
    . exact ⟨_, _, Option.some_inj.mp h⟩
    . contradiction
  . contradiction

theorem exists_of_withSpacedText? (h : withSpacedText? operands = some command)
    : ∃ wordSpacing charSpacing bytes,
        .nextLineShowSpaced wordSpacing charSpacing bytes = command := by
  unfold withSpacedText? at h
  split at h
  . split at h
    . exact ⟨_, _, _, Option.some_inj.mp h⟩
    . contradiction
  . contradiction

theorem exists_of_withArray? (h : withArray? operands = some command)
    : ∃ items, .showTextArray items = command := by
  unfold withArray? at h
  rw [Option.map_eq_some_iff] at h
  obtain ⟨items, _, hitems⟩ := h
  exact ⟨_, hitems⟩

theorem operatorName?_of_reader? {name expected : String}
    {read : List (Operand α) → Option (Command α)} (h : reader? name = some (expected, read))
    (hread : read operands = some command) : command.operatorName? = some name := by
  unfold reader? at h
  split at h
  all_goals
    simp only [Option.some.injEq, Prod.mk.injEq, reduceCtorEq] at h
  all_goals
    obtain ⟨rfl, rfl⟩ := h
  case h_1 | h_2 | h_3 | h_4 | h_5 =>
    rw [← Option.some_inj.mp hread]
    rfl
  case h_6 | h_7 =>
    obtain ⟨m, rfl⟩ := exists_of_withTransform? hread
    rfl
  case h_8 | h_9 | h_10 | h_11 | h_12 | h_13 =>
    obtain ⟨v, rfl⟩ := exists_of_withNumber? hread
    rfl
  case h_14 | h_15 =>
    obtain ⟨v, w, rfl⟩ := exists_of_withTwoNumbers? hread
    rfl
  case h_16 =>
    obtain ⟨name, size, rfl⟩ := exists_of_withFont? hread
    rfl
  case h_17 | h_18 =>
    obtain ⟨bytes, rfl⟩ := exists_of_withBytes? hread
    rfl
  case h_19 =>
    obtain ⟨wordSpacing, charSpacing, bytes, rfl⟩ := exists_of_withSpacedText? hread
    rfl
  case h_20 =>
    obtain ⟨items, rfl⟩ := exists_of_withArray? hread
    rfl

theorem name_of_operatorName? {op : Operator α} {name : String} (h : ofOperator op = command)
    (hname : command.operatorName? = some name) : op.name = name := by
  subst h
  unfold ofOperator at hname
  split at hname
  . contradiction
  . next expected read hreader =>
    cases hread : read op.operands with
    | none =>
      rw [hread] at hname
      contradiction
    | some command =>
      rw [hread, Option.getD_some, operatorName?_of_reader? hreader hread] at hname
      exact Option.some_inj.mp hname

end Readers
end Command

namespace Operator

omit [Scalar α] in
def isSave (op : Operator α) : Bool := op.name == "q"

omit [Scalar α] in
def isRestore (op : Operator α) : Bool := op.name == "Q"

variable {op : Operator α}

theorem ofOperator_of_isSave (h : op.isSave = true) : Command.ofOperator op = .save := by
  obtain ⟨name, operands⟩ := op
  have hname : name = "q" := eq_of_beq h
  rw [hname]
  rfl

theorem ofOperator_of_isRestore (h : op.isRestore = true) : Command.ofOperator op = .restore := by
  obtain ⟨name, operands⟩ := op
  have hname : name = "Q" := eq_of_beq h
  rw [hname]
  rfl

theorem isLocal_ofOperator (hsave : op.isSave = false) (hrestore : op.isRestore = false)
    : (Command.ofOperator op).isLocal = true := by
  cases h : Command.ofOperator op with
  | save => exact absurd (Command.name_of_operatorName? h rfl) (ne_of_beq_false hsave)
  | restore => exact absurd (Command.name_of_operatorName? h rfl) (ne_of_beq_false hrestore)
  | _ => rfl

end Operator

namespace RunState

section Graphics

variable (setting : Setting α) (index : Nat) (s : RunState α)

omit [Scalar α] in
theorem graphics_resolveFont : (s.resolveFont setting index).2.1.graphics = s.graphics := by
  unfold resolveFont
  dsimp only
  split
  . rfl
  . split <;> rfl

omit [Scalar α] in
theorem graphics_reportGuess (font : Font α) (code : UInt32)
    : (s.reportGuess font index code).1.graphics = s.graphics := by
  unfold reportGuess
  dsimp only
  split <;> rfl

theorem graphics_adjust (amount : α) : (s.adjust setting amount).graphics = s.graphics := by
  unfold adjust
  dsimp only
  split <;> rfl

theorem graphics_showCodes (font : Font α) (codes : List (List UInt8))
    : (s.showCodes setting font index codes).1.graphics = s.graphics := by
  induction codes generalizing s with
  | nil => rfl
  | cons bytes rest ih =>
    simp only [showCodes, showCode]
    rw [ih]
    apply graphics_reportGuess

theorem graphics_showString (bytes : List UInt8)
    : (s.showString setting index bytes).1.graphics = s.graphics := by
  unfold showString
  dsimp only
  rw [graphics_showCodes, graphics_resolveFont]

theorem graphics_showItems (items : List (TextItem α))
    : (s.showItems setting index items).1.graphics = s.graphics := by
  induction items generalizing s with
  | nil => rfl
  | cons item rest ih =>
    cases item with
    | adjust amount =>
      rw [showItems, ih, graphics_adjust]
    | text bytes =>
      simp only [showItems]
      rw [ih, graphics_showString]

theorem saved_execute_of_isLocal {command : Command α} (h : command.isLocal = true)
    : (s.execute setting index command).1.graphics.saved = s.graphics.saved := by
  cases command with
  | save => contradiction
  | restore => contradiction
  | showText bytes => simp only [execute, graphics_showString]
  | showTextArray items => simp only [execute, graphics_showItems]
  | nextLineShowText bytes =>
    simp only [execute, graphics_showString]
    rfl
  | nextLineShowSpaced wordSpacing charSpacing bytes =>
    simp only [execute, graphics_showString]
    rfl
  | _ => rfl

end Graphics

section Saved

variable (setting : Setting α) (index : Nat) (s : RunState α) (op : Operator α)

theorem saved_execute_cases
    : (op.isSave = true ∧ op.isRestore = false ∧
        (s.execute setting index (.ofOperator op)).1.graphics.saved =
          ⟨s.graphics.matrix, s.text.toTextParameters⟩ :: s.graphics.saved) ∨
      (op.isSave = false ∧ op.isRestore = true ∧
        (s.execute setting index (.ofOperator op)).1.graphics.saved = s.graphics.saved.tail) ∨
      (op.isSave = false ∧ op.isRestore = false ∧
        (s.execute setting index (.ofOperator op)).1.graphics.saved = s.graphics.saved) := by
  cases hsave : op.isSave with
  | true =>
    have hname : op.name = "q" := eq_of_beq hsave
    have hrestore : op.isRestore = false := by
      unfold Operator.isRestore
      rw [hname]
      rfl
    rw [Operator.ofOperator_of_isSave hsave]
    exact .inl ⟨rfl, hrestore, rfl⟩
  | false =>
    cases hrestore : op.isRestore with
    | true =>
      rw [Operator.ofOperator_of_isRestore hrestore]
      refine .inr (.inl ⟨rfl, rfl, ?_⟩)
      unfold execute GraphicsState.restore?
      dsimp only
      cases hsaved : s.graphics.saved with
      | nil => exact hsaved
      | cons latest rest => rfl
    | false =>
      have hlocal := Operator.isLocal_ofOperator hsave hrestore
      exact .inr (.inr ⟨rfl, rfl, saved_execute_of_isLocal setting index s hlocal⟩)

theorem restores_ofOperator : (Command.ofOperator op).restores = op.isRestore := by
  cases hrestore : op.isRestore with
  | true =>
    rw [Operator.ofOperator_of_isRestore hrestore]
    rfl
  | false =>
    cases hsave : op.isSave with
    | true =>
      rw [Operator.ofOperator_of_isSave hsave]
      rfl
    | false =>
      have hlocal := Operator.isLocal_ofOperator hsave hrestore
      cases hcommand : Command.ofOperator op with
      | restore =>
        rw [hcommand] at hlocal
        contradiction
      | _ => rfl

theorem warningsIn_unbalancedRestore_step
    : warningsIn .unbalancedRestore (s.execute setting index (.ofOperator op)).2 =
        if op.isRestore && s.graphics.saved.isEmpty then [.unbalancedRestore index] else [] := by
  rw [warningsIn_unbalancedRestore_execute, restores_ofOperator]

theorem execute_of_saved_eq_nil (hop : op.isRestore = true) (hsaved : s.graphics.saved = [])
    : (s.execute setting index (.ofOperator op)).1 = s := by
  rw [Operator.ofOperator_of_isRestore hop]
  unfold execute GraphicsState.restore?
  rw [hsaved]

theorem depth_execute
    : (s.execute setting index (.ofOperator op)).1.graphics.depth +
          (if op.isRestore then 1 else 0) =
        s.graphics.depth + (if op.isSave then 1 else 0) +
          (warningsIn .unbalancedRestore (s.execute setting index (.ofOperator op)).2).length := by
  rw [warningsIn_unbalancedRestore_step]
  unfold GraphicsState.depth
  rcases saved_execute_cases setting index s op with
    ⟨hsave, hrestore, hsaved⟩ | ⟨hsave, hrestore, hsaved⟩ | ⟨hsave, hrestore, hsaved⟩
  . simp [hsave, hrestore, hsaved]
  . rw [hsave, hrestore, hsaved]
    cases s.graphics.saved <;> simp
  . simp [hsave, hrestore, hsaved]

end Saved

section Runs

variable (setting : Setting α) (index : Nat) (s : RunState α) (ops : List (Operator α))

theorem depth_run
    : (s.run setting index ops).1.graphics.depth + ops.countP Operator.isRestore =
        s.graphics.depth + ops.countP Operator.isSave +
          (warningsIn .unbalancedRestore (s.run setting index ops).2).length := by
  induction ops generalizing s index with
  | nil => rfl
  | cons op rest ih =>
    have hop := depth_execute setting index s op
    have hrest := ih (index + 1) (s.execute setting index (.ofOperator op)).1
    simp only [run]
    rw [List.countP_cons, List.countP_cons, warningsIn_append, List.length_append]
    omega

/-- The operators among these that restore a state when none is saved. -/
def unmatched : List Nat :=
  (List.range ops.length).filter fun i =>
    ops[i]?.any Operator.isRestore && (s.stateAt setting index ops i).graphics.saved.isEmpty

theorem unmatched_cons (op : Operator α)
    : unmatched setting index s (op :: ops) =
        (if op.isRestore && s.graphics.saved.isEmpty then [0] else []) ++
          (unmatched setting (index + 1) (s.execute setting index (.ofOperator op)).1 ops).map
            (· + 1) := by
  have hfirst : ((op :: ops)[0]?.any Operator.isRestore &&
      (s.stateAt setting index (op :: ops) 0).graphics.saved.isEmpty) =
        (op.isRestore && s.graphics.saved.isEmpty) := rfl
  unfold unmatched
  rw [List.length_cons, List.range_succ_eq_map, List.filter_cons, List.filter_map, hfirst]
  split <;> rfl

theorem warningsIn_unbalancedRestore_run
    : warningsIn .unbalancedRestore (s.run setting index ops).2 =
        (unmatched setting index s ops).map fun i => .unbalancedRestore (index + i) := by
  induction ops generalizing s index with
  | nil => rfl
  | cons op rest ih =>
    simp only [run]
    rw [warningsIn_append, warningsIn_unbalancedRestore_step, ih, unmatched_cons, List.map_append,
      List.map_map]
    congr 1
    . split <;> rfl
    . apply List.map_congr_left
      intro i _
      simp only [Function.comp]
      rw [Nat.add_assoc, Nat.add_comm 1 i]

theorem stateAt_succ_of_mem_unmatched {i : Nat} (h : i ∈ unmatched setting index s ops)
    : s.stateAt setting index ops (i + 1) = s.stateAt setting index ops i := by
  unfold unmatched at h
  rw [List.mem_filter, Bool.and_eq_true, Option.any_eq_true, List.isEmpty_iff] at h
  obtain ⟨_, ⟨op, hop, hrestore⟩, hsaved⟩ := h
  rw [stateAt_succ setting index s hop]
  exact execute_of_saved_eq_nil setting _ _ op hrestore hsaved

end Runs

end RunState

section Nesting

omit [Scalar α]

/-- Whether these operators never restore more than `spare` states that they did not save. -/
def Covered (spare : Nat) (ops : List (Operator α)) : Prop :=
  ∀ n, (ops.take n).countP Operator.isRestore ≤ spare + (ops.take n).countP Operator.isSave

/-- Operators that restore exactly the states that they save. -/
structure Balanced (ops : List (Operator α)) : Prop where
  covered : ∀ n, (ops.take n).countP Operator.isRestore ≤ (ops.take n).countP Operator.isSave
  total : ops.countP Operator.isRestore = ops.countP Operator.isSave

theorem Balanced.covered_zero {ops : List (Operator α)} (h : Balanced ops) : Covered 0 ops := by
  intro n
  rw [Nat.zero_add]
  exact h.covered n

theorem balanced_iff (ops : List (Operator α))
    : Balanced ops ↔
        (∀ n < ops.length,
          (ops.take n).countP Operator.isRestore ≤ (ops.take n).countP Operator.isSave) ∧
        ops.countP Operator.isRestore = ops.countP Operator.isSave := by
  constructor
  . intro h
    exact ⟨fun n _ => h.covered n, h.total⟩
  . rintro ⟨hcovered, htotal⟩
    refine ⟨?_, htotal⟩
    intro n
    by_cases hn : n < ops.length
    . exact hcovered n hn
    . rw [List.take_of_length_le (by omega)]
      exact Nat.le_of_eq htotal

instance (ops : List (Operator α)) : Decidable (Balanced ops) :=
  decidable_of_iff _ (balanced_iff ops).symm

variable {spare : Nat} {op : Operator α} {rest : List (Operator α)}

theorem Covered.tail (h : Covered spare (op :: rest)) {left : Nat}
    (hop : left + (if op.isRestore then 1 else 0) = spare + (if op.isSave then 1 else 0))
    : Covered left rest := by
  intro n
  have hn := h (n + 1)
  rw [List.take_succ_cons, List.countP_cons, List.countP_cons] at hn
  omega

theorem Covered.pos_of_isRestore (h : Covered spare (op :: rest)) (hsave : op.isSave = false)
    (hrestore : op.isRestore = true) : 0 < spare := by
  have hone := h 1
  rw [List.take_succ_cons, List.countP_cons, List.countP_cons, hsave, hrestore] at hone
  simp at hone
  exact hone

end Nesting

namespace RunState

variable (setting : Setting α) (index : Nat) (s : RunState α)

theorem exists_saved_run {top base : List (SavedState α)} {ops : List (Operator α)}
    (hsaved : s.graphics.saved = top ++ base) (h : Covered top.length ops)
    : ∃ top', (s.run setting index ops).1.graphics.saved = top' ++ base ∧
        top'.length + ops.countP Operator.isRestore =
          top.length + ops.countP Operator.isSave := by
  -- `top` is what the operators saved themselves so far, so they do not reach down to `base`
  induction ops generalizing s index top with
  | nil => exact ⟨top, hsaved, rfl⟩
  | cons op rest ih =>
    simp only [run, List.countP_cons]
    rcases saved_execute_cases setting index s op with
      ⟨hsave, hrestore, hstep⟩ | ⟨hsave, hrestore, hstep⟩ | ⟨hsave, hrestore, hstep⟩
    . rw [hsaved, ← List.cons_append] at hstep
      obtain ⟨top', htop', hlength⟩ :=
        ih (index + 1) _ hstep (h.tail (by simp [hsave, hrestore]))
      refine ⟨top', htop', ?_⟩
      rw [List.length_cons] at hlength
      simp only [hsave, hrestore]
      simp
      omega
    . have hpos := h.pos_of_isRestore hsave hrestore
      obtain ⟨latest, left, htop⟩ := List.exists_cons_of_length_pos hpos
      rw [htop] at h hsaved ⊢
      rw [hsaved] at hstep
      obtain ⟨top', htop', hlength⟩ :=
        ih (index + 1) _ hstep (h.tail (by simp [hsave, hrestore]))
      refine ⟨top', htop', ?_⟩
      rw [List.length_cons]
      simp only [hsave, hrestore]
      simp
      omega
    . rw [hsaved] at hstep
      obtain ⟨top', htop', hlength⟩ :=
        ih (index + 1) _ hstep (h.tail (by simp [hsave, hrestore]))
      refine ⟨top', htop', ?_⟩
      simp only [hsave, hrestore]
      simpa using hlength

theorem saved_run_of_balanced {ops : List (Operator α)} (h : Balanced ops)
    : (s.run setting index ops).1.graphics.saved = s.graphics.saved := by
  have hbase : s.graphics.saved = [] ++ s.graphics.saved := rfl
  obtain ⟨top, hsaved, hlength⟩ := exists_saved_run setting index s hbase h.covered_zero
  rw [h.total, List.length_nil, Nat.add_right_cancel_iff, List.length_eq_zero_iff] at hlength
  rw [hsaved, hlength]
  rfl

theorem run_save_balanced_restore {body : List (Operator α)} (h : Balanced body)
    (operands operands' : List (Operand α))
    : (s.run setting index (⟨"q", operands⟩ :: body ++ [⟨"Q", operands'⟩])).1 =
        { (s.run setting index (⟨"q", operands⟩ :: body)).1 with
          graphics := s.graphics
          text := (s.run setting index (⟨"q", operands⟩ :: body)).1.text.withParameters
            s.text.toTextParameters } := by
  have hsaved : (s.run setting index (⟨"q", operands⟩ :: body)).1.graphics.saved =
      ⟨s.graphics.matrix, s.text.toTextParameters⟩ :: s.graphics.saved :=
    saved_run_of_balanced setting _ _ h
  rw [run_append]
  generalize s.run setting index (⟨"q", operands⟩ :: body) = inside at hsaved
  have hrestore : Command.ofOperator (⟨"Q", operands'⟩ : Operator α) = .restore := rfl
  simp only [run, hrestore, execute, GraphicsState.restore?, hsaved]

theorem run_restores_saved (setting : Setting α) (index : Nat) (s : RunState α)
    (ops : List (Operator α))
    : (let whole := s.run setting index ops
        let complaints := warningsIn .unbalancedRestore whole.2
        whole.1.graphics.depth + ops.countP Operator.isRestore =
            s.graphics.depth + ops.countP Operator.isSave + complaints.length ∧
          complaints =
            (unmatched setting index s ops).map (fun i => .unbalancedRestore (index + i)) ∧
          ∀ i ∈ unmatched setting index s ops,
            s.stateAt setting index ops (i + 1) = s.stateAt setting index ops i) ∧
      (Balanced ops → ∀ operands operands' : List (Operand α),
        let inside := (s.run setting index (⟨"q", operands⟩ :: ops)).1
        let whole := (s.run setting index (⟨"q", operands⟩ :: ops ++ [⟨"Q", operands'⟩])).1
        whole.graphics = s.graphics ∧
          whole.text.toTextParameters = s.text.toTextParameters ∧
          whole.text.textMatrix = inside.text.textMatrix ∧
          whole.text.lineMatrix = inside.text.lineMatrix ∧
          whole.text.inText = inside.text.inText) := by
  constructor
  . refine ⟨?_, ?_, ?_⟩
    . apply depth_run
    . apply warningsIn_unbalancedRestore_run
    . intro i h
      exact stateAt_succ_of_mem_unmatched setting index s ops h
  . intro h operands operands' inside whole
    have hwhole : whole = { inside with
        graphics := s.graphics
        text := inside.text.withParameters s.text.toTextParameters } :=
      run_save_balanced_restore setting index s h operands operands'
    rw [hwhole]
    exact ⟨rfl, rfl, rfl, rfl, rfl⟩

/-- Operators that save and restore a state among others that change both matrices. -/
def nested : List (Operator Float) :=
  [⟨"Tc", [.int 3]⟩, ⟨"q", []⟩, ⟨"cm", [.int 2, .int 0, .int 0, .int 2, .int 5, .int 5]⟩, ⟨"Q", []⟩,
    ⟨"BT", []⟩, ⟨"Td", [.int 72, .int 700]⟩, ⟨"Tz", [.int 50]⟩]

theorem run_restores_saved_nested
    : Balanced nested ∧
        let setting : Setting Float := ⟨.empty, .none⟩
        let s : RunState Float := .initial .letter
        let inside := (s.run setting 0 (⟨"q", []⟩ :: nested)).1
        let whole := (s.run setting 0 (⟨"q", []⟩ :: nested ++ [⟨"Q", []⟩])).1
        whole.graphics = s.graphics ∧
          whole.text.toTextParameters = s.text.toTextParameters ∧
          whole.text.textMatrix = inside.text.textMatrix ∧
          whole.text.lineMatrix = inside.text.lineMatrix ∧
          whole.text.inText = inside.text.inText :=
  ⟨by decide, (run_restores_saved ⟨.empty, .none⟩ 0 (.initial .letter) nested).2 (by decide) [] []⟩

end RunState

end Galley.Content
