import Galley.Proofs.Content.Report

/-!
This module contains the operators that a run passes over, those that do not concern text and those
that are malformed: without them the same run takes place, but for the complaints about them.
-/

namespace Galley.Content

variable {α : Type} [Scalar α]

/-- Whether an operator concerns text and has the operands that it needs. -/
def Operator.isEffective (op : Operator α) : Bool :=
  match Command.ofOperator op with
  | .other _ => false
  | .malformed .. => false
  | _ => true

/-- The number of effective operators in front of operator number `i`. -/
def effectiveBefore (ops : List (Operator α)) (i : Nat) : Nat :=
  (ops.take i).countP Operator.isEffective

/-- The warnings that the malformed ones among these operators call for. -/
def complaints (ops : List (Operator α)) : List Warning :=
  ops.zipIdx.filterMap fun (op, i) => (Command.ofOperator op).malformed? i

section

omit [Scalar α]

def Event.isComplaint (e : Event α) : Bool := (e.warningOf? .malformedOperator).isSome

def withoutComplaints (events : List (Event α)) : List (Event α) :=
  events.filter fun e => !e.isComplaint

theorem withoutComplaints_append (events later : List (Event α))
    : withoutComplaints (events ++ later)
        =
      withoutComplaints events ++ withoutComplaints later := by
  unfold withoutComplaints
  apply List.filter_append

theorem isComplaint_renumber (f : Nat → Nat) (e : Event α)
    : (e.renumber f).isComplaint = e.isComplaint := by
  cases e with
  | warning w =>
    simp only [Event.isComplaint, Event.renumber, Event.warningOf?]
    split <;> rfl
  | _ => rfl

theorem withoutComplaints_map_renumber (f : Nat → Nat) (events : List (Event α))
    : withoutComplaints (events.map (Event.renumber f)) =
        (withoutComplaints events).map (Event.renumber f) := by
  unfold withoutComplaints
  rw [List.filter_map]
  congr 2
  funext e
  simp only [Function.comp, isComplaint_renumber]

theorem withoutComplaints_eq_self {events : List (Event α)}
    (h : warningsIn .malformedOperator events = []) : withoutComplaints events = events := by
  unfold withoutComplaints
  rw [List.filter_eq_self]
  intro e he
  have hnone := List.filterMap_eq_nil_iff.mp h e he
  unfold Event.isComplaint
  rw [hnone]
  rfl

end

section Operators

variable (setting : Setting α) (index : Nat) (s : RunState α) {op : Operator α}

theorem malformed?_of_isEffective (h : op.isEffective = true)
    : (Command.ofOperator op).malformed? index = none := by
  unfold Operator.isEffective at h
  cases hcommand : Command.ofOperator op with
  | malformed name expected found =>
    rw [hcommand] at h
    contradiction
  | _ => rfl

theorem withoutComplaints_execute_of_isEffective (h : op.isEffective = true)
    : withoutComplaints (s.execute setting index (.ofOperator op)).2 =
        (s.execute setting index (.ofOperator op)).2 := by
  apply withoutComplaints_eq_self
  rw [RunState.warningsIn_malformedOperator_execute, malformed?_of_isEffective index h]
  rfl

theorem execute_of_not_isEffective (h : op.isEffective = false)
    : (s.execute setting index (.ofOperator op)).1 = s ∧
        withoutComplaints (s.execute setting index (.ofOperator op)).2 = [] := by
  unfold Operator.isEffective at h
  cases hcommand : Command.ofOperator op with
  | other name => exact ⟨rfl, rfl⟩
  | malformed name expected found => exact ⟨rfl, rfl⟩
  | _ =>
    rw [hcommand] at h
    contradiction

end Operators

theorem renumber_behind_effective {op : Operator α} (h : op.isEffective = true)
    (rest : List (Operator α)) (e : Event α)
    : (e.renumber (· + 1)).renumber (effectiveBefore (op :: rest)) =
        (e.renumber (effectiveBefore rest)).renumber (· + 1) := by
  rw [renumber_renumber, renumber_renumber]
  congr 1
  funext i
  simp [effectiveBefore, h]

theorem renumber_behind_other {op : Operator α} (h : op.isEffective = false)
    (rest : List (Operator α)) (e : Event α)
    : (e.renumber (· + 1)).renumber (effectiveBefore (op :: rest)) =
        e.renumber (effectiveBefore rest) := by
  rw [renumber_renumber]
  congr 1
  funext i
  simp [effectiveBefore, h]

namespace RunState

variable (setting : Setting α) (s : RunState α) (ops : List (Operator α))

theorem run_filter_isEffective
    : s.run setting 0 (ops.filter Operator.isEffective) =
        ((s.run setting 0 ops).1,
          (withoutComplaints (s.run setting 0 ops).2).map
            (Event.renumber (effectiveBefore ops))) := by
  induction ops generalizing s with
  | nil => rfl
  | cons op rest ih =>
    have hbehind := run_shift setting 0 (s.execute setting 0 (.ofOperator op)).1 1 rest
    rw [Nat.zero_add] at hbehind
    simp only [run]
    rw [hbehind]
    simp only [renumbered, withoutComplaints_append, withoutComplaints_map_renumber,
      List.map_append, List.map_map, Function.comp_def]
    cases heffective : op.isEffective with
    | true =>
      have hop := execute_renumber setting (effectiveBefore (op :: rest)) 0 s (.ofOperator op)
      have hshort := run_shift setting 0 (s.execute setting 0 (.ofOperator op)).1 1
        (rest.filter Operator.isEffective)
      rw [Nat.zero_add, ih] at hshort
      simp only [renumber_behind_effective heffective]
      rw [List.filter_cons_of_pos heffective, withoutComplaints_execute_of_isEffective setting 0 s
        heffective]
      simp only [run]
      rw [hshort]
      simp only [renumbered, List.map_map, Function.comp_def]
      congr 2
      exact congrArg Prod.snd hop
    | false =>
      obtain ⟨hstate, hevents⟩ := execute_of_not_isEffective setting 0 s heffective
      simp only [renumber_behind_other heffective]
      rw [List.filter_cons_of_neg (by simp [heffective]), ih, hstate, hevents]
      rfl

theorem warningsIn_malformedOperator_run (index : Nat)
    : warningsIn .malformedOperator (s.run setting index ops).2 =
        (ops.zipIdx index).filterMap fun (op, i) => (Command.ofOperator op).malformed? i := by
  induction ops generalizing s index with
  | nil => rfl
  | cons op rest ih =>
    simp only [run, List.zipIdx_cons]
    rw [warningsIn_append, warningsIn_malformedOperator_execute, ih, List.filterMap_cons]
    cases (Command.ofOperator op).malformed? index <;> rfl

theorem stateAt_succ_of_not_isEffective {i : Nat} {op : Operator α} (hop : ops[i]? = some op)
    (h : op.isEffective = false)
    : s.stateAt setting 0 ops (i + 1) = s.stateAt setting 0 ops i := by
  rw [stateAt_succ setting 0 s hop]
  exact (execute_of_not_isEffective setting _ _ h).1

theorem run_passes_over (setting : Setting α) (s : RunState α) (ops : List (Operator α))
    : let whole := s.run setting 0 ops
      let kept := s.run setting 0 (ops.filter Operator.isEffective)
      kept.1 = whole.1 ∧
        kept.2 = (withoutComplaints whole.2).map (Event.renumber (effectiveBefore ops)) ∧
        warningsIn .malformedOperator whole.2 = complaints ops ∧
        ∀ i op, ops[i]? = some op → op.isEffective = false →
          s.stateAt setting 0 ops (i + 1) = s.stateAt setting 0 ops i := by
  intro whole kept
  have hkept : kept = (whole.1,
      (withoutComplaints whole.2).map (Event.renumber (effectiveBefore ops))) :=
    run_filter_isEffective setting s ops
  refine ⟨?_, ?_, ?_, ?_⟩
  . rw [hkept]
  . rw [hkept]
  . apply warningsIn_malformedOperator_run
  . intro i op hop h
    exact stateAt_succ_of_not_isEffective setting s ops hop h

end RunState

end Galley.Content
