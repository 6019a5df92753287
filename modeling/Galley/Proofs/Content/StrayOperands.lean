import Galley.Proofs.Content.Operands
import Galley.Proofs.Content.Report

/-!
This module shows that stray operands in front of those that an operator takes leave a run as it is:
only the words of a complaint can tell that they are there.
-/

namespace Galley.Content

section

variable {α : Type}

theorem Command.exists_eq_withFound (c : Command α) : ∃ found, c = c.withFound found := by
  cases c with
  | malformed name expected found => exact ⟨found, rfl⟩
  | _ => exact ⟨0, rfl⟩

/-- The event without the words in which it complains about an operator. -/
def Event.withoutWords : Event α → Event α
  | .warning w =>
    if w.code = .malformedOperator then .warning { w with description := "" } else .warning w
  | e => e

/-- The second operator is the first among stray operands, if that has those that it takes. -/
structure Operator.Strays (op strayed : Operator α) : Prop where
  name : strayed.name = op.name
  operands : strayed.operands = op.operands ∨
    (operandCount op.name ≤ op.operands.length ∧ op.operands <:+ strayed.operands)

end

variable {α : Type} [Scalar α]

theorem Operator.Strays.ofOperator {op strayed : Operator α} (h : op.Strays strayed)
    : ∃ found, Command.ofOperator strayed = (Command.ofOperator op).withFound found := by
  rcases op with ⟨name, operands⟩
  rcases strayed with ⟨strayedName, strayedOperands⟩
  rcases h with ⟨hname, hoperands⟩
  dsimp only at hname hoperands
  subst hname
  rcases hoperands with rfl | ⟨hcount, stray, rfl⟩
  . apply Command.exists_eq_withFound
  . exact ⟨_, Command.ofOperator_append _ stray hcount⟩

namespace RunState

variable (setting : Setting α)

theorem execute_withFound (index : Nat) (s : RunState α) (c : Command α) (found : Nat)
    : (s.execute setting index (c.withFound found)).1 = (s.execute setting index c).1 ∧
        (s.execute setting index (c.withFound found)).2.map Event.withoutWords
          =
        (s.execute setting index c).2.map Event.withoutWords := by
  cases c with
  | malformed name expected count => exact ⟨rfl, rfl⟩
  | _ => exact ⟨rfl, rfl⟩

theorem run_strays (index : Nat) (s : RunState α) {ops strayed : List (Operator α)}
    (h : List.Forall₂ Operator.Strays ops strayed)
    : (s.run setting index strayed).1 = (s.run setting index ops).1 ∧
        (s.run setting index strayed).2.map Event.withoutWords
          =
        (s.run setting index ops).2.map Event.withoutWords := by
  induction h generalizing index s with
  | nil => exact ⟨rfl, rfl⟩
  | @cons op strayedOp ops strayed hop _ ih =>
    rcases hop.ofOperator with ⟨found, hfound⟩
    rcases execute_withFound setting index s (.ofOperator op) found with ⟨hstate, hevents⟩
    rcases ih (index + 1) (s.execute setting index (.ofOperator op)).1 with ⟨hlast, hlater⟩
    simp only [run]
    rw [hfound, hstate]
    refine ⟨hlast, ?_⟩
    rw [List.map_append, List.map_append, hevents, hlater]

end RunState

theorem operators_take_last_operands
    : (∀ name, operandCount name ∈ [0, 1, 2, 3, 6] ∧
        ∀ stray operands : List (Operand α), operandCount name ≤ operands.length →
          Command.ofOperator ⟨name, stray ++ operands⟩
            =
          (Command.ofOperator ⟨name, operands⟩).withFound (stray ++ operands).length) ∧
      (∀ op : Operator α,
        (Command.ofOperator op).isMalformed = true
          ↔
        ∃ kinds, operandKinds? op.name = some kinds ∧
          (op.operands.length < operandCount op.name ∨
            ∃ i kind o, kinds[i]? = some kind ∧
              op.operands[op.operands.length - operandCount op.name + i]? = some o ∧
                o.kind? ≠ some kind)) ∧
      (∀ stray items : List (Operand α),
        ∃ shown, Command.ofOperator ⟨"TJ", stray ++ [.array items]⟩ = .showTextArray shown ∧
          List.Forall₂ TextItem.Stands (items.filter Operand.isStringOrNumber) shown) ∧
      ∀ (setting : Setting α) (index : Nat) (s : RunState α) (ops strayed : List (Operator α)),
        List.Forall₂ Operator.Strays ops strayed →
          (s.run setting index strayed).1 = (s.run setting index ops).1 ∧
            (s.run setting index strayed).2.map Event.withoutWords
              =
            (s.run setting index ops).2.map Event.withoutWords := by
  refine ⟨?_, ?_, ?_, ?_⟩
  . intro name
    refine ⟨operandCount_mem name, ?_⟩
    intro stray operands hcount
    exact Command.ofOperator_append name stray hcount
  . apply Command.isMalformed_ofOperator_iff
  . apply Command.ofOperator_array
  . intro setting index s ops strayed h
    exact RunState.run_strays setting index s h

end Galley.Content
