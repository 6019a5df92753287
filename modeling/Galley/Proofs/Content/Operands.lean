import Galley.Content.Command
import Mathlib.Data.List.Forall2

/-!
This module shows that an operator takes its operands from the end of the list: how many it takes
and of which kinds depends on its name alone, and whatever stands in front of them changes nothing
but the count in a complaint.
-/

namespace Galley.Content

/-- The kinds of operands that operators take. -/
inductive OperandKind
  | number
  | name
  | bytes
  | array
deriving DecidableEq, Repr

/-- The kinds of the operands that an operator takes, `none` if it does not concern text. -/
def operandKinds? (name : String) : Option (List OperandKind) :=
  match name with
  | "q" | "Q" | "BT" | "ET" | "T*" => some []
  | "cm" | "Tm" => some (List.replicate 6 .number)
  | "Tc" | "Tw" | "Tz" | "TL" | "Ts" | "Tr" => some [.number]
  | "Td" | "TD" => some [.number, .number]
  | "Tf" => some [.name, .number]
  | "Tj" | "'" => some [.bytes]
  | "\"" => some [.number, .number, .bytes]
  | "TJ" => some [.array]
  | _ => none

/-- The number of operands that an operator takes. -/
def operandCount (name : String) : Nat := ((operandKinds? name).getD []).length

theorem operandCount_of_operandKinds? {name : String} {kinds : List OperandKind}
    (h : operandKinds? name = some kinds)
    : operandCount name = kinds.length := by
  unfold operandCount
  rw [h]
  rfl

theorem operandCount_mem (name : String) : operandCount name ∈ [0, 1, 2, 3, 6] := by
  unfold operandCount operandKinds?
  split <;> decide

theorem lastOf?_append {β : Type} {n : Nat} (stray : List β) {l : List β} (h : n ≤ l.length)
    : lastOf? n (stray ++ l) = lastOf? n l := by
  have hlength : n ≤ (stray ++ l).length := by
    rw [List.length_append]
    omega
  have hdrop : (stray ++ l).length - n = stray.length + (l.length - n) := by
    rw [List.length_append]
    omega
  unfold lastOf?
  rw [if_pos hlength, if_pos h, hdrop, List.drop_length_add_append]

theorem length_of_lastOf? {β : Type} {n : Nat} {l last : List β} (h : lastOf? n l = some last)
    : last.length = n := by
  unfold lastOf? at h
  split at h
  . cases h
    rw [List.length_drop]
    omega
  . cases h

theorem lastOf?_self {β : Type} (l : List β) : lastOf? l.length l = some l := by
  unfold lastOf?
  rw [if_pos (Nat.le_refl _), Nat.sub_self, List.drop_zero]

theorem lastOf?_of_lastOf? {β : Type} {n : Nat} {l last : List β} (h : lastOf? n l = some last)
    : lastOf? n last = some last := by
  rw [← length_of_lastOf? h, lastOf?_self]

theorem lastOf?_one {β : Type} (l : List β) : lastOf? 1 l = l.getLast?.map fun x => [x] := by
  rcases List.eq_nil_or_concat l with rfl | ⟨front, x, rfl⟩
  . rfl
  . rw [List.concat_eq_append, lastOf?_append front (by simp), List.getLast?_concat]
    rfl

/-- The member of a `TJ` array stands for a string to show or for a shift. -/
inductive TextItem.Stands {α : Type} [Scalar α] : Operand α → TextItem α → Prop
  | literal (bytes : List UInt8) : Stands (.literal bytes) (.text bytes)
  | hex (bytes : List UInt8) : Stands (.hex bytes) (.text bytes)
  | int (value : Int) : Stands (.int value) (.adjust (Scalar.ofInt value))
  | real (value : α) : Stands (.real value) (.adjust value)

section

variable {α : Type}

namespace Operand

def kind? : Operand α → Option OperandKind
  | .int _ | .real _ => some .number
  | .name _ => some .name
  | .literal _ | .hex _ => some .bytes
  | .array _ => some .array
  | _ => none

/-- Strings and numbers, which are all that an array to be shown needs. -/
def isStringOrNumber (o : Operand α) : Bool :=
  o.kind? == some .bytes || o.kind? == some .number

theorem kind?_eq_number_iff [Scalar α] (o : Operand α)
    : o.kind? = some .number ↔ o.number?.isSome = true := by
  cases o <;> simp [kind?, number?]

theorem kind?_eq_name_iff (o : Operand α) : o.kind? = some .name ↔ o.name?.isSome = true := by
  cases o <;> simp [kind?, name?]

theorem kind?_eq_bytes_iff (o : Operand α) : o.kind? = some .bytes ↔ o.bytes?.isSome = true := by
  cases o <;> simp [kind?, bytes?]

theorem kind?_eq_array_iff (o : Operand α) : o.kind? = some .array ↔ o.array?.isSome = true := by
  cases o <;> simp [kind?, array?]

end Operand

namespace Command

def isMalformed : Command α → Bool
  | .malformed .. => true
  | _ => false

/-- The command with another count of operands in its complaint. -/
def withFound (found : Nat) : Command α → Command α
  | .malformed name expected _ => .malformed name expected found
  | c => c

theorem withFound_of_not_isMalformed {c : Command α} (h : c.isMalformed = false) (found : Nat)
    : c.withFound found = c := by
  cases c with
  | malformed => cases h
  | _ => rfl

end Command

/-- The reader takes the last operands alone, and makes a command of them if their kinds fit. -/
structure Takes (kinds : List OperandKind) (read : List (Operand α) → Option (Command α))
    : Prop where
  eq_bind : ∀ operands, read operands = (lastOf? kinds.length operands).bind read
  isSome_iff : ∀ last, last.length = kinds.length →
    ((read last).isSome = true ↔ last.map Operand.kind? = kinds.map some)
  usable : ∀ operands c, read operands = some c → c.isMalformed = false

/-- Lists of one length agree if they agree wherever both have a member. -/
theorem map_kind?_eq_iff {last : List (Operand α)} {kinds : List OperandKind}
    (hlength : last.length = kinds.length)
    : last.map Operand.kind? = kinds.map some
        ↔
      ∀ (i : Nat) kind (o : Operand α), kinds[i]? = some kind → last[i]? = some o →
        o.kind? = some kind := by
  constructor
  . intro h i kind o hkind ho
    have hi := congrArg (fun l => l[i]?) h
    simpa [hkind, ho] using hi
  . intro h
    apply List.ext_getElem
    . simp [hlength]
    . intro i hlast hkinds
      rw [List.length_map] at hlast hkinds
      have hi := h i kinds[i] last[i] (List.getElem?_eq_getElem hkinds)
        (List.getElem?_eq_getElem hlast)
      simp [hi]

namespace Takes

variable {kinds : List OperandKind} {read : List (Operand α) → Option (Command α)}

theorem append (h : Takes kinds read) (stray : List (Operand α)) {operands : List (Operand α)}
    (hcount : kinds.length ≤ operands.length)
    : read (stray ++ operands) = read operands := by
  rw [h.eq_bind, lastOf?_append stray hcount, ← h.eq_bind]

theorem isSome_read_iff (h : Takes kinds read) (operands : List (Operand α))
    : (read operands).isSome = true
        ↔
      kinds.length ≤ operands.length ∧
        ∀ i kind o, kinds[i]? = some kind →
          operands[operands.length - kinds.length + i]? = some o → o.kind? = some kind := by
  rw [h.eq_bind]
  unfold lastOf?
  by_cases hcount : kinds.length ≤ operands.length
  . have hlength : (operands.drop (operands.length - kinds.length)).length = kinds.length := by
      rw [List.length_drop]
      omega
    rw [if_pos hcount, Option.bind_some, h.isSome_iff _ hlength, map_kind?_eq_iff hlength]
    simp only [List.getElem?_drop, hcount, true_and]
  . rw [if_neg hcount]
    simp [hcount]

end Takes

theorem takes_nothing {c : Command α} (hc : c.isMalformed = false) : Takes [] fun _ => some c where
  eq_bind operands := by rfl
  isSome_iff last hlast := by simp [List.eq_nil_of_length_eq_zero hlast]
  usable operands c' h := by
    cases h
    exact hc

/-- Operators that take one operand and look no further than the last. -/
theorem takes_last {kind : OperandKind} {β : Type} {view : Operand α → Option β}
    {make : β → Command α}
    (hview : ∀ o : Operand α, o.kind? = some kind ↔ (view o).isSome = true)
    (hmake : ∀ x, (make x).isMalformed = false)
    : Takes [kind] fun operands => (operands.getLast?.bind view).map make where
  eq_bind operands := by
    rw [List.length_singleton, lastOf?_one]
    cases operands.getLast? <;> rfl
  isSome_iff last hlast := by
    rcases List.length_eq_one_iff.mp hlast with ⟨o, rfl⟩
    simp [hview]
  usable operands c h := by
    rcases Option.map_eq_some_iff.mp h with ⟨x, _, rfl⟩
    apply hmake

theorem takes_withBytes? {make : List UInt8 → Command α}
    (hmake : ∀ bytes, (make bytes).isMalformed = false)
    : Takes [.bytes] (Command.withBytes? make) :=
  takes_last Operand.kind?_eq_bytes_iff hmake

variable [Scalar α]

theorem takes_withArray? : Takes [.array] (Command.withArray? (α := α)) :=
  takes_last Operand.kind?_eq_array_iff fun _ => rfl

theorem takes_withFont? : Takes [.name, .number] (Command.withFont? (α := α)) where
  eq_bind operands := by
    unfold Command.withFont?
    cases h : lastOf? 2 operands with
    | none => rfl
    | some last =>
      dsimp only [Option.bind_some]
      rw [lastOf?_of_lastOf? h]
  isSome_iff last hlast := by
    match last with
    | [font, size] =>
      have hself : lastOf? 2 [font, size] = some [font, size] := lastOf?_self [font, size]
      simp only [List.map_cons, List.cons_eq_cons, Operand.kind?_eq_name_iff,
        Operand.kind?_eq_number_iff]
      unfold Command.withFont?
      rw [hself]
      dsimp only
      cases font.name? with
      | none => simp
      | some name => cases size.number? <;> simp
  usable operands c h := by
    unfold Command.withFont? at h
    split at h
    . split at h
      . cases h
        rfl
      . cases h
    . cases h

theorem takes_withSpacedText?
    : Takes [.number, .number, .bytes] (Command.withSpacedText? (α := α)) where
  eq_bind operands := by
    unfold Command.withSpacedText?
    cases h : lastOf? 3 operands with
    | none => rfl
    | some last =>
      dsimp only [Option.bind_some]
      rw [lastOf?_of_lastOf? h]
  isSome_iff last hlast := by
    match last with
    | [wordSpacing, charSpacing, text] =>
      have hself
          : lastOf? 3 [wordSpacing, charSpacing, text] = some [wordSpacing, charSpacing, text] :=
        lastOf?_self [wordSpacing, charSpacing, text]
      simp only [List.map_cons, List.cons_eq_cons, Operand.kind?_eq_bytes_iff,
        Operand.kind?_eq_number_iff]
      unfold Command.withSpacedText?
      rw [hself]
      dsimp only
      cases wordSpacing.number? with
      | none => simp
      | some w =>
        cases charSpacing.number? with
        | none => simp
        | some c => cases text.bytes? <;> simp
  usable operands c h := by
    unfold Command.withSpacedText? at h
    split at h
    . split at h
      . cases h
        rfl
      . cases h
    . cases h

theorem mapM_number?_isSome_iff (last : List (Operand α))
    : (last.mapM Operand.number?).isSome = true
        ↔
      last.map Operand.kind? = List.replicate last.length (some .number) := by
  induction last with
  | nil => simp
  | cons o last ih =>
    rw [List.map_cons, List.length_cons, List.replicate_succ, List.cons_eq_cons, ← ih,
      Operand.kind?_eq_number_iff, List.mapM_cons]
    cases o.number? with
    | none => simp
    | some value => cases last.mapM Operand.number? <;> simp

theorem length_of_mapM_number? {last : List (Operand α)} {values : List α}
    (h : last.mapM Operand.number? = some values)
    : values.length = last.length := by
  induction last generalizing values with
  | nil =>
    cases h
    rfl
  | cons o last ih =>
    rw [List.mapM_cons] at h
    simp only [Option.bind_eq_bind, Option.bind_eq_some_iff] at h
    rcases h with ⟨value, _, rest, hrest, heq⟩
    cases heq
    rw [List.length_cons, List.length_cons, ih hrest]

theorem length_of_lastNumbers? {n : Nat} {operands : List (Operand α)} {values : List α}
    (h : lastNumbers? n operands = some values)
    : values.length = n := by
  rcases Option.bind_eq_some_iff.mp h with ⟨last, hlast, hvalues⟩
  rw [length_of_mapM_number? hvalues, length_of_lastOf? hlast]

theorem lastNumbers?_of_lastOf? {n : Nat} {operands last : List (Operand α)}
    (h : lastOf? n operands = some last)
    : lastNumbers? n last = lastNumbers? n operands := by
  unfold lastNumbers?
  rw [h, lastOf?_of_lastOf? h]

/-- Operators that take nothing but numbers. -/
theorem takes_numbers {n : Nat} {read : List (Operand α) → Option (Command α)}
    (hnone : ∀ operands, lastNumbers? n operands = none → read operands = none)
    (hsome : ∀ values, values.length = n →
      ∃ c, c.isMalformed = false ∧
        ∀ operands, lastNumbers? n operands = some values → read operands = some c)
    : Takes (List.replicate n .number) read where
  eq_bind operands := by
    rw [List.length_replicate]
    cases h : lastOf? n operands with
    | none =>
      apply hnone
      unfold lastNumbers?
      rw [h, Option.bind_none]
    | some last =>
      have hlast := lastNumbers?_of_lastOf? h
      rw [Option.bind_some]
      cases hvalues : lastNumbers? n operands with
      | none => rw [hnone operands hvalues, hnone last (hlast.trans hvalues)]
      | some values =>
        rcases hsome values (length_of_lastNumbers? hvalues) with ⟨c, _, hread⟩
        rw [hread operands hvalues, hread last (hlast.trans hvalues)]
  isSome_iff last hlast := by
    rw [List.length_replicate] at hlast
    have hnumbers : lastNumbers? n last = last.mapM Operand.number? := by
      unfold lastNumbers?
      rw [← hlast, lastOf?_self, Option.bind_some]
    rw [List.map_replicate, ← hlast, ← mapM_number?_isSome_iff, ← hnumbers]
    cases hvalues : lastNumbers? n last with
    | none => simp [hnone last hvalues]
    | some values =>
      rcases hsome values (length_of_lastNumbers? hvalues) with ⟨c, _, hread⟩
      simp [hread last hvalues]
  usable operands c h := by
    cases hvalues : lastNumbers? n operands with
    | none =>
      rw [hnone operands hvalues] at h
      cases h
    | some values =>
      rcases hsome values (length_of_lastNumbers? hvalues) with ⟨c', husable, hread⟩
      rw [hread operands hvalues] at h
      cases h
      exact husable

theorem takes_withNumber? {make : α → Command α} (hmake : ∀ v, (make v).isMalformed = false)
    : Takes [.number] (Command.withNumber? make) := by
  apply takes_numbers (n := 1)
  . intro operands h
    simp only [Command.withNumber?, h]
  . intro values hvalues
    rcases List.length_eq_one_iff.mp hvalues with ⟨v, rfl⟩
    refine ⟨_, hmake v, ?_⟩
    intro operands h
    simp only [Command.withNumber?, h]

theorem takes_withTwoNumbers? {make : α → α → Command α}
    (hmake : ∀ v w, (make v w).isMalformed = false)
    : Takes [.number, .number] (Command.withTwoNumbers? make) := by
  apply takes_numbers (n := 2)
  . intro operands h
    simp only [Command.withTwoNumbers?, h]
  . intro values hvalues
    match values with
    | [v, w] =>
      refine ⟨_, hmake v w, ?_⟩
      intro operands h
      simp only [Command.withTwoNumbers?, h]

theorem takes_withTransform? {make : Transform α → Command α}
    (hmake : ∀ m, (make m).isMalformed = false)
    : Takes (List.replicate 6 .number) (Command.withTransform? make) := by
  apply takes_numbers
  . intro operands h
    simp only [Command.withTransform?, h]
  . intro values hvalues
    match values with
    | [a, b, c, d, e, f] =>
      refine ⟨_, hmake ⟨a, b, c, d, e, f⟩, ?_⟩
      intro operands h
      simp only [Command.withTransform?, h]

theorem takes_of_reader? {name expected : String} {read : List (Operand α) → Option (Command α)}
    (h : Command.reader? name = some (expected, read))
    : ∃ kinds, operandKinds? name = some kinds ∧ Takes kinds read := by
  unfold Command.reader? at h
  split at h
  iterate 5
    . cases h
      exact ⟨_, rfl, takes_nothing rfl⟩
  iterate 2
    . cases h
      exact ⟨_, rfl, takes_withTransform? fun _ => rfl⟩
  iterate 6
    . cases h
      exact ⟨_, rfl, takes_withNumber? fun _ => rfl⟩
  iterate 2
    . cases h
      exact ⟨_, rfl, takes_withTwoNumbers? fun _ _ => rfl⟩
  . cases h
    exact ⟨_, rfl, takes_withFont?⟩
  iterate 2
    . cases h
      exact ⟨_, rfl, takes_withBytes? fun _ => rfl⟩
  . cases h
    exact ⟨_, rfl, takes_withSpacedText?⟩
  . cases h
    exact ⟨_, rfl, takes_withArray?⟩
  . cases h

theorem operandKinds?_of_reader? {name : String} (h : Command.reader? (α := α) name = none)
    : operandKinds? name = none := by
  unfold operandKinds?
  split
  case h_21 => rfl
  all_goals cases h

namespace Command

theorem ofOperator_cases (name : String)
    : (operandKinds? name = none ∧
        ∀ operands : List (Operand α), ofOperator ⟨name, operands⟩ = .other name) ∨
      ∃ kinds expected read,
        operandKinds? name = some kinds ∧ Takes (α := α) kinds read ∧
          ∀ operands, ofOperator ⟨name, operands⟩
            =
          (read operands).getD (.malformed name expected operands.length) := by
  cases h : reader? (α := α) name with
  | none =>
    refine .inl ⟨operandKinds?_of_reader? h, ?_⟩
    intro operands
    unfold ofOperator
    rw [h]
  | some reader =>
    rcases takes_of_reader? h with ⟨kinds, hkinds, htakes⟩
    refine .inr ⟨kinds, reader.1, reader.2, hkinds, htakes, ?_⟩
    intro operands
    unfold ofOperator
    rw [h]

theorem ofOperator_append (name : String) (stray : List (Operand α)) {operands : List (Operand α)}
    (h : operandCount name ≤ operands.length)
    : ofOperator ⟨name, stray ++ operands⟩
        =
      (ofOperator ⟨name, operands⟩).withFound (stray ++ operands).length := by
  rcases ofOperator_cases (α := α) name with
    ⟨_, hother⟩ | ⟨kinds, expected, read, hkinds, htakes, heq⟩
  . rw [hother, hother]
    rfl
  . rw [operandCount_of_operandKinds? hkinds] at h
    rw [heq, heq, htakes.append stray h]
    cases hread : read operands with
    | none => rfl
    | some c => exact (withFound_of_not_isMalformed (htakes.usable operands c hread) _).symm

/-- An operator has too few operands, or one of the last has the wrong kind. -/
theorem isMalformed_ofOperator_iff (op : Operator α)
    : (ofOperator op).isMalformed = true
        ↔
      ∃ kinds, operandKinds? op.name = some kinds ∧
        (op.operands.length < operandCount op.name ∨
          ∃ i kind o, kinds[i]? = some kind ∧
            op.operands[op.operands.length - operandCount op.name + i]? = some o ∧
              o.kind? ≠ some kind) := by
  rcases op with ⟨name, operands⟩
  dsimp only
  rcases ofOperator_cases (α := α) name with
    ⟨hnone, hother⟩ | ⟨kinds, expected, read, hkinds, htakes, heq⟩
  . rw [hother, hnone]
    constructor
    . intro h
      cases h
    . rintro ⟨kinds, hkinds, _⟩
      cases hkinds
  . have hmalformed
        : (ofOperator ⟨name, operands⟩).isMalformed = true ↔ ¬(read operands).isSome = true := by
      rw [heq]
      cases hread : read operands with
      | none => simp [isMalformed]
      | some c => simp [htakes.usable operands c hread]
    rw [hmalformed, htakes.isSome_read_iff, hkinds, operandCount_of_operandKinds? hkinds]
    constructor
    . intro h
      refine ⟨kinds, rfl, ?_⟩
      by_cases hwrong : ∃ i kind o, kinds[i]? = some kind ∧
          operands[operands.length - kinds.length + i]? = some o ∧ o.kind? ≠ some kind
      . exact .inr hwrong
      . apply Or.inl
        rw [← Nat.not_le]
        intro hcount
        refine h ⟨hcount, ?_⟩
        intro i kind o hkind ho
        exact Decidable.byContradiction fun hne => hwrong ⟨i, kind, o, hkind, ho, hne⟩
    . rintro ⟨_, heq, hlacks⟩ ⟨hcount, hfits⟩
      cases heq
      rcases hlacks with hfewer | ⟨i, kind, o, hkind, ho, hwrong⟩
      . exact Nat.not_le_of_lt hfewer hcount
      . exact hwrong (hfits i kind o hkind ho)

theorem forall₂_stands_filterMap (items : List (Operand α))
    : List.Forall₂ TextItem.Stands (items.filter Operand.isStringOrNumber)
        (items.filterMap TextItem.ofOperand?) := by
  induction items with
  | nil => exact .nil
  | cons o items ih =>
    cases o with
    | literal bytes => exact .cons (.literal bytes) ih
    | hex bytes => exact .cons (.hex bytes) ih
    | int value => exact .cons (.int value) ih
    | real value => exact .cons (.real value) ih
    | _ => exact ih

/-- An array is shown by its strings and numbers, in their order. -/
theorem ofOperator_array (stray items : List (Operand α))
    : ∃ shown, ofOperator ⟨"TJ", stray ++ [.array items]⟩ = .showTextArray shown ∧
        List.Forall₂ TextItem.Stands (items.filter Operand.isStringOrNumber) shown := by
  refine ⟨_, ?_, forall₂_stands_filterMap items⟩
  have hcount : operandCount "TJ" ≤ [Operand.array items].length := Nat.le_refl 1
  exact ofOperator_append "TJ" stray hcount

end Command

end

end Galley.Content
