import Galley.Proofs.Content.Locality

/-!
This module contains the steps of a run over the bytes of a content stream, and the outline of what
the run reads at the top level: operands, operators and inline images.
-/

namespace Galley.Content

/-- What stands at the top level of a content stream. -/
inductive Item
  | operand
  | operator (name : String)
  /-- An inline image, and whether the mark that ends its data is there. -/
  | image (closed : Bool)
deriving DecidableEq, Repr

namespace Reader

variable {α : Type}

/-- Whether the lexeme is where the data of an inline image begins. -/
def beginsData (r : Reader α) : Lexeme α → Bool
  | .word text => r.beginsImageData text
  | _ => false

/-- Read a lexeme, and the data of the inline image that it opens, from the bytes behind it. -/
def step (r : Reader α) (x : Lexeme α) (rest : List UInt8)
    : Except Halt (Reader α × List UInt8) :=
  if r.beginsData x then .ok (r.leaveImage, afterImageData rest)
  else
    match r.accept x with
    | .ok next => .ok (next, rest)
    | .error cause => .error ⟨cause, rest.length⟩

/--
The item that the step from `r` to `next` completes. Nothing is complete within the header of an
inline image or within a collection.
-/
def item? (r next : Reader α) (x : Lexeme α) (rest : List UInt8) : Option Item :=
  if r.beginsData x then some (.image (closesImage rest))
  else if next.inImage || !next.opened.isEmpty then none
  else
    match x, r.opened with
    | .word text, [] =>
      if (constant? (α := α) text).isSome then some .operand else some (.operator text)
    | _, _ => some .operand

theorem length_step_le {r next : Reader α} {x : Lexeme α} {rest after : List UInt8}
    (h : r.step x rest = .ok (next, after))
    : after.length ≤ rest.length := by
  unfold step at h
  split at h
  . cases h
    apply length_afterImageData_le
  . split at h
    . cases h
      apply Nat.le_refl
    . cases h

/-!
What a step does to the operators read and to the operands that wait for the next one.
-/

/-- Nothing is read but an operand, and that only at the top level. -/
def Keeps (r next : Reader α) : Prop :=
  next.operators = r.operators ∧
    (next.operands = r.operands ∨ (next.inImage = false ∧ next.opened = []))

theorem deliver_keeps {r next : Reader α} {o : Operand α} (h : r.deliver o = .ok next)
    : r.Keeps next := by
  unfold deliver at h
  split at h
  . next hopened =>
    cases h
    split
    . exact ⟨rfl, .inl rfl⟩
    . next himage => exact ⟨rfl, .inr ⟨Bool.eq_false_iff.mpr himage, hopened⟩⟩
  . cases h
    exact ⟨rfl, .inl rfl⟩
  . cases h
    exact ⟨rfl, .inl rfl⟩
  . split at h
    . cases h
      exact ⟨rfl, .inl rfl⟩
    . cases h

theorem closeArray_keeps {r next : Reader α} (h : r.closeArray = .ok next) : r.Keeps next := by
  unfold closeArray at h
  split at h
  . split at h
    . cases h
      exact ⟨rfl, .inl rfl⟩
    . cases h
  . have hkeeps := deliver_keeps h
    exact hkeeps
  . cases h
  . cases h

theorem closeDictionary_keeps {r next : Reader α} (h : r.closeDictionary = .ok next)
    : r.Keeps next := by
  unfold closeDictionary at h
  split at h
  . split at h
    . cases h
      exact ⟨rfl, .inl rfl⟩
    . cases h
  . cases h
  . cases h
  . have hkeeps := deliver_keeps h
    exact hkeeps

/-- The reader behind an operator, which takes the operands that wait. -/
def behindOperator (r : Reader α) (name : String) : Reader α :=
  { r with operators := ⟨name, r.operands.reverse⟩ :: r.operators, operands := [] }

theorem word_spec {r next : Reader α} {text : String} (h : r.word text = .ok next)
    : (r.Keeps next ∧ (r.opened = [] → constant? (α := α) text = none → next.inImage = true)) ∨
        (r.opened = [] ∧ r.inImage = false ∧ constant? (α := α) text = none ∧
          next = r.behindOperator text) := by
  unfold word at h
  split at h
  . cases h
  . next hopened =>
    refine .inl ⟨deliver_keeps h, ?_⟩
    intro hnil
    rw [hnil] at hopened
    cases hopened
  . next hopened =>
    split at h
    . next himage =>
      cases h
      exact .inl ⟨⟨rfl, .inl rfl⟩, fun _ _ => himage⟩
    . next himage =>
      split at h
      . next o ho =>
        refine .inl ⟨deliver_keeps h, ?_⟩
        intro _ hnone
        rw [hnone] at ho
        cases ho
      . next hnone =>
        split at h
        . cases h
          exact .inl ⟨⟨rfl, .inl rfl⟩, fun _ _ => rfl⟩
        . cases h
          exact .inr ⟨hopened, Bool.eq_false_iff.mpr himage, hnone, rfl⟩

/-- What completing an item does. -/
inductive Completes (r next : Reader α) : Option Item → Prop
  | nothing (hoperators : next.operators = r.operators) (hoperands : next.operands = r.operands)
    : Completes r next none
  | operand (hoperators : next.operators = r.operators) : Completes r next (some .operand)
  | operator (name : String)
      (hoperators : next.operators = ⟨name, r.operands.reverse⟩ :: r.operators)
      (hoperands : next.operands = [])
    : Completes r next (some (.operator name))
  | image (closed : Bool) (hoperators : next.operators = r.operators)
      (hoperands : next.operands = [])
    : Completes r next (some (.image closed))

theorem accept_keeps {r next : Reader α} {x : Lexeme α} (hx : ∀ text, x ≠ .word text)
    (h : r.accept x = .ok next)
    : r.Keeps next := by
  cases x with
  | word text => exact absurd rfl (hx text)
  | atom o => exact deliver_keeps h
  | arrayClose => exact closeArray_keeps h
  | dictionaryClose => exact closeDictionary_keeps h
  | arrayOpen | dictionaryOpen =>
    cases h
    exact ⟨rfl, .inl rfl⟩

theorem Keeps.nothing {r next : Reader α} (h : r.Keeps next)
    (hinner : (next.inImage || !next.opened.isEmpty) = true)
    : r.Completes next none := by
  refine .nothing h.1 (h.2.resolve_right ?_)
  intro houter
  rw [houter.1, houter.2] at hinner
  cases hinner

theorem word_completes {r next : Reader α} {text : String} {rest : List UInt8}
    (hdata : ¬r.beginsData (.word text) = true) (h : r.word text = .ok next)
    : r.Completes next (r.item? next (.word text) rest) := by
  unfold item?
  rw [if_neg hdata]
  rcases word_spec h with ⟨hkeeps, himage⟩ | ⟨hopened, himage, hnone, heq⟩
  . split
    . next hinner => exact hkeeps.nothing hinner
    . next hinner =>
      cases hopened : r.opened with
      | nil =>
        cases hconstant : constant? (α := α) text with
        | none =>
          rw [himage hopened hconstant] at hinner
          contradiction
        | some o =>
          dsimp only
          rw [hconstant]
          exact .operand hkeeps.1
      | cons top outer => exact .operand hkeeps.1
  . have houter : ¬(next.inImage || !next.opened.isEmpty) = true := by
      rw [heq]
      simp [behindOperator, himage, hopened]
    rw [if_neg houter, hopened]
    dsimp only
    rw [hnone, heq]
    exact .operator text rfl rfl

theorem step_completes {r next : Reader α} {x : Lexeme α} {rest after : List UInt8}
    (h : r.step x rest = .ok (next, after))
    : r.Completes next (r.item? next x rest) := by
  unfold step at h
  by_cases hdata : r.beginsData x = true
  . rw [if_pos hdata] at h
    cases h
    unfold item?
    rw [if_pos hdata]
    exact .image _ rfl rfl
  . rw [if_neg hdata] at h
    split at h
    . next s haccept =>
      cases h
      by_cases hx : ∃ text, x = .word text
      . rcases hx with ⟨text, heq⟩
        subst heq
        exact word_completes hdata haccept
      . have hkeeps := accept_keeps (not_exists.mp hx) haccept
        unfold item?
        rw [if_neg hdata]
        split
        . next hinner => exact hkeeps.nothing hinner
        . split
          . exact absurd ⟨_, rfl⟩ hx
          . exact .operand hkeeps.1
    . cases h

namespace Completes

variable {r next : Reader α} {item : Option Item}

theorem operands_eq_nil (h : r.Completes next item) (hitem : item ≠ some .operand)
    (hr : item = none → r.operands = [])
    : next.operands = [] := by
  cases h with
  | nothing hoperators hoperands => rw [hoperands, hr rfl]
  | operand hoperators => contradiction
  | operator name hoperators hoperands => exact hoperands
  | image closed hoperators hoperands => exact hoperands

end Completes

/-- What the operators and the operands are once the bytes have ended outside every collection. -/
theorem finish_spec {r : Reader α} {ops : List (Operator α)} (h : r.finish = .ok ops)
    : r = ⟨ops.reverse, r.operands, false, []⟩ := by
  unfold finish at h
  split at h
  . cases h
  . cases h
  . cases h
  . next hopened =>
    split at h
    . cases h
    . next himage =>
      cases h
      rw [List.reverse_reverse, ← Bool.eq_false_iff.mpr himage, ← hopened]

variable [Scalar α]

/-- A run takes one lexeme after the other, a step for each. -/
theorem run_eq (r : Reader α) (bytes : List UInt8)
    : r.run bytes
        =
      match nextLexeme (α := α) bytes with
      | .error halt => .error halt
      | .ok none => r.finish.mapError (⟨·, 0⟩)
      | .ok (some (x, rest)) =>
        match r.step x rest with
        | .error halt => .error halt
        | .ok (next, after) => next.run after := by
  rw [run]
  split
  . next hnext => rw [hnext]
  . next hnext => rw [hnext]
  . next x rest hnext =>
    conv => rhs; rw [hnext]
    unfold step
    cases x with
    | word text =>
      dsimp only
      by_cases hdata : r.beginsImageData text = true
      . have hbegins : r.beginsData (.word text) = true := hdata
        rw [if_pos hdata, if_pos hbegins]
      . have hbegins : ¬r.beginsData (.word text) = true := hdata
        rw [if_neg hdata, if_neg hbegins]
        cases r.accept (.word text) with
        | error cause => rfl
        | ok next => rfl
    | _ =>
      simp only [beginsData, Bool.false_eq_true, if_false]
      generalize r.accept _ = outcome
      cases outcome with
      | error cause => rfl
      | ok next => rfl

section Run

variable (r : Reader α) {bytes : List UInt8}

theorem run_of_error {halt : Halt} (hnext : nextLexeme (α := α) bytes = .error halt)
    : r.run bytes = .error halt := by
  rw [run_eq, hnext]

theorem run_end (hnext : nextLexeme (α := α) bytes = .ok none)
    : r.run bytes = r.finish.mapError (⟨·, 0⟩) := by
  rw [run_eq, hnext]

theorem run_step {x : Lexeme α} {rest : List UInt8}
    (hnext : nextLexeme bytes = .ok (some (x, rest)))
    : r.run bytes
        =
      match r.step x rest with
      | .error halt => .error halt
      | .ok (next, after) => next.run after := by
  rw [run_eq, hnext]

end Run

/-- The items at the top level of the bytes, as far as a run reads them. -/
def outline (r : Reader α) (bytes : List UInt8) : List Item :=
  match h : nextLexeme (α := α) bytes with
  | .error _ => []
  | .ok none => []
  | .ok (some (x, rest)) =>
    match hstep : r.step x rest with
    | .error _ => []
    | .ok (next, after) =>
      have := length_nextLexeme_lt h
      have := length_step_le hstep
      (r.item? next x rest).toList ++ next.outline after
termination_by bytes.length

theorem outline_eq (r : Reader α) (bytes : List UInt8)
    : r.outline bytes
        =
      match nextLexeme (α := α) bytes with
      | .error _ => []
      | .ok none => []
      | .ok (some (x, rest)) =>
        match r.step x rest with
        | .error _ => []
        | .ok (next, after) => (r.item? next x rest).toList ++ next.outline after := by
  rw [outline]
  split
  . next hnext => rw [hnext]
  . next hnext => rw [hnext]
  . next x rest hnext =>
    conv => rhs; rw [hnext]
    dsimp only
    split
    . next hstep => rw [hstep]
    . next hstep => rw [hstep]

/--
The reader takes the bytes to their end, completes the items on the way, and is then the last one.
-/
inductive Reads : Reader α → List UInt8 → List Item → Reader α → Prop where
  | done {r : Reader α} {bytes : List UInt8} (hnext : nextLexeme (α := α) bytes = .ok none)
    : Reads r bytes [] r
  | step {r next last : Reader α} {x : Lexeme α} {bytes rest after : List UInt8}
      {items : List Item} (hnext : nextLexeme bytes = .ok (some (x, rest)))
      (hstep : r.step x rest = .ok (next, after)) (hafter : Reads next after items last)
    : Reads r bytes ((r.item? next x rest).toList ++ items) last

theorem reads_of_run {r : Reader α} {bytes : List UInt8} {ops : List (Operator α)}
    (h : r.run bytes = .ok ops)
    : ∃ last, Reads r bytes (r.outline bytes) last ∧ last.finish = .ok ops := by
  induction r, bytes using outline.induct with
  | case1 r bytes halt hnext =>
    rw [run_of_error r hnext] at h
    cases h
  | case2 r bytes hnext =>
    rw [run_end r hnext] at h
    rw [outline_eq, hnext]
    exact ⟨r, .done hnext, ok_of_mapError_ok h⟩
  | case3 r bytes x rest hnext halt hstep =>
    rw [run_step r hnext, hstep] at h
    cases h
  | case4 r bytes x rest hnext next after hstep _ _ ih =>
    rw [run_step r hnext, hstep] at h
    rcases ih h with ⟨last, hreads, hfinish⟩
    rw [outline_eq, hnext]
    dsimp only
    rw [hstep]
    exact ⟨last, .step hnext hstep hreads, hfinish⟩

namespace Reads

variable {r last : Reader α} {bytes : List UInt8} {items : List Item}

/-- Operands wait at the end only if the last item is one. -/
theorem operands_eq_nil (h : Reads r bytes items last) (hlast : items.getLast? ≠ some .operand)
    (hr : items = [] → r.operands = [])
    : last.operands = [] := by
  induction h with
  | done hnext => exact hr rfl
  | @step r next last x bytes rest after items hnext hstep hafter ih =>
    have hcompletes := step_completes hstep
    rw [List.getLast?_append] at hlast
    apply ih
    . intro hitems
      rw [hitems] at hlast
      contradiction
    . intro hitems
      subst hitems
      apply hcompletes.operands_eq_nil
      . intro hitem
        rw [hitem] at hlast
        contradiction
      . intro hitem
        rw [hitem] at hr
        exact hr rfl

end Reads

end Reader

variable {α : Type} [Scalar α]

/-- The items at the top level of a content stream. -/
def topLevel (α : Type) [Scalar α] (bytes : List UInt8) : List Item :=
  (Reader.empty (α := α)).outline bytes

theorem reads_of_tokenize {bytes : List UInt8} {ops : List (Operator α)}
    (h : tokenize bytes = .ok ops)
    : ∃ operands,
        Reader.empty.Reads bytes (topLevel α bytes) ⟨ops.reverse, operands, false, []⟩ := by
  rcases Reader.reads_of_run (ok_of_mapError_ok h) with ⟨last, hreads, hfinish⟩
  rw [Reader.finish_spec hfinish] at hreads
  exact ⟨last.operands, hreads⟩

end Galley.Content
