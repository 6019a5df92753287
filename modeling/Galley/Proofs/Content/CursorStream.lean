import Galley.Proofs.Content.CursorDescent

/-!
This module shows that the cursor reads any content stream to an end, in range all the way, and
finds the operators or the fault that the reader of lexemes finds.
-/

namespace Galley.Content

theorem skipImageData_suffix (afterBlank : Bool) (bytes : List UInt8)
    : skipImageData afterBlank bytes <:+ bytes := by
  induction bytes generalizing afterBlank with
  | nil => exact List.suffix_rfl
  | cons b rest ih =>
    have hrest := List.suffix_cons b rest
    rw [skipImageData]
    split
    . exact (List.tail_suffix rest).trans hrest
    . exact (ih _).trans hrest

theorem afterImageData_suffix (bytes : List UInt8) : afterImageData bytes <:+ bytes := by
  unfold afterImageData
  split
  . next b rest =>
    split
    . exact (skipImageData_suffix true rest).trans (List.suffix_cons b rest)
    . exact skipImageData_suffix false (b :: rest)
  . exact List.suffix_rfl

variable {α : Type} [Scalar α]

namespace Reader

/-- In the header of an inline image every token is passed over but `ID`. -/
theorem runBehind_header {r : Reader α} (himage : r.inImage = true) (hopened : r.opened = [])
    {token : Token α} (htoken : token ≠ .word "ID") (rest : List UInt8)
    : r.runBehind token.lexeme rest = r.run rest := by
  have hstep : r.step token.lexeme rest = .ok (r, rest) := by
    cases token with
    | operand o =>
      simp [step, Token.lexeme, beginsData, accept, deliver, himage, hopened]
    | word text =>
      have htext : text ≠ "ID" := by
        rintro rfl
        exact htoken rfl
      simp [step, Token.lexeme, beginsData, beginsImageData, accept, word, himage, hopened, htext]
    | arrayEnd =>
      simp [step, Token.lexeme, beginsData, accept, closeArray, himage, hopened]
    | dictionaryEnd =>
      simp [step, Token.lexeme, beginsData, accept, closeDictionary, himage, hopened]
  unfold runBehind
  rw [hstep]

theorem runBehind_imageData {r : Reader α} (himage : r.inImage = true) (hopened : r.opened = [])
    (rest : List UInt8)
    : r.runBehind (.word "ID") rest = r.leaveImage.run (afterImageData rest) := by
  have hdata : r.beginsData (.word "ID") = true := by
    simp [beginsData, beginsImageData, himage, hopened]
  unfold runBehind step
  rw [if_pos hdata]

theorem runBehind_word {r : Reader α} (himage : r.inImage = false) (hopened : r.opened = [])
    (text : String) (rest : List UInt8)
    : r.runBehind (.word text) rest
        =
      match constant? text with
      | some o => { r with operands := o :: r.operands }.run rest
      | none =>
        if text = "BI" then { r with inImage := true }.run rest
        else
          { r with operators := ⟨text, r.operands.reverse⟩ :: r.operators, operands := [] }.run
            rest := by
  have hdata : r.beginsData (.word text) = false := by
    simp [beginsData, beginsImageData, himage]
  unfold runBehind step
  rw [hdata]
  simp only [Bool.false_eq_true, if_false, accept, word, hopened, himage]
  cases constant? (α := α) text with
  | some o => simp only [deliver, hopened, himage, Bool.false_eq_true, if_false]
  | none => by_cases himage : text = "BI" <;> simp only [himage, if_true, if_false]

end Reader

namespace Cursor

variable {content : List UInt8}

variable (α) in
/-- How the header of an inline image is passed, and what it means for all who are within it. -/
inductive HeaderFound (content bytes : List UInt8) : Except Stop (Unit × Nat) → Prop
  | closed {rest : List UInt8} (hrest : rest <:+ bytes) (hlength : rest.length < bytes.length)
      (hends : Ends rest)
      (hrun : ∀ r : Reader α, r.inImage = true → r.opened = [] →
        r.run bytes = r.leaveImage.run (afterImageData rest))
    : HeaderFound content bytes (.ok ((), place content rest))
  | fault (halt : Halt)
      (hrun : ∀ r : Reader α, r.inImage = true → r.opened = [] → r.run bytes = .error halt)
    : HeaderFound content bytes (.error (.fault ⟨halt.cause, content.length - halt.unread⟩))

theorem pastHeader_spec (bytes : List UInt8) (h : bytes <:+ content)
    : ∃ found, pastHeader α content (place content bytes) = some found ∧
        HeaderFound α content bytes found := by
  rcases (descends (α := α) bytes h).token with ⟨found, hread, hfound⟩
  rw [pastHeader]
  simp only [bind_eq, hread]
  cases hfound with
  | ended hnext =>
    refine ⟨_, rfl, .fault ⟨.unterminatedImage, 0⟩ ?_⟩
    intro r himage hopened
    have hfinish : r.finish = .error .unterminatedImage := by
      simp [Reader.finish, himage, hopened]
    rw [r.run_end hnext, hfinish]
    rfl
  | fault halt hrun => exact ⟨_, rfl, .fault halt fun r _ _ => hrun r⟩
  | @token token rest hrest hlength hword hrun =>
    by_cases htoken : token = .word "ID"
    . subst htoken
      refine ⟨_, rfl, .closed hrest hlength (hword _ rfl) ?_⟩
      intro r himage hopened
      rw [hrun]
      exact Reader.runBehind_imageData himage hopened rest
    . have hnext : ∃ found, pastHeader α content (place content rest) = some found ∧
          HeaderFound α content bytes found := by
        rcases pastHeader_spec rest (hrest.trans h) with ⟨found, hread, hfound⟩
        refine ⟨found, hread, ?_⟩
        have hrun (r : Reader α) (himage : r.inImage = true) (hopened : r.opened = [])
            : r.run bytes = r.run rest := by
          rw [hrun, Reader.runBehind_header himage hopened htoken]
        cases hfound with
        | closed hbehind hless hends hclosed =>
          refine .closed (hbehind.trans hrest) (Nat.lt_trans hless hlength) hends ?_
          intro r himage hopened
          rw [hrun r himage hopened, hclosed r himage hopened]
        | fault halt hfault =>
          refine .fault halt ?_
          intro r himage hopened
          rw [hrun r himage hopened, hfault r himage hopened]
      cases token with
      | word text =>
        have htext : text ≠ "ID" := by
          rintro rfl
          exact htoken rfl
        simp only [htext, if_false]
        exact hnext
      | _ => exact hnext
termination_by bytes.length

theorem pastImage_spec (bytes : List UInt8) (h : bytes <:+ content)
    : (∃ rest, rest <:+ bytes ∧ rest.length < bytes.length ∧
        pastImage α content (place content bytes) = some (.ok ((), place content rest)) ∧
        ∀ r : Reader α, r.inImage = true → r.opened = [] → r.run bytes = r.leaveImage.run rest) ∨
      ∃ halt : Halt,
        pastImage α content (place content bytes)
            =
          some (.error (.fault ⟨halt.cause, content.length - halt.unread⟩)) ∧
        ∀ r : Reader α, r.inImage = true → r.opened = [] → r.run bytes = .error halt := by
  rcases pastHeader_spec (α := α) bytes h with ⟨found, hread, hfound⟩
  unfold pastImage
  rw [bind_eq, hread]
  cases hfound with
  | @closed rest hrest hlength hends hrun =>
    have hafter := afterImageData_suffix rest
    exact .inl ⟨afterImageData rest, hafter.trans hrest,
      Nat.lt_of_le_of_lt hafter.length_le hlength, pastImageData_eq (hrest.trans h) hends, hrun⟩
  | fault halt hrun => exact .inr ⟨halt, rfl, hrun⟩

/-- What the cursor finds in a whole stream if a reader finds this. -/
def reportRun (content : List UInt8) (result : Except Halt (List (Operator α)))
    : Except Stop (List (Operator α) × Nat) :=
  report content (result.map fun operators => (operators, []))

theorem operatorsFrom_eq (bytes : List UInt8) (h : bytes <:+ content)
    (operators : List (Operator α)) (operands : List (Operand α))
    : operatorsFrom content operators operands (place content bytes)
        =
      some (reportRun content
        ((Reader.mk operators.reverse operands.reverse false []).run bytes)) := by
  rcases (descends (α := α) bytes h).token with ⟨found, hread, hfound⟩
  rw [operatorsFrom]
  simp only [bind_eq, hread]
  cases hfound with
  | ended hnext =>
    have hfinish : (Reader.mk operators.reverse operands.reverse false []).finish = .ok operators :=
      congrArg Except.ok operators.reverse_reverse
    rw [Reader.run_end _ hnext, hfinish]
    rfl
  | fault halt hrun =>
    rw [hrun]
    rfl
  | @token token rest hrest hlength hword hrun =>
    have hbehind := hrest.trans h
    rw [hrun]
    cases token with
    | operand o =>
      dsimp only
      rw [operatorsFrom_eq rest hbehind, List.reverse_append]
      rfl
    | word text =>
      dsimp only
      rw [Token.lexeme, Reader.runBehind_word rfl rfl]
      cases Reader.constant? (α := α) text with
      | some o =>
        dsimp only
        rw [operatorsFrom_eq rest hbehind, List.reverse_append]
        rfl
      | none =>
        dsimp only
        by_cases himage : text = "BI"
        . rw [if_pos himage, if_pos himage, bind_eq]
          rcases pastImage_spec (α := α) rest hbehind with
            ⟨after, hafter, hless, hpast, hleave⟩ | ⟨halt, hpast, hfault⟩
          . have hlength := Nat.lt_trans hless hlength
            rw [hpast, hleave _ rfl rfl]
            dsimp only
            rw [operatorsFrom_eq after (hafter.trans hbehind)]
            rfl
          . rw [hpast, hfault _ rfl rfl]
            rfl
        . rw [if_neg himage, if_neg himage]
          rw [operatorsFrom_eq rest hbehind, List.reverse_append, List.reverse_reverse]
          rfl
    | arrayEnd => rfl
    | dictionaryEnd => rfl
termination_by bytes.length

variable (α) in
theorem tokenize_eq (content : List UInt8)
    : Cursor.tokenize content (α := α) = some ((Content.tokenize content).mapError .fault) := by
  have hread := operatorsFrom_eq (α := α) content List.suffix_rfl [] []
  have hstart : place content content = 0 := Nat.sub_self _
  rw [hstart] at hread
  have hrun
      : Cursor.tokenize content (α := α)
          =
        some ((reportRun content (Reader.empty.run content)).map Prod.fst) := by
    unfold Cursor.tokenize StateT.run'
    simp only [ExceptT.run_map, hread]
    rfl
  rw [hrun]
  unfold Content.tokenize reportRun
  cases Reader.empty.run (α := α) content <;> rfl

/-- What the cursor may do if it is asked for a token at a place. -/
inductive Moves (content : List UInt8) (pos : Nat)
    : Option (Except Stop (Option (Token α) × Nat)) → Prop
  | ended : Moves content pos (some (.ok (none, content.length)))
  | token {token : Token α} {after : Nat} (hfurther : pos < after)
      (hrange : after ≤ content.length)
    : Moves content pos (some (.ok (some token, after)))
  | fault {f : Fault} (hrange : f.offset ≤ content.length)
    : Moves content pos (some (.error (.fault f)))

variable (α) in
theorem nextToken_moves {pos : Nat} (hpos : pos ≤ content.length)
    : Moves (α := α) content pos (nextToken content pos) := by
  have hsuffix := List.drop_suffix pos content
  have hplace : place content (content.drop pos) = pos := by
    rw [place, List.length_drop]
    omega
  rcases (descends (α := α) (content.drop pos) hsuffix).token with ⟨found, hread, hfound⟩
  rw [hplace] at hread
  rw [hread]
  cases hfound with
  | ended => exact .ended
  | @token token rest hrest hlength =>
    have hfurther := place_lt hsuffix hlength
    rw [hplace] at hfurther
    exact .token hfurther (place_le rest)
  | fault halt => exact .fault (Nat.sub_le ..)

end Cursor

theorem offset_le_of_tokenize {content : List UInt8} {f : Fault}
    (h : tokenize (α := α) content = .error f)
    : f.offset ≤ content.length := by
  unfold tokenize at h
  cases hrun : Reader.empty.run (α := α) content with
  | ok operators =>
    rw [hrun] at h
    cases h
  | error halt =>
    rw [hrun] at h
    cases h
    exact Nat.sub_le ..

variable (α) in
/--
The cursor comes to an end on all bytes, never out of range, with what the reader of lexemes finds;
whatever fault it reports lies in the stream, and each token takes it further.
-/
theorem cursor_stays_in_range (content : List UInt8)
    : Cursor.tokenize content (α := α) = some ((tokenize content).mapError .fault) ∧
      (∀ f, tokenize (α := α) content = .error f → f.offset ≤ content.length) ∧
      ∀ pos ≤ content.length,
        Cursor.Moves (α := α) content pos (Cursor.nextToken content pos) :=
  ⟨Cursor.tokenize_eq α content, fun _ => offset_le_of_tokenize,
    fun _ => Cursor.nextToken_moves α⟩

end Galley.Content
