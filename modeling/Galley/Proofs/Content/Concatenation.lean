import Galley.Binary64
import Galley.Proofs.Content.Outline

/-!
This module shows that content streams can be concatenated: behind a line feed a stream is read as
it would be by itself, if the one before it leaves neither operands nor image data open.
-/

namespace Galley.Content

namespace Reader

variable {α : Type}

/-- The reader that has read further operators before all others. -/
def behind (r : Reader α) (past : List (Operator α)) : Reader α :=
  { r with operators := r.operators ++ past }

section Behind

variable (r : Reader α) (past : List (Operator α))

theorem deliver_behind (o : Operand α)
    : (r.behind past).deliver o = (r.deliver o).map fun next => next.behind past := by
  rcases r with ⟨operators, operands, inImage, opened⟩
  cases opened with
  | nil => cases inImage <;> rfl
  | cons top outer =>
    cases top with
    | array items => rfl
    | dictionary entries key =>
      cases key with
      | some key => rfl
      | none => cases o <;> rfl

theorem word_behind (text : String)
    : (r.behind past).word text = (r.word text).map fun next => next.behind past := by
  have hdeliver := r.deliver_behind past
  unfold word behind at *
  dsimp only at *
  split
  . rfl
  . apply hdeliver
  . split
    . rfl
    . split
      . apply hdeliver
      . split <;> rfl

theorem closeArray_behind
    : (r.behind past).closeArray = r.closeArray.map fun next => next.behind past := by
  have hopened : (r.behind past).opened = r.opened := by rfl
  unfold closeArray
  rw [hopened]
  split
  . have himage : (r.behind past).inImage = r.inImage := by rfl
    rw [himage]
    split <;> rfl
  . next items outer _ => exact deliver_behind { r with opened := outer } past _
  . rfl
  . rfl

theorem closeDictionary_behind
    : (r.behind past).closeDictionary = r.closeDictionary.map fun next => next.behind past := by
  have hopened : (r.behind past).opened = r.opened := by rfl
  unfold closeDictionary
  rw [hopened]
  split
  . have himage : (r.behind past).inImage = r.inImage := by rfl
    rw [himage]
    split <;> rfl
  . rfl
  . rfl
  . next entries outer _ => exact deliver_behind { r with opened := outer } past _

theorem accept_behind (x : Lexeme α)
    : (r.behind past).accept x = (r.accept x).map fun next => next.behind past := by
  cases x with
  | atom o => apply deliver_behind
  | word text => apply word_behind
  | arrayOpen => rfl
  | arrayClose => apply closeArray_behind
  | dictionaryOpen => rfl
  | dictionaryClose => apply closeDictionary_behind

theorem step_behind (x : Lexeme α) (rest : List UInt8)
    : (r.behind past).step x rest
        =
      (r.step x rest).map fun (next, after) => (next.behind past, after) := by
  have hdata : (r.behind past).beginsData x = r.beginsData x := by cases x <;> rfl
  unfold step
  rw [hdata, accept_behind]
  split
  . rfl
  . cases r.accept x with
    | error cause => rfl
    | ok next => rfl

theorem finish_behind
    : (r.behind past).finish = r.finish.map fun ops => past.reverse ++ ops := by
  unfold finish behind
  dsimp only
  split
  . rfl
  . rfl
  . rfl
  . split
    . rfl
    . rw [List.reverse_append]
      rfl

end Behind

variable [Scalar α]

theorem run_behind (r : Reader α) (past : List (Operator α)) (bytes : List UInt8)
    : (r.behind past).run bytes = (r.run bytes).map fun ops => past.reverse ++ ops := by
  induction r, bytes using outline.induct with
  | case1 r bytes halt hnext =>
    rw [run_of_error _ hnext, run_of_error _ hnext]
    rfl
  | case2 r bytes hnext =>
    rw [run_end _ hnext, run_end _ hnext, finish_behind]
    cases r.finish with
    | error cause => rfl
    | ok ops => rfl
  | case3 r bytes x rest hnext halt hstep =>
    rw [run_step _ hnext, run_step _ hnext, step_behind, hstep]
    rfl
  | case4 r bytes x rest hnext next after hstep _ _ ih =>
    rw [run_step _ hnext, run_step _ hnext, step_behind, hstep]
    exact ih

/-- A run depends on the bytes only through the lexemes that it takes from them. -/
theorem run_congr (r : Reader α) {bytes bytes' : List UInt8}
    (h : nextLexeme (α := α) bytes = nextLexeme bytes')
    : r.run bytes = r.run bytes' := by
  rw [run_eq r bytes, run_eq r bytes', h]

omit [Scalar α] in
theorem step_append_lineFeed {r next : Reader α} {x : Lexeme α} {rest after : List UInt8}
    (h : r.step x rest = .ok (next, after)) (hclosed : r.item? next x rest ≠ some (.image false))
    (more : List UInt8)
    : r.step x (rest ++ 0x0A :: more) = .ok (next, after ++ 0x0A :: more) := by
  unfold step at h ⊢
  unfold item? at hclosed
  by_cases hdata : r.beginsData x = true
  . rw [if_pos hdata] at h hclosed ⊢
    cases h
    have hcloses : closesImage rest = true := by
      rw [← Bool.not_eq_false]
      intro hopen
      rw [hopen] at hclosed
      contradiction
    rw [afterImageData_append_lineFeed more hcloses]
  . rw [if_neg hdata] at h ⊢
    split at h
    . cases h
      rfl
    . cases h

/-- If no image data is left open, the last reader reads on behind a line feed. -/
theorem Reads.run_append_lineFeed {r last : Reader α} {bytes : List UInt8} {items : List Item}
    (h : Reads r bytes items last) (hclosed : .image false ∉ items) (more : List UInt8)
    : r.run (bytes ++ 0x0A :: more) = last.run more := by
  induction h with
  | @done r bytes hnext => exact r.run_congr (nextLexeme_append_lineFeed more hnext)
  | @step r next last x bytes rest after items hnext hstep hafter ih =>
    rw [List.mem_append, Option.mem_toList, not_or] at hclosed
    rw [r.run_step (nextLexeme_append_lineFeed more hnext)]
    rw [step_append_lineFeed hstep hclosed.1]
    exact ih hclosed.2

end Reader

/-!
A halt leaves no more bytes unread than there were.
-/

theorem unread_scanLiteral {mode : LiteralMode} {depth : Nat} {bytes : List UInt8} {halt : Halt}
    (h : scanLiteral mode depth bytes = .error halt)
    : halt.unread = 0 := by
  induction bytes generalizing mode depth with
  | nil =>
    cases h
    rfl
  | cons b rest ih =>
    simp only [scanLiteral] at h
    split at h
    . cases h
    . exact ih (error_of_map_error h)

theorem unread_scanHex_le {high : Option UInt8} {bytes : List UInt8} {halt : Halt}
    (h : scanHex high bytes = .error halt)
    : halt.unread ≤ bytes.length := by
  induction bytes generalizing high with
  | nil =>
    cases h
    apply Nat.le_refl
  | cons b rest ih =>
    have hlength : rest.length ≤ (b :: rest).length := by simp
    simp only [scanHex] at h
    split at h
    . cases h
    . split at h
      . exact Nat.le_trans (ih h) hlength
      . split at h
        . cases h
          exact hlength
        . exact Nat.le_trans (ih (error_of_map_error h)) hlength
        . exact Nat.le_trans (ih h) hlength

variable {α : Type} [Scalar α]

theorem unread_scanLexeme_le {b : UInt8} {rest : List UInt8} {halt : Halt}
    (h : scanLexeme (α := α) b rest = .error halt)
    : halt.unread ≤ rest.length := by
  unfold scanLexeme at h
  split at h
  . rw [unread_scanLiteral (error_of_map_error h)]
    apply Nat.zero_le
  split at h
  . split at h
    . cases h
    . exact unread_scanHex_le (error_of_map_error h)
  split at h
  . cases h
  split at h
  . cases h
  split at h
  . cases h
  split at h
  . cases h
  split at h
  . next hnumber =>
    dsimp only at h
    split at h
    . cases h
    . cases h
      exact length_scan_lt hnumber rest
  . cases h

theorem unread_nextLexeme_le {bytes : List UInt8} {halt : Halt}
    (h : nextLexeme (α := α) bytes = .error halt)
    : halt.unread ≤ bytes.length := by
  have hskip := length_skipFiller_le false bytes
  unfold nextLexeme at h
  split at h
  . cases h
  . next b rest heq =>
    have hscan := unread_scanLexeme_le (error_of_map_error h)
    rw [heq, List.length_cons] at hskip
    omega

omit [Scalar α] in
theorem unread_step {r : Reader α} {x : Lexeme α} {rest : List UInt8} {halt : Halt}
    (h : r.step x rest = .error halt)
    : halt.unread = rest.length := by
  unfold Reader.step at h
  split at h
  . cases h
  . split at h
    . cases h
    . cases h
      rfl

theorem unread_run_le {r : Reader α} {bytes : List UInt8} {halt : Halt}
    (h : r.run bytes = .error halt)
    : halt.unread ≤ bytes.length := by
  induction r, bytes using Reader.outline.induct with
  | case1 r bytes found hnext =>
    rw [r.run_of_error hnext] at h
    cases h
    exact unread_nextLexeme_le hnext
  | case2 r bytes hnext =>
    rw [r.run_end hnext] at h
    cases hfinish : r.finish with
    | error cause =>
      rw [hfinish] at h
      cases h
      apply Nat.zero_le
    | ok ops =>
      rw [hfinish] at h
      cases h
  | case3 r bytes x rest hnext found hstep =>
    rw [r.run_step hnext, hstep] at h
    cases h
    rw [unread_step hstep]
    exact Nat.le_of_lt (length_nextLexeme_lt hnext)
  | case4 r bytes x rest hnext next after hstep hrest hafter ih =>
    rw [r.run_step hnext, hstep] at h
    have hunread := ih h
    omega

theorem tokenize_append_lineFeed {before : List UInt8} {ops : List (Operator α)}
    (hbefore : tokenize before = .ok ops)
    (hlast : (topLevel α before).getLast? ≠ some .operand)
    (hclosed : .image false ∉ topLevel α before) (after : List UInt8)
    : tokenize (before ++ 0x0A :: after)
        =
      match tokenize after with
      | .ok later => .ok (ops ++ later)
      | .error fault => .error ⟨fault.cause, fault.offset + (before.length + 1)⟩ := by
  rcases reads_of_tokenize hbefore with ⟨operands, hreads⟩
  have hoperands : operands = [] := hreads.operands_eq_nil hlast fun _ => rfl
  subst hoperands
  have hrun := hreads.run_append_lineFeed hclosed after
  have hbehind : Reader.mk ops.reverse [] false [] = Reader.empty.behind ops.reverse := by rfl
  rw [hbehind, Reader.run_behind, List.reverse_reverse] at hrun
  unfold tokenize
  rw [hrun]
  cases h : Reader.empty.run (α := α) after with
  | ok later => rfl
  | error halt =>
    have hunread := unread_run_le h
    have hoffset
        : (before ++ 0x0A :: after).length - halt.unread
            =
          after.length - halt.unread + (before.length + 1) := by
      rw [List.length_append, List.length_cons]
      omega
    exact congrArg (fun offset => Except.error (Fault.mk halt.cause offset)) hoffset

-- the bytes of "q BI ID EI"
def savedImage : List UInt8 := [0x71, 0x20, 0x42, 0x49, 0x20, 0x49, 0x44, 0x20, 0x45, 0x49]

theorem tokenize_savedImage : tokenize (α := Float) savedImage = .ok [⟨"q", []⟩] := by
  unfold tokenize
  rw [Reader.run_step _ (x := .word "q") rfl]
  change Except.mapError _ (Reader.run ⟨[⟨"q", []⟩], [], false, []⟩ (savedImage.drop 1)) = _
  rw [Reader.run_step _ (x := .word "BI") rfl]
  change Except.mapError _ (Reader.run ⟨[⟨"q", []⟩], [], true, []⟩ (savedImage.drop 4)) = _
  rw [Reader.run_step _ (x := .word "ID") rfl]
  change Except.mapError _ (Reader.run ⟨[⟨"q", []⟩], [], false, []⟩ []) = _
  rw [Reader.run_end _ rfl]
  rfl

theorem tokenize_savedImage_append
    : tokenize (α := Float) savedImage = .ok [⟨"q", []⟩] ∧
        (topLevel Float savedImage).getLast? ≠ some .operand ∧
          .image false ∉ topLevel Float savedImage ∧
            tokenize (α := Float) (savedImage ++ [0x0A, 0x5D])
              =
            .error ⟨.arrayEndOutside, 12⟩ := by
  have hlast : (topLevel Float savedImage).getLast? ≠ some .operand := by decide +kernel
  have hclosed : .image false ∉ topLevel Float savedImage := by decide +kernel
  have hstray : tokenize (α := Float) [0x5D] = .error ⟨.arrayEndOutside, 1⟩ := by
    unfold tokenize
    rw [Reader.run_step _ (x := .arrayClose) rfl]
    rfl
  refine ⟨tokenize_savedImage, hlast, hclosed, ?_⟩
  rw [tokenize_append_lineFeed tokenize_savedImage hlast hclosed, hstray]
  rfl

end Galley.Content
