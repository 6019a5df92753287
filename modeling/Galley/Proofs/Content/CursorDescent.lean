import Galley.Proofs.Content.CursorScan

/-!
This module shows that the cursor comes to an end in range wherever it starts, having moved if it
has found a token, and that it finds in a content stream what the reader finds that takes one
lexeme after the other.
-/

namespace Galley.Content

/-!
What is left behind a lexeme is the end of the bytes.
-/

theorem skipFiller_suffix (inComment : Bool) (bytes : List UInt8)
    : skipFiller inComment bytes <:+ bytes := by
  induction bytes generalizing inComment with
  | nil => cases inComment <;> exact List.suffix_rfl
  | cons b rest ih =>
    have hrest (inComment : Bool) : skipFiller inComment rest <:+ b :: rest :=
      (ih inComment).trans (List.suffix_cons b rest)
    cases inComment with
    | true => exact hrest _
    | false =>
      rw [skipFiller]
      split
      . exact hrest true
      . split
        . exact List.suffix_rfl
        . exact hrest false

theorem suffix_of_scanLiteral {mode : LiteralMode} {depth : Nat} {bytes s rest : List UInt8}
    (h : scanLiteral mode depth bytes = .ok (s, rest))
    : rest <:+ bytes := by
  induction bytes generalizing mode depth s with
  | nil => cases h
  | cons b tail ih =>
    rw [scanLiteral] at h
    split at h
    . cases h
      exact List.suffix_cons b _
    . rcases ok_of_map_ok h with ⟨found, hfound, heq⟩
      cases heq
      exact (ih hfound).trans (List.suffix_cons b tail)

theorem suffix_of_scanHex {high : Option UInt8} {bytes s rest : List UInt8}
    (h : scanHex high bytes = .ok (s, rest))
    : rest <:+ bytes := by
  induction bytes generalizing high s with
  | nil => cases h
  | cons b tail ih =>
    have hsuffix := List.suffix_cons b tail
    rw [scanHex.eq_def] at h
    dsimp only at h
    split at h
    . cases h
      exact hsuffix
    . split at h
      . exact (ih h).trans hsuffix
      . split at h
        . cases h
        . rcases ok_of_map_ok h with ⟨found, hfound, heq⟩
          cases heq
          exact (ih hfound).trans hsuffix
        . exact (ih h).trans hsuffix

theorem suffix_of_scan (bytes : List UInt8) : (Numeral.scan bytes).2 <:+ bytes := by
  rcases Cursor.scan_split bytes with ⟨front, hfront, _⟩
  exact ⟨front, hfront.symm⟩

variable {α : Type} [Scalar α]

theorem suffix_of_scanLexeme {b : UInt8} {bytes rest : List UInt8} {x : Lexeme α}
    (h : scanLexeme b bytes = .ok (x, rest))
    : rest <:+ b :: bytes := by
  have hsuffix := List.suffix_cons b bytes
  unfold scanLexeme at h
  split at h
  . rcases ok_of_map_ok h with ⟨found, hfound, heq⟩
    cases heq
    exact (suffix_of_scanLiteral hfound).trans hsuffix
  split at h
  . split at h
    . next r =>
      cases h
      exact (List.suffix_cons 0x3C rest).trans hsuffix
    . rcases ok_of_map_ok h with ⟨found, hfound, heq⟩
      cases heq
      exact (suffix_of_scanHex hfound).trans hsuffix
  split at h
  . cases h
    exact (List.tail_suffix bytes).trans hsuffix
  split at h
  . cases h
    exact hsuffix
  split at h
  . cases h
    exact hsuffix
  split at h
  . cases h
    exact (List.dropWhile_suffix isRegular).trans hsuffix
  split at h
  . dsimp only at h
    split at h
    . cases h
      exact suffix_of_scan (b :: bytes)
    . cases h
  . cases h
    exact (List.dropWhile_suffix isRegular).trans hsuffix

theorem suffix_of_nextLexeme {bytes rest : List UInt8} {x : Lexeme α}
    (h : nextLexeme bytes = .ok (some (x, rest)))
    : rest <:+ bytes := by
  have hskip := skipFiller_suffix false bytes
  unfold nextLexeme at h
  split at h
  . cases h
  . next b tail heq =>
    rw [heq] at hskip
    rcases ok_of_map_ok h with ⟨found, hfound, hsome⟩
    cases hsome
    exact (suffix_of_scanLexeme hfound).trans hskip

/-- The lexeme that stands for a token as a whole. -/
def Token.lexeme {α : Type} : Token α → Lexeme α
  | .operand o => .atom o
  | .word text => .word text
  | .arrayEnd => .arrayClose
  | .dictionaryEnd => .dictionaryClose

namespace Reader

/-- Read a lexeme and then the bytes behind it. -/
def runBehind (r : Reader α) (x : Lexeme α) (rest : List UInt8)
    : Except Halt (List (Operator α)) :=
  match r.step x rest with
  | .error halt => .error halt
  | .ok (next, after) => next.run after

section

omit [Scalar α]

/-- The reader within one more collection. -/
def within (r : Reader α) (top : Opened α) : Reader α := { r with opened := top :: r.opened }

variable (r : Reader α)

theorem beginsData_within (top : Opened α) (x : Lexeme α)
    : (r.within top).beginsData x = false := by
  cases x with
  | word text => simp [beginsData, beginsImageData, within]
  | _ => rfl

end

variable (r : Reader α) (rest : List UInt8)

theorem runBehind_within (top : Opened α) (x : Lexeme α)
    : (r.within top).runBehind x rest
        =
      match (r.within top).accept x with
      | .error cause => .error ⟨cause, rest.length⟩
      | .ok next => next.run rest := by
  unfold runBehind step
  rw [beginsData_within]
  simp only [Bool.false_eq_true, if_false]
  cases (r.within top).accept x <;> rfl

theorem runBehind_atom (o : Operand α)
    : r.runBehind (.atom o) rest
        =
      match r.deliver o with
      | .error cause => .error ⟨cause, rest.length⟩
      | .ok next => next.run rest := by
  unfold runBehind step
  simp only [beginsData, Bool.false_eq_true, if_false, accept]
  cases r.deliver o <;> rfl

end Reader

namespace Cursor

variable {content : List UInt8}

/-- How the next token of bytes is found, and what it means for all who read them. -/
inductive TokenFound (content bytes : List UInt8) : Except Stop (Option (Token α) × Nat) → Prop
  | ended (hnext : nextLexeme (α := α) bytes = .ok none)
    : TokenFound content bytes (.ok (none, content.length))
  | token {token : Token α} {rest : List UInt8} (hrest : rest <:+ bytes)
      (hlength : rest.length < bytes.length) (hword : ∀ text, token = .word text → Ends rest)
      (hrun : ∀ r : Reader α, r.run bytes = r.runBehind token.lexeme rest)
    : TokenFound content bytes (.ok (some token, place content rest))
  | fault (halt : Halt) (hrun : ∀ r : Reader α, r.run bytes = .error halt)
    : TokenFound content bytes (.error (.fault ⟨halt.cause, content.length - halt.unread⟩))

/-- How the end of a collection is found, and what it means for all who are within it. -/
inductive EndFound {β : Type} (content bytes : List UInt8) (top : Opened α)
    (pack : β → Operand α) : Except Stop (β × Nat) → Prop
  | closed {members : β} {rest : List UInt8} (hrest : rest <:+ bytes)
      (hlength : rest.length < bytes.length)
      (hrun : ∀ r : Reader α,
        (r.within top).run bytes = r.runBehind (.atom (pack members)) rest)
    : EndFound content bytes top pack (.ok (members, place content rest))
  | fault (halt : Halt) (hrun : ∀ r : Reader α, (r.within top).run bytes = .error halt)
    : EndFound content bytes top pack
        (.error (.fault ⟨halt.cause, content.length - halt.unread⟩))

theorem EndFound.of_rest {β : Type} {bytes rest : List UInt8} {top inner : Opened α}
    {pack : β → Operand α} {found : Except Stop (β × Nat)} (hrest : rest <:+ bytes)
    (hrun : ∀ r : Reader α, (r.within top).run bytes = (r.within inner).run rest)
    (h : EndFound content rest inner pack found)
    : EndFound content bytes top pack found := by
  cases h with
  | closed hbehind hlength hclosed =>
    refine .closed (hbehind.trans hrest) (Nat.lt_of_lt_of_le hlength hrest.length_le) ?_
    intro r
    rw [hrun, hclosed]
  | fault halt hfault =>
    refine .fault halt ?_
    intro r
    rw [hrun, hfault]

/-- From the place of these bytes on the cursor finds tokens and the ends of collections. -/
structure Descends (α : Type) [Scalar α] (content bytes : List UInt8) : Prop where
  token : ∃ found, nextToken content (place content bytes) = some found ∧
    TokenFound (α := α) content bytes found
  array : ∀ items : List (Operand α), ∃ found,
    array content items (place content bytes) = some found ∧
      EndFound content bytes (.array items.reverse) .array found
  dictionary : ∀ entries : List (String × Operand α), ∃ found,
    dictionary content entries (place content bytes) = some found ∧
      EndFound content bytes (.dictionary entries.reverse none) .dictionary found

/-!
What a lexeme is by its first byte.
-/

theorem nextLexeme_cons {b : UInt8} (hcomment : b ≠ 0x25) (tail : List UInt8)
    : nextLexeme (α := α) (b :: tail)
        =
      if beginsLexeme b tail then (scanLexeme b tail).map some else nextLexeme tail := by
  unfold nextLexeme
  rw [skipFiller, if_neg hcomment]
  by_cases hbegins : beginsLexeme b tail = true
  . rw [if_pos hbegins, if_pos hbegins]
  . rw [if_neg hbegins, if_neg hbegins]

theorem ends_dropWhile (bytes : List UInt8) : Ends (bytes.dropWhile isRegular) := by
  have hnot := List.head?_dropWhile_not isRegular bytes
  intro b hb
  rw [Option.mem_def.mp hb] at hnot
  exact hnot

theorem isRegular_of_beginsWord {b : UInt8} (h : beginsWord b = true) : isRegular b = true := by
  rw [beginsWord_iff] at h
  rw [isRegular_iff, isBlank_iff, isDelimiter_iff]
  omega

theorem nextLexeme_literal (tail : List UInt8)
    : nextLexeme (α := α) (0x28 :: tail)
        =
      (scanLiteral .plain 0 tail).map fun (bytes, rest) => some (.atom (.literal bytes), rest) := by
  rw [nextLexeme_cons (by decide)]
  change ((scanLiteral .plain 0 tail).map _).map some = _
  cases scanLiteral .plain 0 tail <;> rfl

theorem nextLexeme_hex {tail : List UInt8} (h : tail.head? ≠ some 0x3C)
    : nextLexeme (α := α) (0x3C :: tail)
        =
      (scanHex none tail).map fun (bytes, rest) => some (.atom (.hex bytes), rest) := by
  have hscan
      : scanLexeme (α := α) 0x3C tail
          =
        (scanHex none tail).map fun (bytes, rest) => (.atom (.hex bytes), rest) := by
    unfold scanLexeme
    rw [if_neg (by decide), if_pos rfl]
    split
    . simp at h
    . rfl
  rw [nextLexeme_cons (by decide), hscan]
  change ((scanHex none tail).map _).map some = _
  cases scanHex none tail <;> rfl

theorem nextLexeme_number {b : UInt8} (h : beginsNumber b = true) (tail : List UInt8)
    : nextLexeme (b :: tail)
        =
      (scanNumber α (b :: tail)).map fun (o, rest) => some (.atom o, rest) := by
  have hbegins : beginsLexeme b tail = true := by simp [beginsLexeme, h]
  have hscan
      : scanLexeme b tail = (scanNumber α (b :: tail)).map fun (o, rest) => (.atom o, rest) := by
    rw [scanLexeme_of_beginsNumber h]
    unfold scanNumber
    cases (Numeral.scan (b :: tail)).1.operand (α := α) <;> rfl
  rw [nextLexeme_cons (ne_of_class h rfl), if_pos hbegins, hscan]
  cases scanNumber α (b :: tail) <;> rfl

theorem nextLexeme_word {b : UInt8} (h : beginsWord b = true) (tail : List UInt8)
    : nextLexeme (α := α) (b :: tail)
        =
      .ok (some (.word (Encoding.lossyText ((b :: tail).takeWhile isRegular)),
        (b :: tail).dropWhile isRegular)) := by
  have hbegins : beginsLexeme b tail = true := by simp [beginsLexeme, h]
  have hregular : isRegular b = true := isRegular_of_beginsWord h
  rw [nextLexeme_cons (ne_of_class h rfl), if_pos hbegins, scanLexeme_word tail h,
    List.takeWhile_cons_of_pos hregular, List.dropWhile_cons_of_pos hregular]
  rfl

/-!
The token at a byte.
-/

theorem bind_pure_eq {β γ : Type} {x : Scan β} {pos : Nat} {found : Except Stop (β × Nat)}
    (h : x pos = some found) (f : β → γ)
    : (x >>= fun v => pure (f v)) pos = some (found.map fun (v, q) => (f v, q)) := by
  simp only [bind_eq, h]
  cases found <;> rfl

theorem TokenFound.of_skip {bytes rest : List UInt8}
    {found : Except Stop (Option (Token α) × Nat)} (hrest : rest <:+ bytes)
    (hnext : nextLexeme (α := α) bytes = nextLexeme rest) (h : TokenFound content rest found)
    : TokenFound content bytes found := by
  have hrun (r : Reader α) := r.run_congr hnext
  cases h with
  | ended hend => exact .ended (hnext.trans hend)
  | token hbehind hlength hword htoken =>
    refine .token (hbehind.trans hrest) (Nat.lt_of_lt_of_le hlength hrest.length_le) hword ?_
    intro r
    rw [hrun, htoken]
  | fault halt hfault => exact .fault halt fun r => (hrun r).trans (hfault r)

theorem TokenFound.of_nextLexeme {bytes rest : List UInt8} (token : Token α)
    (hnext : nextLexeme bytes = .ok (some (token.lexeme, rest)))
    (hword : ∀ text, token = .word text → Ends rest)
    : TokenFound content bytes (.ok (some token, place content rest)) :=
  .token (suffix_of_nextLexeme hnext) (length_nextLexeme_lt hnext) hword fun r => r.run_step hnext

theorem TokenFound.of_scanned {β : Type} {bytes : List UInt8} (make : β → Operand α)
    {scanned : Except Halt (β × List UInt8)}
    (hnext : nextLexeme bytes = scanned.map fun (v, rest) => some (.atom (make v), rest))
    : TokenFound content bytes
        ((report content scanned).map fun (v, q) => (some (.operand (make v)), q)) := by
  cases scanned with
  | error halt => exact .fault halt fun r => r.run_of_error hnext
  | ok found => exact .of_nextLexeme (.operand (make found.1)) hnext (by simp)

theorem EndFound.token {β : Type} {bytes rest : List UInt8} {x : Lexeme α} {top : Opened α}
    {pack : β → Operand α} {found : Except Stop (β × Nat)}
    (hnext : nextLexeme bytes = .ok (some (x, rest)))
    (hstep : ∀ r : Reader α, r.step x rest = .ok (r.within top, rest))
    (h : EndFound content rest top pack found)
    : TokenFound content bytes (found.map fun (v, q) => (some (.operand (pack v)), q)) := by
  have hrest := suffix_of_nextLexeme hnext
  have hrun (r : Reader α) : r.run bytes = (r.within top).run rest := by
    rw [r.run_step hnext, hstep]
  cases h with
  | closed hbehind hlength hclosed =>
    refine .token (hbehind.trans hrest) (Nat.lt_of_lt_of_le hlength hrest.length_le) (by simp) ?_
    intro r
    rw [hrun, hclosed]
    rfl
  | fault halt hfault => exact .fault halt fun r => (hrun r).trans (hfault r)

theorem tokenAt_spec {b : UInt8} {tail : List UInt8} (h : b :: tail <:+ content)
    (hcomment : b ≠ 0x25)
    (hinner : ∀ rest, rest <:+ tail → Descends α content rest)
    : ∃ found, tokenAt content b (place content (b :: tail)) = some found ∧
        TokenFound (α := α) content (b :: tail) found := by
  rw [tokenAt]
  simp only [bind_eq, peekAt_eq h]
  by_cases hliteral : b = 0x28
  . subst hliteral
    rw [if_pos rfl]
    exact ⟨_, bind_pure_eq (literalString_eq h) _, .of_scanned .literal (nextLexeme_literal tail)⟩
  rw [if_neg hliteral]
  by_cases hdictionary : b = 0x3C ∧ (b :: tail)[1]? = some 0x3C
  . rcases hdictionary with ⟨rfl, hahead⟩
    rcases List.head?_eq_some_iff.mp (List.head?_eq_getElem? ▸ hahead) with ⟨rest, rfl⟩
    rcases (hinner rest (List.suffix_cons 0x3C rest)).dictionary [] with ⟨found, hread, hfound⟩
    rw [if_pos ⟨rfl, hahead⟩, bind_eq, advance_eq h 2 (by simp)]
    exact ⟨_, bind_pure_eq hread _, hfound.token (x := .dictionaryOpen) rfl fun r => rfl⟩
  rw [if_neg hdictionary]
  by_cases hhex : b = 0x3C
  . have hhead : tail.head? ≠ some 0x3C := by
      rw [List.head?_eq_getElem?]
      exact fun hhead => hdictionary ⟨hhex, hhead⟩
    subst hhex
    rw [if_pos rfl]
    exact ⟨_, bind_pure_eq (hexString_eq h) _, .of_scanned .hex (nextLexeme_hex hhead)⟩
  rw [if_neg hhex]
  by_cases hend : b = 0x3E ∧ (b :: tail)[1]? = some 0x3E
  . rcases hend with ⟨rfl, hahead⟩
    rcases List.head?_eq_some_iff.mp (List.head?_eq_getElem? ▸ hahead) with ⟨rest, rfl⟩
    rw [if_pos ⟨rfl, hahead⟩, bind_eq, advance_eq h 2 (by simp)]
    exact ⟨_, rfl, .of_nextLexeme .dictionaryEnd rfl (by simp)⟩
  rw [if_neg hend]
  by_cases harray : b = 0x5B
  . subst harray
    rcases (hinner tail List.suffix_rfl).array [] with ⟨found, hread, hfound⟩
    rw [if_pos rfl, bind_eq, advance_cons h]
    exact ⟨_, bind_pure_eq hread _, hfound.token (x := .arrayOpen) rfl fun r => rfl⟩
  rw [if_neg harray]
  by_cases hclose : b = 0x5D
  . subst hclose
    rw [if_pos rfl, bind_eq, advance_cons h]
    exact ⟨_, rfl, .of_nextLexeme .arrayEnd rfl (by simp)⟩
  rw [if_neg hclose]
  by_cases hname : b = 0x2F
  . subst hname
    rw [if_pos rfl]
    exact ⟨_, bind_pure_eq (name_eq h) _, .of_nextLexeme (.operand (.name _)) rfl (by simp)⟩
  rw [if_neg hname]
  by_cases hnumber : beginsNumber b = true
  . rw [if_pos hnumber]
    exact ⟨_, bind_pure_eq (number_eq h) _, .of_scanned id (nextLexeme_number hnumber tail)⟩
  rw [if_neg hnumber]
  by_cases hword : beginsWord b = true
  . rw [if_pos hword]
    refine ⟨_, bind_pure_eq (keyword_eq h) _, ?_⟩
    exact .of_nextLexeme (.word _) (nextLexeme_word hword tail) fun _ _ => ends_dropWhile _
  rw [if_neg hword]
  rcases (hinner tail List.suffix_rfl).token with ⟨found, hread, hfound⟩
  refine ⟨found, ?_, hfound.of_skip (List.suffix_cons b tail) ?_⟩
  . rw [bind_eq, advance_cons h]
    exact hread
  . have hbegins : ¬ beginsLexeme b tail = true := by
      simp only [List.getElem?_cons_succ, ← List.head?_eq_getElem?] at hend
      simpa [beginsLexeme, hword, hnumber, hliteral, hhex, harray, hclose, hname] using hend
    rw [nextLexeme_cons hcomment, if_neg hbegins]

theorem nextToken_spec {bytes : List UInt8} (h : bytes <:+ content)
    (hinner : ∀ rest, rest <:+ bytes → rest.length < bytes.length → Descends α content rest)
    : ∃ found, nextToken content (place content bytes) = some found ∧
        TokenFound (α := α) content bytes found := by
  rcases pastTrivia_spec bytes h with ⟨start, hstart, hpast, hskip, hhead⟩
  have hnext : nextLexeme (α := α) bytes = nextLexeme start := by
    unfold nextLexeme
    rw [hskip]
  have hsuffix := hstart.trans h
  rw [nextToken]
  simp only [bind_eq, hpast, peek_eq hsuffix]
  cases start with
  | nil => exact ⟨_, rfl, .ended hnext⟩
  | cons b tail =>
    have htail := (List.suffix_cons b tail).trans hstart
    have hlength : tail.length < bytes.length := hstart.length_le
    rcases tokenAt_spec hsuffix (hhead b rfl).2 (fun rest hrest => hinner rest (hrest.trans htail)
      (Nat.lt_of_le_of_lt hrest.length_le hlength)) with ⟨found, hread, hfound⟩
    exact ⟨found, hread, hfound.of_skip hstart hnext⟩

/-!
Collections.
-/

section Collections

variable {bytes : List UInt8}
  (hinner : ∀ rest, rest <:+ bytes → rest.length < bytes.length → Descends α content rest)
  (htoken : ∃ found, nextToken content (place content bytes) = some found ∧
    TokenFound (α := α) content bytes found)
include hinner htoken

theorem array_spec (items : List (Operand α))
    : ∃ found, array content items (place content bytes) = some found ∧
        EndFound content bytes (.array items.reverse) .array found := by
  rcases htoken with ⟨found, hread, hfound⟩
  rw [array]
  simp only [bind_eq, hread]
  cases hfound with
  | ended hnext =>
    exact ⟨_, rfl, .fault ⟨.unterminatedArray, 0⟩ fun r => Reader.run_end _ hnext⟩
  | fault halt hrun => exact ⟨_, rfl, .fault halt fun r => hrun _⟩
  | @token token rest hrest hlength hword hrun =>
    have hnext (o : Operand α)
        (haccept : ∀ r : Reader α, (r.within (.array items.reverse)).accept token.lexeme
          =
          .ok (r.within (.array (o :: items.reverse))))
        : ∃ found, array content (items ++ [o]) (place content rest) = some found ∧
            EndFound content bytes (.array items.reverse) .array found := by
      rcases (hinner rest hrest hlength).array (items ++ [o]) with ⟨found, hread, hfound⟩
      refine ⟨found, hread, hfound.of_rest hrest ?_⟩
      intro r
      rw [hrun, Reader.runBehind_within, haccept, List.reverse_append]
      rfl
    cases token with
    | operand o => exact hnext o fun r => rfl
    | word text => exact hnext _ fun r => rfl
    | arrayEnd =>
      refine ⟨_, rfl, .closed hrest hlength ?_⟩
      intro r
      rw [hrun, Token.lexeme, Reader.runBehind_within, Reader.runBehind_atom]
      simp only [Reader.accept, Reader.closeArray, Reader.within, List.reverse_reverse]
    | dictionaryEnd =>
      refine ⟨_, rfl, .fault ⟨.unexpectedDictionaryEnd, rest.length⟩ ?_⟩
      intro r
      rw [hrun, Token.lexeme, Reader.runBehind_within]
      rfl

/-- The value of a key. -/
theorem entry_spec (entries : List (String × Operand α)) (key : String)
    : ∃ found, entry content entries key (place content bytes) = some found ∧
        EndFound content bytes (.dictionary entries.reverse (some key)) .dictionary found := by
  rcases htoken with ⟨found, hread, hfound⟩
  rw [entry]
  simp only [bind_eq, hread]
  cases hfound with
  | ended hnext =>
    exact ⟨_, rfl, .fault ⟨.unterminatedEntry, 0⟩ fun r => Reader.run_end _ hnext⟩
  | fault halt hrun => exact ⟨_, rfl, .fault halt fun r => hrun _⟩
  | @token token rest hrest hlength hword hrun =>
    have hnext (o : Operand α)
        (haccept : ∀ r : Reader α, (r.within (.dictionary entries.reverse (some key))).accept
            token.lexeme
          =
          .ok (r.within (.dictionary ((key, o) :: entries.reverse) none)))
        : ∃ found, dictionary content (entries ++ [(key, o)]) (place content rest) = some found ∧
            EndFound content bytes (.dictionary entries.reverse (some key)) .dictionary found := by
      rcases (hinner rest hrest hlength).dictionary (entries ++ [(key, o)]) with
        ⟨found, hread, hfound⟩
      refine ⟨found, hread, hfound.of_rest hrest ?_⟩
      intro r
      rw [hrun, Reader.runBehind_within, haccept, List.reverse_append]
      rfl
    cases token with
    | operand o => exact hnext o fun r => rfl
    | word text => exact hnext _ fun r => rfl
    | arrayEnd =>
      refine ⟨_, rfl, .fault ⟨.unexpectedArrayEnd, rest.length⟩ ?_⟩
      intro r
      rw [hrun, Token.lexeme, Reader.runBehind_within]
      rfl
    | dictionaryEnd =>
      refine ⟨_, rfl, .fault ⟨.unexpectedDictionaryEnd, rest.length⟩ ?_⟩
      intro r
      rw [hrun, Token.lexeme, Reader.runBehind_within]
      rfl

theorem dictionary_spec (entries : List (String × Operand α))
    : ∃ found, dictionary content entries (place content bytes) = some found ∧
        EndFound content bytes (.dictionary entries.reverse none) .dictionary found := by
  rcases htoken with ⟨found, hread, hfound⟩
  rw [dictionary]
  simp only [bind_eq, hread]
  cases hfound with
  | ended hnext =>
    exact ⟨_, rfl, .fault ⟨.unterminatedDictionary, 0⟩ fun r => Reader.run_end _ hnext⟩
  | fault halt hrun => exact ⟨_, rfl, .fault halt fun r => hrun _⟩
  | @token token rest hrest hlength hword hrun =>
    have hother (haccept : ∀ r : Reader α, (r.within (.dictionary entries.reverse none)).accept
            token.lexeme
          =
          .error .expectedKey)
        : EndFound content bytes (.dictionary entries.reverse none) .dictionary
            (.error (.fault ⟨.expectedKey, place content rest⟩)) := by
      refine .fault ⟨.expectedKey, rest.length⟩ ?_
      intro r
      rw [hrun, Reader.runBehind_within, haccept]
    cases token with
    | operand o =>
      cases o with
      | name key =>
        have hentry := entry_spec
          (fun after hafter hless => hinner after (hafter.trans hrest)
            (Nat.lt_trans hless hlength))
          (hinner rest hrest hlength).token entries key
        rcases hentry with ⟨found, hread, hfound⟩
        refine ⟨found, hread, hfound.of_rest hrest ?_⟩
        intro r
        rw [hrun, Token.lexeme, Reader.runBehind_within]
        rfl
      | _ => exact ⟨_, rfl, hother fun r => rfl⟩
    | word text => exact ⟨_, rfl, hother fun r => rfl⟩
    | arrayEnd => exact ⟨_, rfl, hother fun r => rfl⟩
    | dictionaryEnd =>
      refine ⟨_, rfl, .closed hrest hlength ?_⟩
      intro r
      rw [hrun, Token.lexeme, Reader.runBehind_within, Reader.runBehind_atom]
      simp only [Reader.accept, Reader.closeDictionary, Reader.within, List.reverse_reverse]

end Collections

/-- The descent ends, since whatever is entered leaves fewer bytes. -/
theorem descends (bytes : List UInt8) (h : bytes <:+ content) : Descends α content bytes := by
  have hinner (rest : List UInt8) (hrest : rest <:+ bytes) (_ : rest.length < bytes.length) :=
    descends rest (hrest.trans h)
  have htoken := nextToken_spec h hinner
  exact ⟨htoken, array_spec hinner htoken, dictionary_spec hinner htoken⟩
termination_by bytes.length

end Cursor
end Galley.Content
