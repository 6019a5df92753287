import Galley.Proofs.Content.Cursor
import Galley.Proofs.Content.Scanning

/-!
This module shows what the cursor does between two tokens and within an atom: it comes to an end in
range, and finds what is found in the bytes from its place on.
-/

namespace Galley.Content.Cursor

variable {content : List UInt8}

/-- Where the cursor stands when these bytes are left. -/
def place (content bytes : List UInt8) : Nat := content.length - bytes.length

/-- What the cursor finds if this is found in the bytes from its place on. -/
def report {β : Type} (content : List UInt8) : Except Halt (β × List UInt8) → Except Stop (β × Nat)
  | .ok (v, rest) => .ok (v, place content rest)
  | .error halt => .error (.fault ⟨halt.cause, content.length - halt.unread⟩)

theorem place_lt {bytes rest : List UInt8} (hbytes : bytes <:+ content)
    (hrest : rest.length < bytes.length)
    : place content bytes < place content rest := by
  have := hbytes.length_le
  unfold place
  omega

theorem place_le (bytes : List UInt8) : place content bytes ≤ content.length := Nat.sub_le ..

theorem place_append (front bytes : List UInt8) : place (front ++ bytes) bytes = front.length := by
  simp [place]

/-!
Steps of the cursor.
-/

theorem bind_eq {β γ : Type} (x : Scan β) (f : β → Scan γ) (pos : Nat)
    : (x >>= f) pos
        =
      match x pos with
      | none => none
      | some (.error stop) => some (.error stop)
      | some (.ok (v, after)) => f v after := by
  change ExceptT.bind (x pos) _ = _
  unfold ExceptT.bind ExceptT.bindCont
  cases x pos with
  | none => rfl
  | some outcome => cases outcome <;> rfl

theorem pure_eq {β : Type} (v : β) (pos : Nat) : (pure v : Scan β) pos = some (.ok (v, pos)) := rfl

theorem get_eq (pos : Nat) : (get : Scan Nat) pos = some (.ok (pos, pos)) := rfl

theorem peekAt_eq {bytes : List UInt8} (h : bytes <:+ content) (ahead : Nat)
    : peekAt content ahead (place content bytes)
        =
      some (.ok (bytes[ahead]?, place content bytes)) := by
  rcases h with ⟨front, rfl⟩
  rw [place_append]
  change some (Except.ok ((front ++ bytes)[front.length + ahead]?, front.length)) = _
  rw [List.getElem?_append_right (Nat.le_add_right ..), Nat.add_sub_cancel_left]

theorem peek_eq {bytes : List UInt8} (h : bytes <:+ content)
    : peek content (place content bytes) = some (.ok (bytes.head?, place content bytes)) := by
  rw [List.head?_eq_getElem?]
  exact peekAt_eq h 0

theorem advance_eq {bytes : List UInt8} (h : bytes <:+ content) (count : Nat)
    (hcount : count ≤ bytes.length)
    : advance content count (place content bytes)
        =
      some (.ok ((), place content (bytes.drop count))) := by
  have hlength := h.length_le
  have hle : place content bytes + count ≤ content.length := by
    unfold place
    omega
  have hplace : place content bytes + count = place content (bytes.drop count) := by
    unfold place
    rw [List.length_drop]
    omega
  unfold advance
  simp only [bind_eq, get_eq]
  rw [if_pos hle, hplace]
  rfl

theorem advance_cons {b : UInt8} {rest : List UInt8} (h : b :: rest <:+ content)
    : advance content 1 (place content (b :: rest)) = some (.ok ((), place content rest)) :=
  advance_eq h 1 (Nat.le_add_left ..)

theorem slice_eq {front rest : List UInt8} (h : front ++ rest <:+ content) (pos : Nat)
    : slice content (place content (front ++ rest)) (place content rest) pos
        =
      some (.ok (front, pos)) := by
  rcases h with ⟨before, rfl⟩
  have hlast : place (before ++ (front ++ rest)) rest = (before ++ front).length := by
    rw [← List.append_assoc, place_append]
  unfold slice
  rw [place_append, hlast, if_pos (by simp), ← List.append_assoc, List.take_left, List.drop_left]
  rfl

theorem slice_takeWhile_eq (p : UInt8 → Bool) {bytes : List UInt8} (h : bytes <:+ content)
    (pos : Nat)
    : slice content (place content bytes) (place content (bytes.dropWhile p)) pos
        =
      some (.ok (bytes.takeWhile p, pos)) := by
  have hsplit := List.takeWhile_append_dropWhile (p := p) (l := bytes)
  have hslice := slice_eq (hsplit.symm ▸ h) pos
  rwa [hsplit] at hslice

theorem slice_suffix_eq {bytes : List UInt8} (h : bytes <:+ content) (pos : Nat)
    : slice content (place content bytes) content.length pos = some (.ok (bytes, pos)) := by
  rcases h with ⟨before, rfl⟩
  unfold slice
  rw [place_append, if_pos (by simp), List.take_length, List.drop_left]
  rfl

theorem byteAt_eq {bytes : List UInt8} {i : Nat} {b : UInt8} (h : bytes[i]? = some b) (pos : Nat)
    : byteAt bytes i pos = some (.ok (b, pos)) := by
  unfold byteAt
  rw [h]
  rfl

/-!
Trivia.
-/

theorem pastWhile_eq (p : UInt8 → Bool) {bytes : List UInt8} (h : bytes <:+ content)
    : pastWhile content p (place content bytes)
        =
      some (.ok ((), place content (bytes.dropWhile p))) := by
  induction bytes with
  | nil =>
    rw [pastWhile]
    simp only [bind_eq, peek_eq h]
    rfl
  | cons b rest ih =>
    rw [pastWhile]
    simp only [bind_eq, peek_eq h, List.head?_cons]
    by_cases hb : p b = true
    . rw [if_pos hb, List.dropWhile_cons_of_pos hb]
      simp only [bind_eq, advance_cons h]
      exact ih ((List.suffix_cons b rest).trans h)
    . rw [if_neg hb, List.dropWhile_cons_of_neg hb]
      rfl

theorem skipFiller_true (bytes : List UInt8)
    : skipFiller true bytes
        =
      skipFiller false (bytes.dropWhile fun c => c != 0x0A && c != 0x0D) := by
  induction bytes with
  | nil => rfl
  | cons b rest ih =>
    rw [skipFiller]
    by_cases hend : b = 0x0A ∨ b = 0x0D
    . rcases hend with rfl | rfl <;> rfl
    . rw [not_or] at hend
      have hcontinue : (b != 0x0A && b != 0x0D) = true := by simp [hend]
      have hcomment : (!(b == 0x0A || b == 0x0D)) = true := by simp [hend]
      rw [List.dropWhile_cons_of_pos (by exact hcontinue), hcomment, ih]

/-- Behind trivia the cursor stands before a byte that is no trivia, if before any. -/
theorem pastTrivia_spec (bytes : List UInt8) (h : bytes <:+ content)
    : ∃ rest, rest <:+ bytes ∧
        pastTrivia content (place content bytes) = some (.ok ((), place content rest)) ∧
        skipFiller false bytes = skipFiller false rest ∧
        ∀ b ∈ rest.head?, isBlank b = false ∧ b ≠ 0x25 := by
  match bytes with
  | [] =>
    refine ⟨[], List.suffix_rfl, ?_, rfl, by simp⟩
    rw [pastTrivia]
    simp only [bind_eq, peek_eq h]
    rfl
  | b :: tail =>
    have hsuffix := List.suffix_cons b tail
    rw [pastTrivia]
    simp only [bind_eq, peek_eq h, List.head?_cons]
    by_cases hblank : isBlank b = true
    . rcases pastTrivia_spec tail (hsuffix.trans h) with ⟨rest, hrest, hpast, hskip, hhead⟩
      refine ⟨rest, hrest.trans hsuffix, ?_, ?_, hhead⟩
      . rw [if_pos hblank]
        simp only [bind_eq, advance_cons h]
        exact hpast
      . rw [← hskip]
        exact skipFiller_trivia tail (.blank hblank .nil)
    by_cases hcomment : b = 0x25
    . have htail := List.dropWhile_suffix (fun c => c != 0x0A && c != 0x0D) (l := tail)
      have hlength := htail.length_le
      rcases pastTrivia_spec _ ((htail.trans hsuffix).trans h) with
        ⟨rest, hrest, hpast, hskip, hhead⟩
      refine ⟨rest, (hrest.trans htail).trans hsuffix, ?_, ?_, hhead⟩
      . rw [if_neg hblank, if_pos hcomment]
        simp only [bind_eq, pastWhile_eq _ h]
        subst hcomment
        exact hpast
      . rw [← hskip, ← skipFiller_true, skipFiller, if_pos hcomment]
    . refine ⟨b :: tail, List.suffix_rfl, ?_, rfl, ?_⟩
      . rw [if_neg hblank, if_neg hcomment]
        rfl
      . intro c hc
        cases hc
        exact ⟨Bool.eq_false_iff.mpr hblank, hcomment⟩
termination_by bytes.length

/-!
Literal strings.
-/

/-- What is found in a string behind these bytes. -/
def prepend (front : List UInt8) (scanned : Except Halt (List UInt8 × List UInt8))
    : Except Halt (List UInt8 × List UInt8) :=
  scanned.map fun (bytes, rest) => (front ++ bytes, rest)

theorem prepend_prepend (front more : List UInt8) (scanned : Except Halt (List UInt8 × List UInt8))
    : prepend front (prepend more scanned) = prepend (front ++ more) scanned := by
  cases scanned with
  | error halt => rfl
  | ok found => simp [prepend, Except.map]

theorem prepend_nil (scanned : Except Halt (List UInt8 × List UInt8))
    : prepend [] scanned = scanned := by
  cases scanned <;> rfl

theorem scanLiteral_cons (mode : LiteralMode) (depth : Nat) (b : UInt8) (rest : List UInt8)
    : scanLiteral mode depth (b :: rest)
        =
      match LiteralMove.of mode depth b with
      | .close bytes => .ok (bytes, rest)
      | .go bytes mode depth => prepend bytes (scanLiteral mode depth rest) := by
  rw [scanLiteral]
  rfl

/-- Behind its digits an octal escape adds its byte, and a literal string goes on. -/
theorem scanLiteral_octal_end {value count : Nat} {bytes : List UInt8}
    (h : count = 0 ∨ ∀ b ∈ bytes.head?, LiteralMove.isOctalDigit b = false) (depth : Nat)
    : scanLiteral (.octal value count) depth bytes
        =
      prepend [UInt8.ofNat value] (scanLiteral .plain depth bytes) := by
  cases bytes with
  | nil => rfl
  | cons b rest =>
    have hmove
        : LiteralMove.of (.octal value count) depth b
            =
          LiteralMove.plain [UInt8.ofNat value] depth b := by
      cases count with
      | zero => rfl
      | succ count =>
        have hb := h.resolve_left (Nat.succ_ne_zero count) b rfl
        simp only [LiteralMove.of, hb, Bool.false_eq_true, if_false]
    rw [scanLiteral_cons, scanLiteral_cons, hmove, LiteralMove.plain_singleton]
    simp only [LiteralMove.of]
    cases LiteralMove.plain [] depth b with
    | close bytes => rfl
    | go bytes mode depth =>
      dsimp only
      rw [prepend_prepend]
      rfl

theorem octal_spec {bytes : List UInt8} (h : bytes <:+ content) (value count : Nat)
    : ∃ found rest, rest <:+ bytes ∧
        octal content value count (place content bytes) = some (.ok (found, place content rest)) ∧
        ∀ depth, scanLiteral (.octal value count) depth bytes
          =
        prepend [UInt8.ofNat found] (scanLiteral .plain depth rest) := by
  induction count generalizing bytes value with
  | zero => exact ⟨value, bytes, List.suffix_rfl, rfl, scanLiteral_octal_end (.inl rfl)⟩
  | succ count ih =>
    rw [octal]
    simp only [bind_eq, peek_eq h]
    cases bytes with
    | nil => exact ⟨value, [], List.suffix_rfl, rfl, scanLiteral_octal_end (.inr (by simp))⟩
    | cons b tail =>
      have hsuffix := List.suffix_cons b tail
      by_cases hb : LiteralMove.isOctalDigit b = true
      . rcases ih (hsuffix.trans h) (value * 8 + (b.toNat - 0x30)) with
          ⟨found, rest, hrest, hoctal, hscan⟩
        refine ⟨found, rest, hrest.trans hsuffix, ?_, ?_⟩
        . simp only [List.head?_cons, hb, if_true, bind_eq, advance_cons h]
          exact hoctal
        . intro depth
          rw [← hscan, scanLiteral_cons]
          simp only [LiteralMove.of, hb, if_true]
          rw [prepend_nil]
      . refine ⟨value, b :: tail, List.suffix_rfl, ?_, scanLiteral_octal_end (.inr ?_)⟩
        . simp only [List.head?_cons, hb, Bool.false_eq_true, if_false]
          rfl
        . intro c hc
          cases hc
          exact Bool.eq_false_iff.mpr hb

theorem scanLiteral_lineEnd {bytes : List UInt8} (h : bytes.head? ≠ some 0x0A) (depth : Nat)
    : scanLiteral .lineEnd depth bytes = scanLiteral .plain depth bytes := by
  cases bytes with
  | nil => rfl
  | cons b rest =>
    have hb : b ≠ 0x0A := by simpa using h
    rw [scanLiteral_cons, scanLiteral_cons]
    simp only [LiteralMove.of, hb, if_false]

/-- Behind a backslash a carriage return and the line feed behind it are passed as one. -/
theorem escape_return {tail : List UInt8} (h : 0x0D :: tail <:+ content)
    : ∃ rest, rest <:+ tail ∧
        escape content (place content (0x0D :: tail)) = some (.ok ([], place content rest)) ∧
        ∀ depth, scanLiteral .lineEnd depth tail = scanLiteral .plain depth rest := by
  have htail := (List.suffix_cons 0x0D tail).trans h
  have hescape
      : escape content (place content (0x0D :: tail))
          =
        if tail.head? = some 0x0A then
          (advance content 1 >>= fun _ => pure []) (place content tail)
        else some (.ok ([], place content tail)) := by
    unfold escape
    simp only [bind_eq, peek_eq h, List.head?_cons, advance_cons h]
    change (peek content >>= _ : Scan _) (place content tail) = _
    simp only [bind_eq, peek_eq htail]
    split
    . exact bind_eq ..
    . rfl
  rw [hescape]
  by_cases hfeed : tail.head? = some 0x0A
  . rcases List.head?_eq_some_iff.mp hfeed with ⟨rest, rfl⟩
    refine ⟨rest, List.suffix_cons _ _, ?_, ?_⟩
    . rw [if_pos hfeed, bind_eq, advance_cons htail]
      rfl
    . intro depth
      rw [scanLiteral_cons]
      exact prepend_nil _
  . exact ⟨tail, List.suffix_rfl, if_neg hfeed, scanLiteral_lineEnd hfeed⟩

/-- Behind a backslash the cursor passes what spells at most one byte. -/
theorem escape_spec {b : UInt8} {tail : List UInt8} (h : b :: tail <:+ content)
    : ∃ found rest, rest <:+ tail ∧
        escape content (place content (b :: tail)) = some (.ok (found, place content rest)) ∧
        ∀ depth, scanLiteral .escape depth (b :: tail)
          =
        prepend found (scanLiteral .plain depth rest) := by
  by_cases hreturn : b = 0x0D
  . subst hreturn
    rcases escape_return h with ⟨rest, hrest, hread, hscan⟩
    exact ⟨[], rest, hrest, hread, fun depth => congrArg (prepend []) (hscan depth)⟩
  have htail := (List.suffix_cons b tail).trans h
  unfold escape
  simp only [bind_eq, peek_eq h, List.head?_cons, advance_cons h, scanLiteral_cons]
  by_cases hn : b = 0x6E
  . subst hn
    exact ⟨[0x0A], tail, List.suffix_rfl, rfl, fun _ => rfl⟩
  by_cases hr : b = 0x72
  . subst hr
    exact ⟨[0x0D], tail, List.suffix_rfl, rfl, fun _ => rfl⟩
  by_cases ht : b = 0x74
  . subst ht
    exact ⟨[0x09], tail, List.suffix_rfl, rfl, fun _ => rfl⟩
  by_cases hb : b = 0x62
  . subst hb
    exact ⟨[0x08], tail, List.suffix_rfl, rfl, fun _ => rfl⟩
  by_cases hf : b = 0x66
  . subst hf
    exact ⟨[0x0C], tail, List.suffix_rfl, rfl, fun _ => rfl⟩
  by_cases hfeed : b = 0x0A
  . subst hfeed
    exact ⟨[], tail, List.suffix_rfl, rfl, fun _ => rfl⟩
  simp only [LiteralMove.of, LiteralMove.escape, hn, hr, ht, hb, hf, hreturn, hfeed, if_false]
  by_cases hoctal : LiteralMove.isOctalDigit b = true
  . rcases octal_spec htail (b.toNat - 0x30) 2 with ⟨found, rest, hrest, hread, hscan⟩
    refine ⟨[UInt8.ofNat found], rest, hrest, ?_, ?_⟩
    . simp only [hoctal, if_true, bind_eq, hread]
      rfl
    . intro depth
      simp only [hoctal, if_true]
      rw [prepend_nil, hscan]
  . simp only [hoctal, Bool.false_eq_true, if_false]
    exact ⟨[b], tail, List.suffix_rfl, rfl, fun _ => rfl⟩

/-- A byte of a literal string that is no parenthesis and no backslash spells itself. -/
theorem scanLiteral_plain {b : UInt8} (hopen : b ≠ 0x28) (hclose : b ≠ 0x29) (hescape : b ≠ 0x5C)
    (depth : Nat) (tail : List UInt8)
    : scanLiteral .plain depth (b :: tail) = prepend [b] (scanLiteral .plain depth tail) := by
  rw [scanLiteral_cons]
  simp only [LiteralMove.of, LiteralMove.plain, hopen, hclose, hescape, if_false]
  rfl

theorem literalFrom_eq {bytes : List UInt8} (h : bytes <:+ content) (depth : Nat)
    (out : List UInt8)
    : literalFrom content (depth + 1) out (place content bytes)
        =
      some (report content (prepend out (scanLiteral .plain depth bytes))) := by
  induction hlength : bytes.length using Nat.strongRecOn generalizing bytes depth out with
  | ind length ih =>
  cases bytes with
  | nil =>
    rw [literalFrom]
    simp only [bind_eq, peek_eq h]
    rfl
  | cons b tail =>
    have htail := (List.suffix_cons b tail).trans h
    have hinner {rest : List UInt8} (hrest : rest <:+ tail) :=
      fun depth out => ih rest.length (by simp [← hlength, Nat.lt_succ_of_le hrest.length_le])
        (hrest.trans htail) depth out rfl
    rw [literalFrom]
    simp only [bind_eq, peek_eq h, List.head?_cons, advance_cons h]
    by_cases hopen : b = 0x28
    . subst hopen
      rw [if_pos rfl, hinner List.suffix_rfl, ← prepend_prepend]
      rfl
    by_cases hclose : b = 0x29
    . subst hclose
      rw [if_neg hopen, if_pos rfl, Nat.add_sub_cancel]
      cases depth with
      | zero =>
        change some (Except.ok (out, place content tail))
          =
          some (Except.ok (out ++ [], place content tail))
        rw [List.append_nil]
      | succ depth =>
        rw [if_neg (Nat.succ_ne_zero depth), hinner List.suffix_rfl, ← prepend_prepend]
        rfl
    by_cases hescape : b = 0x5C
    . subst hescape
      have hscan
          : scanLiteral .plain depth (0x5C :: tail) = scanLiteral .escape depth tail :=
        prepend_nil _
      rw [if_neg hopen, if_neg hclose, if_pos rfl, hscan]
      cases tail with
      | nil =>
        unfold escape
        simp only [bind_eq, peek_eq htail]
        rfl
      | cons c tail =>
        rcases escape_spec htail with ⟨found, rest, hrest, hread, hscan⟩
        simp only [bind_eq, hread]
        rw [hinner (hrest.trans (List.suffix_cons c tail)), hscan, prepend_prepend]
    . rw [if_neg hopen, if_neg hclose, if_neg hescape, hinner List.suffix_rfl]
      rw [scanLiteral_plain hopen hclose hescape, prepend_prepend]

theorem literalString_eq {b : UInt8} {rest : List UInt8} (h : b :: rest <:+ content)
    : literalString content (place content (b :: rest))
        =
      some (report content (scanLiteral .plain 0 rest)) := by
  unfold literalString
  simp only [bind_eq, advance_cons h]
  rw [literalFrom_eq ((List.suffix_cons b rest).trans h), prepend_nil]

/-!
Hexadecimal strings.
-/

theorem hexFrom_eq {bytes : List UInt8} (h : bytes <:+ content) (high : Option UInt8)
    (out : List UInt8)
    : hexFrom content high out (place content bytes)
        =
      some (report content (prepend out (scanHex high bytes))) := by
  induction bytes generalizing high out with
  | nil =>
    rw [hexFrom]
    simp only [bind_eq, peek_eq h]
    rfl
  | cons b tail ih =>
    have ih := ih ((List.suffix_cons b tail).trans h)
    rw [hexFrom, scanHex.eq_def]
    simp only [bind_eq, peek_eq h, List.head?_cons, advance_cons h]
    by_cases hend : b = 0x3E
    . rw [if_pos hend, if_pos hend]
      rfl
    by_cases hblank : isBlank b = true
    . rw [if_neg hend, if_neg hend, if_pos hblank, if_pos hblank, ih]
    rw [if_neg hend, if_neg hend, if_neg hblank, if_neg hblank]
    cases hexValue? b with
    | none => rfl
    | some low =>
      cases high with
      | none => exact ih (some low) out
      | some high =>
        dsimp only
        rw [ih, ← prepend_prepend]
        rfl

theorem hexString_eq {b : UInt8} {rest : List UInt8} (h : b :: rest <:+ content)
    : hexString content (place content (b :: rest))
        =
      some (report content (scanHex none rest)) := by
  unfold hexString
  simp only [bind_eq, advance_cons h]
  rw [hexFrom_eq ((List.suffix_cons b rest).trans h), prepend_nil]

/-!
Names and words.
-/

theorem unescapeName_short {b : UInt8} {tail : List UInt8} (h : tail.length < 2)
    : unescapeName (b :: tail) = b :: unescapeName tail := by
  match tail with
  | [] => rfl
  | [_] => rfl
  | _ :: _ :: _ =>
    simp only [List.length_cons] at h
    omega

theorem unescapeName_noDigits {b h l : UInt8} (hdigits : hexValue? h = none ∨ hexValue? l = none)
    (tail : List UInt8)
    : unescapeName (b :: h :: l :: tail) = b :: unescapeName (h :: l :: tail) := by
  rw [unescapeName]
  rcases hdigits with hdigits | hdigits
  all_goals
    rw [hdigits]
    split
    . contradiction
    . rfl

theorem unescapeFrom_eq (raw : List UInt8) (i : Nat) (name : List UInt8) (pos : Nat)
    : unescapeFrom raw i name pos = some (.ok (name ++ unescapeName (raw.drop i), pos)) := by
  rw [unescapeFrom]
  by_cases hi : i < raw.length
  . have hdrop := List.drop_eq_getElem_cons hi
    have hnext (hraw : unescapeName (raw.drop i) = raw[i] :: unescapeName (raw.drop (i + 1)))
        : unescapeFrom raw (i + 1) (name ++ [raw[i]]) pos
            =
          some (.ok (name ++ unescapeName (raw.drop i), pos)) := by
      rw [unescapeFrom_eq raw (i + 1), hraw, List.append_assoc, List.singleton_append]
    rw [if_pos hi]
    simp only [bind_eq, byteAt_eq (List.getElem?_eq_getElem hi)]
    by_cases hescape : raw[i] = 0x23 ∧ i + 2 < raw.length
    . have hhigh : i + 1 < raw.length := Nat.lt_of_succ_lt hescape.2
      have htail : raw.drop (i + 1) = raw[i + 1] :: raw[i + 2] :: raw.drop (i + 3) := by
        rw [List.drop_eq_getElem_cons hhigh, List.drop_eq_getElem_cons hescape.2]
      have hnoDigits (hdigits : hexValue? raw[i + 1] = none ∨ hexValue? raw[i + 2] = none)
          : unescapeFrom raw (i + 1) (name ++ [raw[i]]) pos
              =
            some (.ok (name ++ unescapeName (raw.drop i), pos)) := by
        apply hnext
        rw [hdrop, htail, unescapeName_noDigits hdigits]
      rw [if_pos hescape]
      simp only [bind_eq, byteAt_eq (List.getElem?_eq_getElem hhigh),
        byteAt_eq (List.getElem?_eq_getElem hescape.2)]
      cases hh : hexValue? raw[i + 1] with
      | none => exact hnoDigits (.inl hh)
      | some h =>
        cases hl : hexValue? raw[i + 2] with
        | none => exact hnoDigits (.inr hl)
        | some l =>
          dsimp only
          rw [unescapeFrom_eq raw (i + 3), hdrop, htail, hescape.1]
          rw [unescapeName_escaped _ _ _ hh hl, List.append_assoc, List.singleton_append]
    . rw [if_neg hescape]
      apply hnext
      rw [hdrop]
      by_cases hmark : raw[i] = 0x23
      . apply unescapeName_short
        rw [List.length_drop]
        have : ¬ i + 2 < raw.length := fun hlast => hescape ⟨hmark, hlast⟩
        omega
      . exact unescapeName_raw _ hmark
  . rw [if_neg hi, List.drop_of_length_le (Nat.le_of_not_lt hi)]
    change some (Except.ok (name, pos)) = some (Except.ok (name ++ [], pos))
    rw [List.append_nil]
termination_by raw.length - i

theorem name_eq {b : UInt8} {rest : List UInt8} (h : b :: rest <:+ content)
    : name content (place content (b :: rest))
        =
      some (.ok (Encoding.lossyText (unescapeName (rest.takeWhile isRegular)),
        place content (rest.dropWhile isRegular))) := by
  have hrest := (List.suffix_cons b rest).trans h
  unfold name
  simp only [bind_eq, advance_cons h, get_eq, pastWhile_eq _ hrest, slice_takeWhile_eq _ hrest,
    unescapeFrom_eq]
  rfl

theorem keyword_eq {bytes : List UInt8} (h : bytes <:+ content)
    : keyword content (place content bytes)
        =
      some (.ok (Encoding.lossyText (bytes.takeWhile isRegular),
        place content (bytes.dropWhile isRegular))) := by
  unfold keyword
  simp only [bind_eq, get_eq, pastWhile_eq _ h, slice_takeWhile_eq _ h]
  rfl

/-!
Numbers.
-/

theorem isDigit_of_mem_takeWhile (bytes : List UInt8)
    : ∀ c ∈ bytes.takeWhile isDigit, isDigit c = true :=
  List.all_eq_true.mp List.all_takeWhile

theorem scanUnsigned_digits (sign : Option UInt8) {digits : List UInt8}
    (hdigits : ∀ c ∈ digits, isDigit c = true)
    : Numeral.scanUnsigned sign digits = (⟨sign, digits, none⟩, []) := by
  have hnone : ∀ b ∈ ([] : List UInt8).head?, isDigit b = false := by simp
  have htake := takeWhile_stop hdigits hnone
  have hdrop := dropWhile_stop hdigits hnone
  rw [List.append_nil] at htake hdrop
  unfold Numeral.scanUnsigned
  rw [htake, hdrop]

theorem scanUnsigned_point (sign : Option UInt8) {whole fraction : List UInt8}
    (hwhole : ∀ c ∈ whole, isDigit c = true) (hfraction : ∀ c ∈ fraction, isDigit c = true)
    : Numeral.scanUnsigned sign (whole ++ 0x2E :: fraction)
        =
      (⟨sign, whole, some fraction⟩, []) := by
  have hpoint : ∀ b ∈ ((0x2E : UInt8) :: fraction).head?, isDigit b = false := by
    intro b hb
    cases hb
    decide
  have hnone : ∀ b ∈ ([] : List UInt8).head?, isDigit b = false := by simp
  have htake := takeWhile_stop hfraction hnone
  have hdrop := dropWhile_stop hfraction hnone
  rw [List.append_nil] at htake hdrop
  unfold Numeral.scanUnsigned
  rw [takeWhile_stop hwhole hpoint, dropWhile_stop hwhole hpoint]
  dsimp only
  rw [if_pos rfl, htake, hdrop]

/-- The spelling of a number is read alone as it is read before other bytes. -/
theorem scanUnsigned_split (sign : Option UInt8) (bytes : List UInt8)
    : ∃ front, bytes = front ++ (Numeral.scanUnsigned sign bytes).2 ∧
        Numeral.scanUnsigned sign front = ((Numeral.scanUnsigned sign bytes).1, []) := by
  have hsplit := List.takeWhile_append_dropWhile (p := isDigit) (l := bytes)
  have halone := scanUnsigned_digits sign (isDigit_of_mem_takeWhile bytes)
  unfold Numeral.scanUnsigned at ⊢
  cases hdrop : bytes.dropWhile isDigit with
  | nil =>
    rw [hdrop] at hsplit
    exact ⟨bytes.takeWhile isDigit, hsplit.symm, halone⟩
  | cons b rest =>
    rw [hdrop] at hsplit
    dsimp only
    by_cases hpoint : b = 0x2E
    . rw [if_pos hpoint]
      refine ⟨bytes.takeWhile isDigit ++ 0x2E :: rest.takeWhile isDigit, ?_, ?_⟩
      . rw [List.append_assoc, List.cons_append, List.takeWhile_append_dropWhile, ← hpoint, hsplit]
      . exact scanUnsigned_point sign (isDigit_of_mem_takeWhile _) (isDigit_of_mem_takeWhile _)
    . rw [if_neg hpoint]
      exact ⟨bytes.takeWhile isDigit, hsplit.symm, halone⟩

theorem scan_split (bytes : List UInt8)
    : ∃ front, bytes = front ++ (Numeral.scan bytes).2 ∧
        (Numeral.scan front).1 = (Numeral.scan bytes).1 := by
  match bytes with
  | [] => exact ⟨[], rfl, rfl⟩
  | b :: rest =>
    by_cases hsign : b = 0x2B ∨ b = 0x2D
    . have hscan (tail : List UInt8)
          : Numeral.scan (b :: tail) = Numeral.scanUnsigned (some b) tail := by
        rw [Numeral.scan, if_pos hsign]
      rcases scanUnsigned_split (some b) rest with ⟨front, hfront, halone⟩
      refine ⟨b :: front, ?_, ?_⟩
      . rw [hscan, List.cons_append, ← hfront]
      . rw [hscan, hscan, halone]
    . have hscan (tail : List UInt8)
          : Numeral.scan (b :: tail) = Numeral.scanUnsigned none (b :: tail) := by
        rw [Numeral.scan, if_neg hsign]
      rcases scanUnsigned_split none (b :: rest) with ⟨front, hfront, halone⟩
      refine ⟨front, ?_, ?_⟩
      . rw [hscan]
        exact hfront
      . cases front with
        | nil =>
          rw [hscan]
          change (Numeral.scanUnsigned none []).1 = _
          rw [halone]
        | cons c front =>
          have hc : c = b := (List.cons.inj hfront).1.symm
          subst hc
          rw [hscan, hscan, halone]

theorem pastDigits_true_eq {bytes : List UInt8} (h : bytes <:+ content)
    : pastDigits content true (place content bytes)
        =
      some (.ok ((), place content (bytes.dropWhile isDigit))) := by
  induction bytes with
  | nil =>
    rw [pastDigits]
    simp only [bind_eq, peek_eq h]
    rfl
  | cons b rest ih =>
    rw [pastDigits]
    simp only [bind_eq, peek_eq h, List.head?_cons]
    by_cases hb : isDigit b = true
    . rw [if_pos hb, List.dropWhile_cons_of_pos hb]
      simp only [bind_eq, advance_cons h]
      exact ih ((List.suffix_cons b rest).trans h)
    . rw [if_neg hb, if_neg (by simp), List.dropWhile_cons_of_neg hb]
      rfl

theorem pastDigits_false_eq {bytes : List UInt8} (h : bytes <:+ content) (sign : Option UInt8)
    : pastDigits content false (place content bytes)
        =
      some (.ok ((), place content (Numeral.scanUnsigned sign bytes).2)) := by
  unfold Numeral.scanUnsigned
  induction bytes with
  | nil =>
    rw [pastDigits]
    simp only [bind_eq, peek_eq h]
    rfl
  | cons b rest ih =>
    have hrest := (List.suffix_cons b rest).trans h
    rw [pastDigits]
    simp only [bind_eq, peek_eq h, List.head?_cons]
    by_cases hb : isDigit b = true
    . rw [if_pos hb, List.dropWhile_cons_of_pos hb]
      simp only [bind_eq, advance_cons h]
      rw [ih hrest]
      cases rest.dropWhile isDigit with
      | nil => rfl
      | cons c after =>
        dsimp only
        split <;> rfl
    . rw [if_neg hb, List.dropWhile_cons_of_neg hb]
      dsimp only
      by_cases hpoint : b = 0x2E
      . subst hpoint
        simp only [and_self, if_true, bind_eq, advance_cons h, pastDigits_true_eq hrest]
      . simp only [hpoint, false_and, if_false]
        rfl

theorem pastNumber_eq {bytes : List UInt8} (h : bytes <:+ content)
    : pastNumber content (place content bytes)
        =
      some (.ok ((), place content (Numeral.scan bytes).2)) := by
  unfold pastNumber
  simp only [bind_eq, peek_eq h]
  match bytes with
  | [] => exact pastDigits_false_eq h none
  | b :: rest =>
    rw [Numeral.scan]
    simp only [List.head?_cons, Option.some.injEq]
    by_cases hsign : b = 0x2B ∨ b = 0x2D
    . rw [if_pos hsign, if_pos hsign]
      simp only [bind_eq, advance_cons h]
      exact pastDigits_false_eq ((List.suffix_cons b rest).trans h) (some b)
    . rw [if_neg hsign, if_neg hsign]
      exact pastDigits_false_eq h none

/-- The number that is found at the beginning of bytes, and the bytes behind it. -/
def scanNumber (α : Type) [Scalar α] (bytes : List UInt8)
    : Except Halt (Operand α × List UInt8) :=
  match (Numeral.scan bytes).1.operand with
  | .ok o => .ok (o, (Numeral.scan bytes).2)
  | .error cause => .error ⟨cause, (Numeral.scan bytes).2.length⟩

theorem number_eq {α : Type} [Scalar α] {bytes : List UInt8} (h : bytes <:+ content)
    : number content (place content bytes) = some (report content (scanNumber α bytes)) := by
  rcases scan_split bytes with ⟨front, hsplit, halone⟩
  have hslice := slice_eq (hsplit ▸ h)
  rw [← hsplit] at hslice
  unfold number scanNumber
  simp only [bind_eq, get_eq, pastNumber_eq h, hslice, halone]
  cases (Numeral.scan bytes).1.operand (α := α) with
  | ok o => rfl
  | error cause => rfl

/-!
The data of an inline image.
-/

/-- Whether a mark that stands behind these bytes may end the data. -/
def isFree (front : List UInt8) : Bool := front.getLast?.all isBlank

theorem behindBlank_eq (front bytes : List UInt8)
    : behindBlank (front ++ bytes) (place (front ++ bytes) bytes)
        =
      some (.ok (isFree front, place (front ++ bytes) bytes)) := by
  unfold behindBlank isFree
  simp only [bind_eq, get_eq]
  rw [place_append]
  by_cases hfront : front = []
  . subst hfront
    rfl
  . have hlength := List.length_pos_iff.mpr hfront
    have hlast : (front ++ bytes)[front.length - 1]? = some (front.getLast hfront) := by
      rw [List.getElem?_append_left (by omega), ← List.getLast?_eq_getElem?]
      exact List.getLast?_eq_some_getLast hfront
    rw [if_neg (by omega), List.getLast?_eq_some_getLast hfront]
    simp only [bind_eq, byteAt_eq hlast]
    rfl

theorem atDataEnd_eq {front rest : List UInt8} {b : UInt8} (h : content = front ++ b :: rest)
    : atDataEnd content (place content (b :: rest))
        =
      some (.ok (isFree front && b == 0x45 && endsImageData rest, place content (b :: rest))) := by
  have hsuffix : b :: rest <:+ content := ⟨front, h.symm⟩
  have hfree := behindBlank_eq front (b :: rest)
  rw [← h] at hfree
  unfold atDataEnd
  simp only [bind_eq, get_eq, slice_suffix_eq hsuffix]
  cases rest with
  | nil => simp [List.isPrefixOf, endsImageData, pure_eq]
  | cons c rest =>
    by_cases hmark : b = 0x45 ∧ c = 0x49
    . rcases hmark with ⟨rfl, rfl⟩
      rw [if_pos (by simp [List.isPrefixOf])]
      simp only [bind_eq, hfree, peekAt_eq hsuffix, pure_eq]
      cases rest with
      | nil => simp [endsImageData]
      | cons d rest => simp [endsImageData]
    . have hprefix : ¬ [0x45, 0x49].isPrefixOf (b :: c :: rest) = true := by
        intro hand
        simp only [List.isPrefixOf, Bool.and_eq_true, beq_iff_eq] at hand
        exact hmark ⟨hand.1.symm, hand.2.1.symm⟩
      have hother : (b == 0x45 && endsImageData (c :: rest)) = false := by
        rw [Bool.eq_false_iff]
        intro hand
        simp only [endsImageData, Bool.and_eq_true, beq_iff_eq] at hand
        exact hmark ⟨hand.1, hand.2.1⟩
      rw [if_neg hprefix, Bool.and_assoc, hother, Bool.and_false]
      rfl

theorem pastData_eq {front bytes : List UInt8} (h : content = front ++ bytes)
    : pastData content (place content bytes)
        =
      some (.ok ((), place content (skipImageData (isFree front) bytes))) := by
  induction bytes generalizing front with
  | nil =>
    rw [pastData]
    simp only [bind_eq, get_eq]
    rw [if_neg (by simp [place])]
    rfl
  | cons b rest ih =>
    have hsuffix : b :: rest <:+ content := ⟨front, h.symm⟩
    have hlt : place content (b :: rest) < content.length := by
      have := hsuffix.length_le
      simp only [List.length_cons] at this
      simp only [place, List.length_cons]
      omega
    rw [pastData, skipImageData]
    simp only [bind_eq, get_eq]
    rw [if_pos hlt]
    simp only [bind_eq, atDataEnd_eq h]
    by_cases hend : (isFree front && b == 0x45 && endsImageData rest) = true
    . have hcount : 2 ≤ (b :: rest).length := by
        cases rest with
        | nil => simp [endsImageData] at hend
        | cons c rest => simp
      rw [if_pos hend, if_pos hend, advance_eq hsuffix 2 hcount]
      simp
    . have hfree : isFree (front ++ [b]) = isBlank b := by simp [isFree]
      have hrest : content = front ++ [b] ++ rest := by
        rw [h, List.append_assoc, List.singleton_append]
      rw [if_neg hend, if_neg hend]
      simp only [bind_eq, advance_cons hsuffix]
      rw [ih hrest, hfree]

theorem skipImageData_of_ends {bytes : List UInt8} (h : Ends bytes) (afterBlank other : Bool)
    : skipImageData afterBlank bytes = skipImageData other bytes := by
  cases bytes with
  | nil => rfl
  | cons b rest =>
    have hb : (b == 0x45) = false := by
      rw [beq_eq_false_iff_ne]
      rintro rfl
      exact absurd (h _ rfl) (by decide)
    simp only [skipImageData, hb, Bool.and_false, Bool.false_and]

theorem pastImageData_eq {bytes : List UInt8} (h : bytes <:+ content) (hends : Ends bytes)
    : pastImageData content (place content bytes)
        =
      some (.ok ((), place content (afterImageData bytes))) := by
  rcases h with ⟨front, h⟩
  have hsuffix : bytes <:+ content := ⟨front, h⟩
  unfold pastImageData
  simp only [bind_eq, peek_eq hsuffix]
  cases bytes with
  | nil => exact pastData_eq h.symm
  | cons b rest =>
    by_cases hblank : isBlank b = true
    . have hfree : isFree (front ++ [b]) = true := by simpa [isFree] using hblank
      have hrest : content = front ++ [b] ++ rest := by
        rw [← h, List.append_assoc, List.singleton_append]
      simp only [List.head?_cons, Option.any_some, hblank, if_true, bind_eq, advance_cons hsuffix]
      rw [pastData_eq hrest, hfree, afterImageData, if_pos hblank]
    . simp only [List.head?_cons, Option.any_some, hblank, Bool.false_eq_true, if_false]
      change pastData content (place content (b :: rest)) = _
      rw [pastData_eq h.symm, afterImageData, if_neg hblank, skipImageData_of_ends hends]

end Galley.Content.Cursor
