import Galley.Proofs.Content.Concatenation

/-!
This module shows that an inline image leaves no trace between the operators before it and those
behind it: its header is read token by token up to `ID`, its data byte by byte up to `EI`, and both
are forgotten.
-/

namespace Galley.Content

/-- What a header is made of. Collections are tokens as a whole; only a stray end stands alone. -/
inductive Token (α : Type)
  | operand (o : Operand α)
  | word (text : String)
  | arrayEnd
  | dictionaryEnd
deriving Repr

section Tokens

variable {α : Type}

/-- Read a lexeme within open collections: those open behind it, and the token it completes. -/
def Token.read? (opened : List (Opened α)) (x : Lexeme α) :
    Except Cause (List (Opened α) × Option (Token α)) :=
  match opened, x with
  | [], .word text => .ok ([], some (.word text))
  | [], .arrayClose => .ok ([], some .arrayEnd)
  | [], .dictionaryClose => .ok ([], some .dictionaryEnd)
  | _, _ =>
    ((Reader.mk [] [] false opened).accept x).map fun r =>
      (r.opened, r.operands.head?.map .operand)

variable [Scalar α]

/-- Within open collections the bytes are read to their end without a fault, as these tokens. -/
inductive Lexes : List (Opened α) → List UInt8 → List (Token α) → Prop where
  | done {bytes : List UInt8} (hnext : nextLexeme (α := α) bytes = .ok none) : Lexes [] bytes []
  | step {opened inner : List (Opened α)} {x : Lexeme α} {token : Option (Token α)}
      {bytes rest : List UInt8} {tokens : List (Token α)}
      (hnext : nextLexeme bytes = .ok (some (x, rest)))
      (hread : Token.read? opened x = .ok (inner, token)) (hrest : Lexes inner rest tokens)
    : Lexes opened bytes (token.toList ++ tokens)

end Tokens

/-!
What a line feed at the end adds to the bytes before it is no lexeme, and it mends no fault.
-/

theorem scanLiteral_lineFeed_of_error {mode : LiteralMode} {depth : Nat} {bytes : List UInt8}
    {halt : Halt} (h : scanLiteral mode depth bytes = .error halt)
    : ∃ halt, scanLiteral mode depth (bytes ++ [0x0A]) = .error halt := by
  induction bytes generalizing mode depth with
  | nil =>
    cases mode with
    | octal value left =>
      cases left with
      | zero => exact ⟨_, rfl⟩
      | succ more => exact ⟨_, rfl⟩
    | _ => exact ⟨_, rfl⟩
  | cons b rest ih =>
    simp only [List.cons_append, scanLiteral] at h ⊢
    split at h
    . cases h
    . obtain ⟨found, hfound⟩ := ih (error_of_map_error h)
      rw [hfound]
      exact ⟨found, rfl⟩

theorem scanHex_lineFeed_of_error {high : Option UInt8} {bytes : List UInt8} {halt : Halt}
    (h : scanHex high bytes = .error halt)
    : ∃ halt, scanHex high (bytes ++ [0x0A]) = .error halt := by
  induction bytes generalizing high with
  | nil => exact ⟨_, rfl⟩
  | cons b rest ih =>
    simp only [List.cons_append, scanHex] at h ⊢
    split at h
    . cases h
    . split at h
      . next hend hblank =>
        rw [if_neg hend, if_pos hblank]
        exact ih h
      . next hend hblank =>
        rw [if_neg hend, if_neg hblank]
        split at h
        . exact ⟨_, rfl⟩
        . obtain ⟨found, hfound⟩ := ih (error_of_map_error h)
          rw [hfound]
          exact ⟨found, rfl⟩
        . exact ih h

section

variable {α : Type} [Scalar α]

theorem scanLexeme_lineFeed_of_error {b : UInt8} {rest : List UInt8} {halt : Halt}
    (h : scanLexeme (α := α) b rest = .error halt)
    : ∃ halt, scanLexeme (α := α) b (rest ++ [0x0A]) = .error halt := by
  unfold scanLexeme at h ⊢
  split at h
  . next hliteral =>
    rw [if_pos hliteral]
    obtain ⟨found, hfound⟩ := scanLiteral_lineFeed_of_error (error_of_map_error h)
    rw [hfound]
    exact ⟨found, rfl⟩
  next hliteral =>
  rw [if_neg hliteral]
  split at h
  . next hangle =>
    rw [if_pos hangle]
    split at h
    . cases h
    . next hhex =>
      obtain ⟨found, hfound⟩ := scanHex_lineFeed_of_error (error_of_map_error h)
      split
      . next r heq =>
        -- the second angle bracket would have to be among the bytes before the line feed
        cases rest with
        | nil => cases heq
        | cons c rest =>
          cases heq
          exact absurd rfl (hhex rest)
      . rw [hfound]
        exact ⟨found, rfl⟩
  next hangle =>
  rw [if_neg hangle]
  split at h
  . cases h
  next hclose =>
  rw [if_neg hclose]
  split at h
  . cases h
  next hopen =>
  rw [if_neg hopen]
  split at h
  . cases h
  next hend =>
  rw [if_neg hend]
  split at h
  . cases h
  next hname =>
  rw [if_neg hname]
  split at h
  . next hnumber =>
    rw [if_pos hnumber]
    have hscan := scan_append_lineFeed [] (b :: rest)
    rw [List.cons_append] at hscan
    rw [hscan]
    dsimp only at h ⊢
    split at h
    . cases h
    . exact ⟨_, rfl⟩
  . cases h

theorem exists_nextLexeme_of_lineFeed {bytes : List UInt8} {next : Option (Lexeme α × List UInt8)}
    (h : nextLexeme (bytes ++ [0x0A]) = .ok next)
    : ∃ next, nextLexeme (α := α) bytes = .ok next := by
  cases hbytes : nextLexeme (α := α) bytes with
  | ok next => exact ⟨next, rfl⟩
  | error halt =>
    unfold nextLexeme at h hbytes
    rw [skipFiller_append_lineFeed] at h
    split at hbytes
    . cases hbytes
    . next b rest hskip =>
      obtain ⟨found, hfound⟩ := scanLexeme_lineFeed_of_error (error_of_map_error hbytes)
      rw [if_neg (hskip ▸ List.cons_ne_nil b rest), hskip, List.cons_append] at h
      dsimp only at h
      rw [hfound] at h
      cases h

theorem Lexes.of_lineFeed {opened : List (Opened α)} {bytes : List UInt8}
    {tokens : List (Token α)} (h : Lexes opened (bytes ++ [0x0A]) tokens)
    : Lexes opened bytes tokens := by
  generalize hwhole : bytes ++ [0x0A] = whole at h
  induction h generalizing bytes with
  | done hnext =>
    subst hwhole
    obtain ⟨next, hbytes⟩ := exists_nextLexeme_of_lineFeed hnext
    rw [nextLexeme_append_lineFeed [] hbytes] at hnext
    cases next with
    | none => exact .done hbytes
    | some found => cases hnext
  | step hnext hread hrest ih =>
    subst hwhole
    obtain ⟨next, hbytes⟩ := exists_nextLexeme_of_lineFeed hnext
    rw [nextLexeme_append_lineFeed [] hbytes] at hnext
    cases next with
    | none => cases hnext
    | some found =>
      cases hnext
      exact .step hbytes hread (ih rfl)

end

/-!
The header: a reader behind `BI` keeps nothing but the collections that are still open.
-/

namespace Reader

section Header

variable {α : Type} {r : Reader α} (himage : r.inImage = true)
include himage

theorem deliver_header (o : Operand α)
    : r.deliver o
        =
      ((Reader.mk [] [] false r.opened).deliver o).map fun next =>
        { r with opened := next.opened } := by
  rcases r with ⟨operators, operands, inImage, opened⟩
  cases himage
  cases opened with
  | nil => rfl
  | cons top outer =>
    cases top with
    | array items => rfl
    | dictionary entries key =>
      cases key with
      | some key => rfl
      | none => cases o <;> rfl

theorem accept_header {top : Opened α} {outer : List (Opened α)} (hopened : r.opened = top :: outer)
    (x : Lexeme α)
    : r.accept x
        =
      ((Reader.mk [] [] false r.opened).accept x).map fun next =>
        { r with opened := next.opened } := by
  have hdeliver := deliver_header himage
  have houter := deliver_header (r := { r with opened := outer }) himage
  cases x with
  | atom o => apply hdeliver
  | word text =>
    simp only [accept, word, hopened] at hdeliver ⊢
    cases top with
    | array items => apply hdeliver
    | dictionary entries key =>
      cases key with
      | some key => apply hdeliver
      | none => rfl
  | arrayOpen => rfl
  | arrayClose =>
    simp only [accept, closeArray, hopened]
    cases top with
    | array items => apply houter
    | dictionary entries key => cases key <;> rfl
  | dictionaryOpen => rfl
  | dictionaryClose =>
    simp only [accept, closeDictionary, hopened]
    cases top with
    | array items => rfl
    | dictionary entries key =>
      cases key with
      | some key => rfl
      | none => apply houter

theorem accept_header_of_nil (hopened : r.opened = []) {x : Lexeme α} {opened : List (Opened α)}
    {token : Option (Token α)} (hread : Token.read? [] x = .ok (opened, token))
    : r.accept x = .ok { r with opened := opened } := by
  rcases r with ⟨operators, operands, inImage, outside⟩
  cases himage
  cases hopened
  cases x <;> cases hread <;> rfl

theorem step_header {x : Lexeme α} {opened : List (Opened α)} {token : Option (Token α)}
    (hread : Token.read? r.opened x = .ok (opened, token)) (hid : token ≠ some (.word "ID"))
    (rest : List UInt8)
    : r.step x rest = .ok ({ r with opened := opened }, rest) := by
  have hdata : ¬r.beginsData x = true := by
    cases x with
    | word text =>
      simp only [beginsData, beginsImageData, Bool.and_eq_true, List.isEmpty_iff, beq_iff_eq]
      rintro ⟨⟨_, hopened⟩, htext⟩
      rw [hopened, htext] at hread
      cases hread
      exact hid rfl
    | _ => exact Bool.false_ne_true
  have haccept : r.accept x = .ok { r with opened := opened } := by
    cases hopened : r.opened with
    | nil =>
      rw [hopened] at hread
      exact accept_header_of_nil himage hopened hread
    | cons top outer =>
      have hplain : ∃ next, (Reader.mk [] [] false r.opened).accept x = .ok next ∧
          (next.opened, next.operands.head?.map Token.operand) = (opened, token) := by
        rw [hopened] at hread ⊢
        apply ok_of_map_ok
        rw [← hread]
        cases x <;> rfl
      obtain ⟨next, hnext, heq⟩ := hplain
      rw [accept_header himage hopened, hnext]
      cases heq
      rfl
  unfold step
  rw [if_neg hdata, haccept]

end Header

variable {α : Type} [Scalar α]

/-- Behind a header no collection is open, and nothing else has changed. -/
theorem run_header {r : Reader α} (himage : r.inImage = true) {header : List UInt8}
    {tokens : List (Token α)} (hlexes : Lexes r.opened header tokens)
    (hid : .word "ID" ∉ tokens) (more : List UInt8)
    : r.run (header ++ 0x0A :: more) = { r with opened := [] }.run more := by
  generalize hopened : r.opened = opened at hlexes
  induction hlexes generalizing r with
  | done hnext =>
    rw [← hopened]
    exact r.run_congr (nextLexeme_append_lineFeed more hnext)
  | step hnext hread hrest ih =>
    rw [List.mem_append, Option.mem_toList, not_or] at hid
    rw [← hopened] at hread
    rw [r.run_step (nextLexeme_append_lineFeed more hnext), step_header himage hread hid.1]
    exact ih himage hid.2 rfl

end Reader

/-!
The data: bytes in which no `EI` stands by itself.
-/

/-- Whether `EI` stands nowhere in the bytes between a blank and a blank or a delimiter. -/
def LacksMark (bytes : List UInt8) : Prop :=
  ∀ b c, [b, 0x45, 0x49, c] <:+: bytes → isBlank b = true →
    isBlank c = false ∧ isDelimiter c = false

theorem exists_of_endsImageData {rest more : List UInt8}
    (h : endsImageData (rest ++ 0x0A :: more) = true)
    : ∃ c tail, rest ++ [0x0A] = 0x49 :: c :: tail ∧ (isBlank c || isDelimiter c) = true := by
  cases rest with
  | nil => simp [endsImageData] at h
  | cons i rest =>
    cases rest with
    | nil =>
      simp only [List.cons_append, endsImageData, Bool.and_eq_true, beq_iff_eq] at h
      exact ⟨0x0A, [], by rw [h.1]; rfl, rfl⟩
    | cons c rest =>
      simp only [List.cons_append, endsImageData, Bool.and_eq_true, beq_iff_eq] at h
      exact ⟨c, rest ++ [0x0A], by rw [h.1]; rfl, h.2⟩

/-- Data without the mark ends at the one on the line behind it. -/
theorem skipImageData_of_lacksMark {b : UInt8} {data : List UInt8}
    (h : LacksMark (b :: (data ++ [0x0A]))) (more : List UInt8)
    : skipImageData (isBlank b) (data ++ 0x0A :: 0x45 :: 0x49 :: 0x0A :: more) = 0x0A :: more := by
  induction data generalizing b with
  | nil =>
    rw [List.nil_append, skipImageData, if_neg (by simp)]
    rfl
  | cons e rest ih =>
    have hrest : LacksMark (e :: (rest ++ [0x0A])) := by
      intro before behind hinfix
      exact h before behind (List.infix_cons hinfix)
    have hmark
        : ¬(isBlank b && e == 0x45 &&
            endsImageData (rest ++ 0x0A :: 0x45 :: 0x49 :: 0x0A :: more)) = true := by
      rw [Bool.and_eq_true, Bool.and_eq_true, beq_iff_eq]
      rintro ⟨⟨hblank, rfl⟩, hends⟩
      obtain ⟨c, tail, heq, hbehind⟩ := exists_of_endsImageData hends
      have hinfix : [b, 0x45, 0x49, c] <:+: b :: (0x45 :: rest ++ [0x0A]) := by
        rw [List.cons_append, heq]
        exact ⟨[], tail, rfl⟩
      obtain ⟨hnotBlank, hnotDelimiter⟩ := h b c hinfix hblank
      rw [hnotBlank, hnotDelimiter] at hbehind
      contradiction
    rw [List.cons_append, skipImageData, if_neg hmark, ih hrest]

/-- `BI`, the header, `ID`, the data, and `EI` on a line of its own. -/
def inlineImage (header data : List UInt8) : List UInt8 :=
  [0x42, 0x49, 0x20] ++ header ++ [0x49, 0x44, 0x20] ++ data ++ [0x0A, 0x45, 0x49]

section

variable {α : Type} [Scalar α]

namespace Reader

variable {r : Reader α} (hopened : r.opened = [])
include hopened

theorem run_beginImage (himage : r.inImage = false) (bytes : List UInt8)
    : r.run (0x42 :: 0x49 :: 0x20 :: bytes) = { r with inImage := true }.run bytes := by
  rcases r with ⟨operators, operands, inImage, opened⟩
  cases himage
  cases hopened
  have hnext
      : nextLexeme (α := α) (0x42 :: 0x49 :: 0x20 :: bytes)
          =
        .ok (some (.word "BI", 0x20 :: bytes)) := rfl
  rw [run_step _ hnext]
  exact run_congr _ rfl

theorem run_imageData (himage : r.inImage = true) {data : List UInt8}
    (hdata : LacksMark (0x20 :: (data ++ [0x0A]))) (more : List UInt8)
    : r.run (0x49 :: 0x44 :: 0x20 :: (data ++ 0x0A :: 0x45 :: 0x49 :: 0x0A :: more))
        =
      r.leaveImage.run more := by
  rcases r with ⟨operators, operands, inImage, opened⟩
  cases himage
  cases hopened
  have hskip := skipImageData_of_lacksMark hdata more
  generalize data ++ 0x0A :: 0x45 :: 0x49 :: 0x0A :: more = behind at hskip ⊢
  have hnext
      : nextLexeme (α := α) (0x49 :: 0x44 :: 0x20 :: behind)
          =
        .ok (some (.word "ID", 0x20 :: behind)) := rfl
  rw [run_step _ hnext]
  change Reader.run _ (skipImageData (isBlank 0x20) _) = _
  rw [hskip]
  exact run_congr _ rfl

/-- An image takes the operands that wait in front of it, and is forgotten. -/
theorem run_inlineImage (himage : r.inImage = false) {header : List UInt8}
    {tokens : List (Token α)} (hheader : Lexes [] header tokens) (hid : .word "ID" ∉ tokens)
    (hend : header.getLast? = some 0x0A) {data : List UInt8}
    (hdata : LacksMark (0x20 :: (data ++ [0x0A]))) (more : List UInt8)
    : r.run (inlineImage header data ++ 0x0A :: more) = { r with operands := [] }.run more := by
  obtain ⟨lines, rfl⟩ := List.getLast?_eq_some_iff.mp hend
  have hlines : Lexes { r with inImage := true }.opened lines tokens := by
    dsimp only
    rw [hopened]
    exact hheader.of_lineFeed
  have hbytes
      : inlineImage (lines ++ [0x0A]) data ++ 0x0A :: more
          =
        0x42 :: 0x49 :: 0x20 :: (lines ++ 0x0A :: 0x49 :: 0x44 :: 0x20 ::
          (data ++ 0x0A :: 0x45 :: 0x49 :: 0x0A :: more)) := by
    simp [inlineImage]
  rw [hbytes, run_beginImage hopened himage, run_header rfl hlines hid, run_imageData rfl rfl hdata]
  unfold leaveImage
  rw [← hopened, ← himage]

end Reader

theorem tokenize_inlineImage {before : List UInt8} {ops : List (Operator α)}
    (hbefore : tokenize before = .ok ops)
    (hlast : (topLevel α before).getLast? ≠ some .operand)
    (hclosed : .image false ∉ topLevel α before) {header : List UInt8} {tokens : List (Token α)}
    (hheader : Lexes [] header tokens) (hid : .word "ID" ∉ tokens)
    (hend : header.getLast? = some 0x0A) {data : List UInt8}
    (hdata : LacksMark (0x20 :: (data ++ [0x0A]))) (after : List UInt8)
    : tokenize (before ++ 0x0A :: (inlineImage header data ++ 0x0A :: after))
        =
      match tokenize (α := α) (before ++ 0x0A :: after) with
      | .ok ops => .ok ops
      | .error fault =>
        .error ⟨fault.cause, fault.offset + ((inlineImage header data).length + 1)⟩ := by
  rcases reads_of_tokenize hbefore with ⟨operands, hreads⟩
  have hoperands : operands = [] := hreads.operands_eq_nil hlast fun _ => rfl
  subst hoperands
  have hrun
      : Reader.empty.run (before ++ 0x0A :: (inlineImage header data ++ 0x0A :: after))
          =
        Reader.empty.run (α := α) (before ++ 0x0A :: after) := by
    rw [hreads.run_append_lineFeed hclosed, hreads.run_append_lineFeed hclosed]
    exact Reader.run_inlineImage rfl rfl hheader hid hend hdata after
  unfold tokenize
  rw [hrun]
  cases h : Reader.empty.run (α := α) (before ++ 0x0A :: after) with
  | ok ops => rfl
  | error halt =>
    have hunread := unread_run_le h
    have hoffset
        : (before ++ 0x0A :: (inlineImage header data ++ 0x0A :: after)).length - halt.unread
            =
          (before ++ 0x0A :: after).length - halt.unread
            + ((inlineImage header data).length + 1) := by
      simp only [List.length_append, List.length_cons] at hunread ⊢
      omega
    exact congrArg (fun offset => Except.error (Fault.mk halt.cause offset)) hoffset

end

-- the bytes of "/W 2 [ID]" and a line feed
def nestedHeader : List UInt8 := [0x2F, 0x57, 0x20, 0x32, 0x20, 0x5B, 0x49, 0x44, 0x5D, 0x0A]

def nestedTokens : List (Token Float) :=
  [.operand (.name "W"), .operand (.int 2), .operand (.array [.name "ID"])]

theorem lexes_nestedHeader : Lexes [] nestedHeader nestedTokens := by
  have hkey
      : Token.read? (α := Float) [] (.atom (.name "W"))
          =
        .ok ([], some (.operand (.name "W"))) := rfl
  have hvalue
      : Token.read? (α := Float) [] (.atom (.int 2)) = .ok ([], some (.operand (.int 2))) := rfl
  have hopen : Token.read? (α := Float) [] .arrayOpen = .ok ([.array []], none) := rfl
  have hitem
      : Token.read? (α := Float) [.array []] (.word "ID")
          =
        .ok ([.array [.name "ID"]], none) := rfl
  have hclose
      : Token.read? (α := Float) [.array [.name "ID"]] .arrayClose
          =
        .ok ([], some (.operand (.array [.name "ID"]))) := rfl
  exact .step (by rfl) hkey <| .step (by rfl) hvalue <| .step (by rfl) hopen <|
    .step (by rfl) hitem <| .step (by rfl) hclose <| .done (by rfl)

-- `EI` behind a blank but before a regular byte, and a parenthesis that nothing closes
def markedData : List UInt8 := [0x45, 0x49, 0xFF, 0x28]

theorem lacksMark_markedData : LacksMark (0x20 :: (markedData ++ [0x0A])) := by
  rintro b c ⟨before, behind, heq⟩ hblank
  rcases before with _ | ⟨_, _ | ⟨_, _ | ⟨_, before⟩⟩⟩
  . cases heq
    decide
  . cases heq
  . cases heq
  . have hlength := congrArg List.length heq
    simp [markedData] at hlength
    omega

theorem tokenize_inlineImage_nested
    : tokenize (α := Float) [0x71] = .ok [⟨"q", []⟩] ∧
        (topLevel Float [0x71]).getLast? ≠ some .operand ∧
        .image false ∉ topLevel Float [0x71] ∧
        Lexes [] nestedHeader nestedTokens ∧
        .word "ID" ∉ nestedTokens ∧
        nestedHeader.getLast? = some 0x0A ∧
        LacksMark (0x20 :: (markedData ++ [0x0A])) ∧
        tokenize (α := Float)
            ([0x71] ++ 0x0A :: (inlineImage nestedHeader markedData ++ [0x0A, 0x51]))
          =
        .ok [⟨"q", []⟩, ⟨"Q", []⟩] := by
  have hbefore : tokenize (α := Float) [0x71] = .ok [⟨"q", []⟩] := by
    unfold tokenize
    rw [Reader.run_step _ (x := .word "q") rfl]
    change Except.mapError _ (Reader.run ⟨[⟨"q", []⟩], [], false, []⟩ []) = _
    rw [Reader.run_end _ rfl]
    rfl
  have hwhole : tokenize (α := Float) [0x71, 0x0A, 0x51] = .ok [⟨"q", []⟩, ⟨"Q", []⟩] := by
    unfold tokenize
    rw [Reader.run_step _ (x := .word "q") rfl]
    change Except.mapError _ (Reader.run ⟨[⟨"q", []⟩], [], false, []⟩ [0x0A, 0x51]) = _
    rw [Reader.run_step _ (x := .word "Q") rfl]
    change Except.mapError _ (Reader.run ⟨[⟨"Q", []⟩, ⟨"q", []⟩], [], false, []⟩ []) = _
    rw [Reader.run_end _ rfl]
    rfl
  have hlast : (topLevel Float [0x71]).getLast? ≠ some .operand := by decide +kernel
  have hclosed : .image false ∉ topLevel Float [0x71] := by decide +kernel
  have hid : .word "ID" ∉ nestedTokens := by simp [nestedTokens]
  refine ⟨hbefore, hlast, hclosed, lexes_nestedHeader, hid, rfl, lacksMark_markedData, ?_⟩
  rw [tokenize_inlineImage hbefore hlast hclosed lexes_nestedHeader hid rfl lacksMark_markedData]
  rw [List.singleton_append, hwhole]

end Galley.Content
