import Mathlib.Order.Bounds.Basic
import Galley.Proofs.Content.Splitting

/-!
This module contains the reports of guessed codes: a font is reported with the first of its codes
that it has no text for, be it a pair of bytes or the byte that is left over at the end of a string.
-/

namespace Galley

section FirstOfEach

variable {β : Type} (named? : Nat → Option (String × β))

/-- Whether an entry before the `n`-th has this name. -/
def NamedBefore (n : Nat) (name : String) : Prop := ∃ i < n, ∃ b, named? i = some (name, b)

open Classical in
/-- The `n`-th entry with its place, if it is the first of its name. -/
noncomputable def firstNamed? (n : Nat) : Option (Nat × String × β) :=
  (named? n).bind fun entry => if NamedBefore named? n entry.1 then none else some (n, entry)

/-- The first entry of each name among the first `n` of a sequence, with its place. -/
noncomputable def firstOfEach (n : Nat) : List (Nat × String × β) :=
  (List.range n).filterMap (firstNamed? named?)

variable {named?} {n i : Nat} {name : String} {b : β}

theorem namedBefore_succ
    : NamedBefore named? (n + 1) name ↔
        NamedBefore named? n name ∨ ∃ b, named? n = some (name, b) := by
  unfold NamedBefore
  simp only [Nat.lt_succ_iff_lt_or_eq, or_and_right, exists_or, exists_eq_left]

theorem firstNamed?_eq_some_iff {u : Nat × String × β}
    : firstNamed? named? n = some u ↔
        u.1 = n ∧ named? n = some u.2 ∧ ¬NamedBefore named? n u.2.1 := by
  obtain ⟨i, name, b⟩ := u
  unfold firstNamed?
  rw [Option.bind_eq_some_iff]
  constructor
  . rintro ⟨⟨other, c⟩, hentry, h⟩
    rw [Option.ite_none_left_eq_some, Option.some_inj] at h
    obtain ⟨hnew, heq⟩ := h
    cases heq
    exact ⟨rfl, hentry, hnew⟩
  . rintro ⟨rfl, hentry, hnew⟩
    exact ⟨_, hentry, if_neg hnew⟩

theorem mem_firstOfEach {u : Nat × String × β}
    : u ∈ firstOfEach named? n ↔
        u.1 < n ∧ named? u.1 = some u.2 ∧ ¬NamedBefore named? u.1 u.2.1 := by
  unfold firstOfEach
  simp only [List.mem_filterMap, List.mem_range, firstNamed?_eq_some_iff]
  constructor
  . rintro ⟨_, hlt, rfl, h⟩
    exact ⟨hlt, h⟩
  . rintro ⟨hlt, h⟩
    exact ⟨_, hlt, rfl, h⟩

theorem pairwise_firstOfEach : (firstOfEach named? n).Pairwise fun u v => u.1 < v.1 := by
  unfold firstOfEach
  rw [List.pairwise_filterMap]
  apply List.pairwise_lt_range.imp
  intro i j hlt u hu v hv
  rw [(firstNamed?_eq_some_iff.mp hu).1, (firstNamed?_eq_some_iff.mp hv).1]
  exact hlt

theorem firstOfEach_succ
    : firstOfEach named? (n + 1) = firstOfEach named? n ++ (firstNamed? named? n).toList := by
  unfold firstOfEach
  rw [List.range_succ, List.filterMap_append]
  cases h : firstNamed? named? n <;> simp [h]

end FirstOfEach

section Tables

variable {α : Type}

/-- The fonts that these tables describe, by name. -/
def FontBook.ofTables (tables : List (String × FontTables α)) : FontBook α :=
  ⟨tables.map fun (name, t) => (name, t.font)⟩

theorem FontBook.get?_ofTables (tables : List (String × FontTables α)) (name : String)
    : (FontBook.ofTables tables).get? name = (tables.lookup name).map FontTables.font := by
  unfold FontBook.ofTables FontBook.get?
  induction tables with
  | nil => rfl
  | cons entry rest ih =>
    rw [List.map_cons, List.lookup_cons, List.lookup_cons, ih]
    split <;> rfl

theorem length_of_mem_splitCodes {bytes raw : List UInt8} (h : raw ∈ splitCodes true bytes)
    : raw.length = 2 ∨ raw.length = 1 := by
  induction bytes using List.twoStepInduction with
  | nil => contradiction
  | singleton b =>
    rw [List.mem_singleton.mp h]
    exact .inr rfl
  | cons_cons b c rest ih _ =>
    rcases List.mem_cons.mp h with rfl | hrest
    . exact .inl rfl
    . exact ih hrest

/-- The codes of a string that are not mapped. -/
def Font.unmapped (font : Font α) (bytes : List UInt8) : List UInt32 :=
  ((splitCodes font.isTwoByte bytes).map codeOfBytes).filter fun code => !font.isMapped code

theorem Font.unmapped_substitute (name : String) (bytes : List UInt8)
    : (Font.substitute name : Font α).unmapped bytes = [] := by
  unfold unmapped
  rw [List.filter_eq_nil_iff]
  intro code _ h
  contradiction

/-- Only a pair of bytes, or the byte that is left over behind pairs, may lack a text. -/
theorem FontTables.mem_unmapped_font {t : FontTables α} {bytes : List UInt8} {code : UInt32}
    : code ∈ t.font.unmapped bytes ↔
        t.isTwoByte = true ∧
          ∃ raw ∈ splitCodes true bytes, codeOfBytes raw = code ∧ t.texts.lookup code = none := by
  unfold Font.unmapped font
  dsimp only
  rw [List.mem_filter, List.mem_map]
  cases htwo : t.isTwoByte with
  | false => simp [isMapped, htwo]
  | true =>
    simp only [isMapped, htwo, Bool.not_true, Bool.false_or, Bool.not_eq_true',
      Option.isSome_eq_false_iff, Option.isNone_iff_eq_none, true_and]
    constructor
    . rintro ⟨⟨raw, hraw, hcode⟩, hnone⟩
      exact ⟨raw, hraw, hcode, hnone⟩
    . rintro ⟨raw, hraw, hcode, hnone⟩
      exact ⟨⟨raw, hraw, hcode⟩, hnone⟩

end Tables

namespace Content

variable {α : Type} [Scalar α]

namespace RunState

/-!
Guessed codes, string by string.
-/

section

omit [Scalar α]

/-- Of these codes of the current font the one that is reported, if there is one. -/
def untold? (s : RunState α) (codes : List UInt32) : Option UInt32 :=
  if s.text.fontName ∈ s.guessed then none else codes.head?

/-- An outcome that reports the first of these codes unless the font has been reported. -/
structure Tells (index : Nat) (s : RunState α) (codes : List UInt32)
    (outcome : RunState α × List (Event α)) : Prop where
  guessed : outcome.1.guessed =
    ((s.untold? codes).map fun _ => s.text.fontName).toList ++ s.guessed
  warnings : warningsIn .encodingFallback outcome.2 =
    ((s.untold? codes).map (Warning.encodingFallback index s.text.fontName)).toList

theorem untold?_append (s : RunState α) (codes more : List UInt32)
    : s.untold? (codes ++ more) = (s.untold? codes).or (s.untold? more) := by
  unfold untold?
  split
  . rfl
  . apply List.head?_append

theorem untold?_congr {s t : RunState α} (hname : t.text.fontName = s.text.fontName)
    (hguessed : t.guessed = s.guessed) (codes : List UInt32)
    : t.untold? codes = s.untold? codes := by
  unfold untold?
  rw [hname, hguessed]

variable {index : Nat} {s t u : RunState α} {codes more : List UInt32}
variable {events later : List (Event α)}

theorem Tells.silent (hs : t.guessed = s.guessed)
    (hevents : warningsIn .encodingFallback events = []) : Tells index s [] (t, events) := by
  have hnone : s.untold? [] = none := by simp [untold?]
  constructor
  . rw [hnone]
    exact hs
  . rw [hnone]
    exact hevents

theorem Tells.append (hs : Tells index s codes (t, events))
    (hname : t.text.fontName = s.text.fontName) (ht : Tells index t more (u, later))
    : Tells index s (codes ++ more) (u, events ++ later) := by
  obtain ⟨hguessed, hwarnings⟩ := hs
  obtain ⟨hlater, hmore⟩ := ht
  dsimp only at hguessed hwarnings hlater hmore
  rw [hname] at hlater hmore
  cases hcodes : s.untold? codes with
  | none =>
    rw [hcodes] at hguessed hwarnings
    rw [untold?_congr hname hguessed] at hlater hmore
    constructor
    . rw [untold?_append, hcodes, Option.none_or, hlater, hguessed]
      rfl
    . rw [untold?_append, hcodes, Option.none_or, warningsIn_append, hwarnings, hmore]
      rfl
  | some code =>
    -- behind the first report of a font there is no other
    rw [hcodes] at hguessed hwarnings
    have hnone : t.untold? more = none := by
      unfold untold?
      rw [hguessed, hname]
      simp
    rw [hnone] at hlater hmore
    constructor
    . rw [untold?_append, hcodes, Option.some_or, hlater, hguessed]
      rfl
    . rw [untold?_append, hcodes, Option.some_or, warningsIn_append, hwarnings, hmore]
      rfl

theorem Tells.congr (h : Tells index s codes (t, events))
    (hname : u.text.fontName = s.text.fontName) (hguessed : u.guessed = s.guessed)
    : Tells index u codes (t, events) := by
  obtain ⟨hs, hwarnings⟩ := h
  constructor
  . rw [untold?_congr hname hguessed, hname, hguessed]
    exact hs
  . rw [untold?_congr hname hguessed, hname]
    exact hwarnings

end

section Strings

variable (setting : Setting α) (index : Nat) (s : RunState α)

omit [Scalar α] in
theorem tells_reportGuess (font : Font α) (code : UInt32)
    : Tells index s ([code].filter fun code => !font.isMapped code)
        (s.reportGuess font index code) := by
  unfold reportGuess
  dsimp only
  cases hmapped : font.isMapped code with
  | true =>
    rw [Bool.true_or, if_pos rfl, List.filter_singleton, hmapped]
    exact .silent rfl rfl
  | false =>
    rw [Bool.false_or, List.filter_singleton, hmapped]
    split
    . next h =>
      rw [List.contains_iff_mem] at h
      constructor <;> simp [untold?, h]
    . next h =>
      rw [List.contains_iff_mem] at h
      constructor <;> simp [untold?, h, Warning.encodingFallback]

theorem tells_showCode (font : Font α) (bytes : List UInt8)
    : Tells index s ([codeOfBytes bytes].filter fun code => !font.isMapped code)
        (s.showCode setting font index bytes) := by
  have hguess := tells_reportGuess index s font (codeOfBytes bytes)
  constructor
  . exact hguess.guessed
  . unfold showCode
    dsimp only
    rw [warningsIn_append, warningsIn_map_glyph, List.append_nil]
    exact hguess.warnings

theorem tells_showCodes (font : Font α) (codes : List (List UInt8))
    : Tells index s ((codes.map codeOfBytes).filter fun code => !font.isMapped code)
        (s.showCodes setting font index codes) := by
  induction codes generalizing s with
  | nil => exact .silent rfl rfl
  | cons bytes rest ih =>
    have hfirst := tells_showCode setting index s font bytes
    have hrest := hfirst.append (fontName_showCode setting index s font bytes) (ih _)
    rw [← List.filter_append] at hrest
    exact hrest

theorem tells_showString (bytes : List UInt8)
    : Tells index s ((s.currentFont setting).unmapped bytes)
        (s.showString setting index bytes) := by
  have hfont : Tells index s [] (s.resolveFont setting index).2 := by
    apply Tells.silent (guessed_resolveFont setting index)
    apply warningsIn_resolveFont
    decide
  have hcodes := tells_showCodes setting index (s.resolveFont setting index).2.1
    (s.currentFont setting) (splitCodes (s.currentFont setting).isTwoByte bytes)
  have hname : (s.resolveFont setting index).2.1.text.fontName = s.text.fontName := by
    rw [text_resolveFont]
  have h := hfont.append hname hcodes
  rw [← fst_resolveFont setting index] at h ⊢
  exact h

omit [Scalar α] in
theorem currentFont_congr {t : RunState α} (h : t.text.fontName = s.text.fontName)
    : t.currentFont setting = s.currentFont setting := by
  unfold currentFont
  rw [h]

theorem tells_showItems (items : List (TextItem α))
    : Tells index s
        ((items.filterMap TextItem.bytes?).flatMap (s.currentFont setting).unmapped)
        (s.showItems setting index items) := by
  induction items generalizing s with
  | nil => exact .silent rfl rfl
  | cons item rest ih =>
    cases item with
    | adjust amount =>
      have hname := fontName_adjust setting s amount
      have hrest := ih (s.adjust setting amount)
      rw [currentFont_congr setting s hname] at hrest
      exact hrest.congr hname.symm (guessed_adjust setting amount).symm
    | text bytes =>
      have hname := fontName_showString setting index s bytes
      have hrest := ih (s.showString setting index bytes).1
      rw [currentFont_congr setting s hname] at hrest
      exact (tells_showString setting index s bytes).append hname hrest

theorem tells_execute (command : Command α)
    : Tells index s (command.strings.flatMap (s.currentFont setting).unmapped)
        (s.execute setting index command) := by
  cases command with
  | showText bytes =>
    rw [Command.strings, List.flatMap_singleton]
    apply tells_showString
  | showTextArray items => apply tells_showItems
  | nextLineShowText bytes =>
    rw [Command.strings, List.flatMap_singleton]
    have h := tells_showString setting index (s.withText s.text.nextLine) bytes
    exact h.congr rfl rfl
  | nextLineShowSpaced wordSpacing charSpacing bytes =>
    rw [Command.strings, List.flatMap_singleton]
    have h := tells_showString setting index (s.withText
      { s.text with wordSpacing := wordSpacing, charSpacing := charSpacing }.nextLine) bytes
    exact h.congr rfl rfl
  | restore =>
    unfold execute GraphicsState.restore?
    dsimp only
    cases s.graphics.saved with
    | nil => exact .silent rfl rfl
    | cons latest rest => exact .silent rfl rfl
  | _ => exact .silent rfl rfl

end Strings

/-!
Guessed codes, operator by operator.
-/

section Runs

variable (setting : Setting α) (s : RunState α) (ops : List (Operator α))

/-- The first code that operator number `i` guesses, with the name of its font. -/
def guessAt? (i : Nat) : Option (String × UInt32) :=
  let t := s.stateAt setting 0 ops i
  ops[i]?.bind fun op =>
    ((Command.ofOperator op).strings.flatMap (t.currentFont setting).unmapped).head?.map
      (t.text.fontName, ·)

/-- The reports of a run up to an operator are those of the fonts that are guessed before it. -/
structure Told (n : Nat) : Prop where
  guessed : ∀ name, name ∈ (s.stateAt setting 0 ops n).guessed ↔
    NamedBefore (s.guessAt? setting ops) n name
  warnings : warningsIn .encodingFallback (s.run setting 0 (ops.take n)).2 =
    (firstOfEach (s.guessAt? setting ops) n).map fun u => .encodingFallback u.1 u.2.1 u.2.2

variable {setting s ops}

theorem Told.zero (h : s.guessed = []) : Told setting s ops 0 where
  guessed name := by simp [stateAt, run, h, NamedBefore]
  warnings := by simp [run, firstOfEach]

/-- What an operator reports is the entry that is the first of its name. -/
theorem Told.firstNamed? {n : Nat} (h : Told setting s ops n) {codes : List UInt32}
    (hguess : s.guessAt? setting ops n =
      codes.head?.map ((s.stateAt setting 0 ops n).text.fontName, ·))
    : Galley.firstNamed? (s.guessAt? setting ops) n =
        ((s.stateAt setting 0 ops n).untold? codes).map
          (n, (s.stateAt setting 0 ops n).text.fontName, ·) := by
  unfold Galley.firstNamed? untold?
  rw [hguess]
  cases codes.head? with
  | none => simp
  | some code =>
    rw [Option.map_some, Option.bind_some]
    dsimp only
    by_cases hseen : (s.stateAt setting 0 ops n).text.fontName ∈
        (s.stateAt setting 0 ops n).guessed
    . rw [if_pos hseen, if_pos ((h.guessed _).mp hseen)]
      rfl
    . rw [if_neg hseen, if_neg (mt (h.guessed _).mpr hseen)]
      rfl

theorem Told.mem_guessed {n : Nat} (h : Told setting s ops n) {codes : List UInt32}
    (hguess : s.guessAt? setting ops n =
      codes.head?.map ((s.stateAt setting 0 ops n).text.fontName, ·)) (name : String)
    : name ∈ (((s.stateAt setting 0 ops n).untold? codes).map fun _ =>
          (s.stateAt setting 0 ops n).text.fontName).toList ++
            (s.stateAt setting 0 ops n).guessed ↔
        NamedBefore (s.guessAt? setting ops) (n + 1) name := by
  rw [List.mem_append, h.guessed, namedBefore_succ, or_comm, hguess]
  unfold untold?
  by_cases hseen : (s.stateAt setting 0 ops n).text.fontName ∈
      (s.stateAt setting 0 ops n).guessed
  . rw [if_pos hseen]
    constructor
    . rintro (hname | hname)
      . exact .inl hname
      . simp at hname
    . rintro (hname | ⟨code, hcode⟩)
      . exact .inl hname
      . obtain ⟨_, _, hpair⟩ := Option.map_eq_some_iff.mp hcode
        rw [← (Prod.mk.inj hpair).1]
        exact .inl ((h.guessed _).mp hseen)
  . rw [if_neg hseen]
    cases codes.head? with
    | none => simp
    | some code => simp [eq_comm]

theorem Told.succ {n : Nat} (h : Told setting s ops n) (hn : n < ops.length)
    : Told setting s ops (n + 1) := by
  have hop := List.getElem?_eq_getElem hn
  have htake : 0 + (ops.take n).length = n := by
    rw [List.length_take]
    omega
  have hsucc := stateAt_succ setting 0 s hop
  have hrun := run_append setting 0 s (ops.take n) [ops[n]]
  rw [htake] at hsucc hrun
  have htells := tells_execute setting n (s.stateAt setting 0 ops n) (.ofOperator ops[n])
  have hguess : s.guessAt? setting ops n =
      ((Command.ofOperator ops[n]).strings.flatMap
        ((s.stateAt setting 0 ops n).currentFont setting).unmapped).head?.map
          ((s.stateAt setting 0 ops n).text.fontName, ·) := by
    unfold guessAt?
    rw [hop]
    rfl
  constructor
  . intro name
    rw [hsucc, htells.guessed]
    exact h.mem_guessed hguess name
  . have hwarnings := htells.warnings
    rw [List.take_add_one, hop, Option.toList_some, hrun, warningsIn_append, h.warnings,
      firstOfEach_succ, List.map_append, h.firstNamed? hguess]
    simp only [run, List.append_nil]
    congr 1
    apply hwarnings.trans
    cases (s.stateAt setting 0 ops n).untold? _ <;> rfl

variable (setting) in
theorem told (h : s.guessed = []) (ops : List (Operator α)) {n : Nat} (hn : n ≤ ops.length)
    : Told setting s ops n := by
  induction n with
  | zero => exact .zero h
  | succ n ih => exact (ih (by omega)).succ hn

end Runs
end RunState

section Tables

variable (tables : List (String × FontTables α)) (ops : List (Operator α))

omit [Scalar α] in
/--
Operator number `i` shows, in the font of this name, a string with a code of so many bytes that a
two-byte font has no text for.
-/
def ShowsGuess (size i : Nat) (name : String) : Prop :=
  ∃ op ∈ ops[i]?, fontNameAt ops i = name ∧
    ∃ t ∈ tables.lookup name, t.isTwoByte = true ∧
      ∃ bytes ∈ op.strings, ∃ raw ∈ splitCodes true bytes,
        raw.length = size ∧ t.texts.lookup (codeOfBytes raw) = none

variable {tables ops} {form : Normalization} {sheet : Sheet α}

omit [Scalar α] in
theorem mem_unmapped_currentFont {s : RunState α} {bytes : List UInt8} {code : UInt32}
    : code ∈ (s.currentFont ⟨.ofTables tables, form⟩).unmapped bytes ↔
        ∃ t ∈ tables.lookup s.text.fontName, t.isTwoByte = true ∧
          ∃ raw ∈ splitCodes true bytes,
            codeOfBytes raw = code ∧ t.texts.lookup code = none := by
  unfold RunState.currentFont
  dsimp only
  rw [FontBook.get?_ofTables]
  cases tables.lookup s.text.fontName with
  | none => simp [Font.unmapped_substitute]
  | some t => simp [FontTables.mem_unmapped_font]

theorem exists_guessAt?_of_showsGuess {size i : Nat} {name : String}
    (h : ShowsGuess tables ops size i name)
    : ∃ code,
        (RunState.initial sheet).guessAt? ⟨.ofTables tables, form⟩ ops i = some (name, code) := by
  obtain ⟨op, hop, hname, t, ht, htwo, bytes, hbytes, raw, hraw, _, hnone⟩ := h
  rw [← RunState.fontName_stateAt ⟨.ofTables tables, form⟩ sheet] at hname
  subst hname
  rw [← op.strings_ofOperator] at hbytes
  have hcode : codeOfBytes raw ∈
      (((RunState.initial sheet).stateAt ⟨.ofTables tables, form⟩ 0 ops i).currentFont
        ⟨.ofTables tables, form⟩).unmapped bytes :=
    mem_unmapped_currentFont.mpr ⟨t, ht, htwo, raw, hraw, rfl, hnone⟩
  obtain ⟨code, rest, hcodes⟩ := List.exists_cons_of_ne_nil
    (List.ne_nil_of_mem (List.mem_flatMap.mpr ⟨bytes, hbytes, hcode⟩))
  refine ⟨code, ?_⟩
  unfold RunState.guessAt?
  rw [Option.mem_def.mp hop, Option.bind_some, hcodes]
  rfl

theorem exists_guessAt?_iff {i : Nat} {name : String}
    : (∃ code,
          (RunState.initial sheet).guessAt? ⟨.ofTables tables, form⟩ ops i = some (name, code)) ↔
        ShowsGuess tables ops 2 i name ∨ ShowsGuess tables ops 1 i name := by
  constructor
  . rintro ⟨code, h⟩
    obtain ⟨op, hop, hentry⟩ := Option.bind_eq_some_iff.mp h
    obtain ⟨_, hhead, hpair⟩ := Option.map_eq_some_iff.mp hentry
    obtain ⟨hname, rfl⟩ := Prod.mk.inj hpair
    obtain ⟨bytes, hbytes, hcode⟩ := List.mem_flatMap.mp (List.mem_of_head? hhead)
    obtain ⟨t, ht, htwo, raw, hraw, rfl, hnone⟩ := mem_unmapped_currentFont.mp hcode
    rw [hname] at ht
    rw [RunState.fontName_stateAt] at hname
    rw [op.strings_ofOperator] at hbytes
    apply (length_of_mem_splitCodes hraw).imp
    . intro hsize
      exact ⟨op, hop, hname, t, ht, htwo, bytes, hbytes, raw, hraw, hsize, hnone⟩
    . intro hsize
      exact ⟨op, hop, hname, t, ht, htwo, bytes, hbytes, raw, hraw, hsize, hnone⟩
  . rintro (h | h)
    . exact exists_guessAt?_of_showsGuess h
    . exact exists_guessAt?_of_showsGuess h

omit [Scalar α] in
theorem ShowsGuess.lt_length {size i : Nat} {name : String}
    (h : ShowsGuess tables ops size i name) : i < ops.length := by
  obtain ⟨op, hop, _⟩ := h
  exact (List.getElem?_eq_some_iff.mp hop).1

/-- A name is reported with the operator that shows the first guessed code in its font. -/
theorem exists_mem_firstOfEach_iff {i : Nat} {name : String}
    : (∃ code, (i, name, code) ∈
          firstOfEach ((RunState.initial sheet).guessAt? ⟨.ofTables tables, form⟩ ops)
            ops.length) ↔
        IsLeast {j | ShowsGuess tables ops 2 j name ∨ ShowsGuess tables ops 1 j name} i := by
  have hnamed
      : NamedBefore ((RunState.initial sheet).guessAt? ⟨.ofTables tables, form⟩ ops) i name ↔
        ∃ j < i, ShowsGuess tables ops 2 j name ∨ ShowsGuess tables ops 1 j name := by
    simp only [NamedBefore, exists_guessAt?_iff]
  constructor
  . rintro ⟨code, h⟩
    obtain ⟨_, hentry, hnew⟩ := mem_firstOfEach.mp h
    refine ⟨exists_guessAt?_iff.mp ⟨code, hentry⟩, ?_⟩
    intro j hj
    by_contra hlt
    exact hnew (hnamed.mpr ⟨j, by omega, hj⟩)
  . rintro ⟨hi, hleast⟩
    obtain ⟨code, hentry⟩ := exists_guessAt?_iff.mpr hi
    refine ⟨code, mem_firstOfEach.mpr ⟨hi.elim (·.lt_length) (·.lt_length), hentry, ?_⟩⟩
    intro hbefore
    obtain ⟨j, hlt, hj⟩ := hnamed.mp hbefore
    have hle := hleast hj
    omega

end Tables

theorem events_report_guesses (tables : List (String × FontTables α)) (form : Normalization)
    (sheet : Sheet α) (ops : List (Operator α))
    : let guesses := ShowsGuess tables ops
      ∃ uses : List (Nat × String × UInt32),
        warningsIn .encodingFallback (events ⟨.ofTables tables, form⟩ sheet ops) =
            uses.map (fun u =>
              { Warning.encodingFallback u.1 u.2.1 u.2.2 with
                operatorIndex := some u.1, font := some u.2.1 }) ∧
          uses.Pairwise (fun u v => u.1 < v.1) ∧
          (∀ i name, (∃ code, (i, name, code) ∈ uses) ↔
            IsLeast {j | guesses 2 j name ∨ guesses 1 j name} i) ∧
          ((∀ j name, guesses 1 j name → guesses 2 j name) →
            ∀ i name, (∃ code, (i, name, code) ∈ uses) ↔ IsLeast {j | guesses 2 j name} i) := by
  intro guesses
  have h := RunState.told ⟨.ofTables tables, form⟩ (s := .initial sheet) rfl ops (Nat.le_refl _)
  have hwarnings := h.warnings
  rw [List.take_length] at hwarnings
  refine ⟨_, hwarnings, pairwise_firstOfEach, fun i name => exists_mem_firstOfEach_iff, ?_⟩
  intro hpairs i name
  have hsame : {j | guesses 2 j name ∨ guesses 1 j name} = {j | guesses 2 j name} := by
    ext j
    exact or_iff_left_of_imp (hpairs j name)
  rw [← hsame]
  exact exists_mem_firstOfEach_iff

/-- A two-byte font without texts. -/
def textless : FontTables Float where
  name := "Textless"
  isTwoByte := true

/-- A string of one byte, shown in the font `F1`. -/
def loneByte : List (Operator Float) :=
  [⟨"Tf", [.name "F1", .int 12]⟩, ⟨"Tj", [.hex [0x41]]⟩]

theorem guesses_report_loneByte
    : warningsIn .encodingFallback
          (events ⟨.ofTables [("F1", textless)], .none⟩ (.letter : Sheet Float) loneByte) =
        [.encodingFallback 1 "F1" 0x41] ∧
      ∀ i name, ¬ShowsGuess [("F1", textless)] loneByte 2 i name := by
  constructor
  . decide +kernel
  . rintro i name ⟨op, hop, _, t, _, _, bytes, hbytes, raw, hraw, hsize, _⟩
    match i with
    | 0 =>
      cases hop
      contradiction
    | 1 =>
      cases hop
      cases List.mem_singleton.mp hbytes
      cases List.mem_singleton.mp hraw
      contradiction

end Content
end Galley
