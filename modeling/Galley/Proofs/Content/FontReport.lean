import Mathlib.Data.List.Induction
import Mathlib.Data.List.Nodup
import Mathlib.Tactic.Tauto
import Galley.Proofs.Content.Showing

/-!
This module contains the reports about fonts: a font that is missing is reported with the first
string that is shown in it, and each font is reported once at most, whichever way its name comes to
be the current one.
-/

namespace Galley

theorem FontBook.get?_eq_none_iff {α : Type} {book : FontBook α} {name : String}
    : book.get? name = none ↔ name ∉ book.entries.map Prod.fst := by
  unfold get?
  rw [List.lookup_eq_none_iff, List.mem_map, not_exists]
  apply forall_congr'
  intro entry
  rw [bne_iff_ne, not_and, ne_comm]

namespace Content

variable {α : Type} [Scalar α]

namespace RunState

/-!
Missing fonts, string by string.
-/

section

omit [Scalar α]

/-- The name that is reported as missing when a string is shown, if there is one. -/
def unreported? (setting : Setting α) (s : RunState α) : Option String :=
  if setting.fonts.get? s.text.fontName = none ∧ s.text.fontName ∉ s.missing then
    some s.text.fontName
  else none

theorem unreported?_eq_some_iff {setting : Setting α} {s : RunState α} {name : String}
    : s.unreported? setting = some name ↔
        s.text.fontName = name ∧ setting.fonts.get? name = none ∧ name ∉ s.missing := by
  unfold unreported?
  rw [Option.ite_none_right_eq_some, Option.some_inj]
  constructor
  . rintro ⟨h, rfl⟩
    exact ⟨rfl, h⟩
  . rintro ⟨rfl, h⟩
    exact ⟨h, rfl⟩

/-- An outcome that reports at most this name as missing, and will not report it again. -/
structure Notes (index : Nat) (s : RunState α) (name? : Option String)
    (outcome : RunState α × List (Event α)) : Prop where
  missing : outcome.1.missing = name?.toList ++ s.missing
  warnings : warningsIn .missingFont outcome.2 = (name?.map (Warning.missingFont index)).toList

theorem Notes.andThen {index : Nat} {s t u : RunState α} {name? : Option String}
    {events later : List (Event α)} (hs : Notes index s name? (t, events))
    (ht : Notes index t none (u, later)) : Notes index s name? (u, events ++ later) where
  missing := ht.missing.trans hs.missing
  warnings := by
    rw [warningsIn_append, hs.warnings, ht.warnings]
    apply List.append_nil

end

section Strings

variable (setting : Setting α) (index : Nat) {s : RunState α}

omit [Scalar α] in
theorem notes_resolveFont
    : Notes index s (s.unreported? setting) (s.resolveFont setting index).2 := by
  unfold resolveFont
  dsimp only
  split
  . next font hfont =>
    have hnone : s.unreported? setting = none := by simp [unreported?, hfont]
    rw [hnone]
    exact ⟨rfl, rfl⟩
  . next hfont =>
    split
    . next hmissing =>
      have hnone : s.unreported? setting = none := by simpa [unreported?, hfont] using hmissing
      rw [hnone]
      exact ⟨rfl, rfl⟩
    . next hmissing =>
      have hsome : s.unreported? setting = some s.text.fontName := by
        simpa [unreported?, hfont] using hmissing
      rw [hsome]
      exact ⟨rfl, rfl⟩

omit [Scalar α] in
theorem missing_reportGuess (font : Font α) (code : UInt32)
    : (s.reportGuess font index code).1.missing = s.missing := by
  unfold reportGuess
  dsimp only
  split <;> rfl

theorem missing_showCodes (font : Font α) (codes : List (List UInt8))
    : (s.showCodes setting font index codes).1.missing = s.missing := by
  induction codes generalizing s with
  | nil => rfl
  | cons bytes rest ih =>
    simp only [showCodes, showCode]
    rw [ih]
    apply missing_reportGuess

theorem notes_showString (bytes : List UInt8)
    : Notes index s (s.unreported? setting) (s.showString setting index bytes) := by
  unfold showString
  dsimp only
  apply (notes_resolveFont setting index).andThen
  constructor
  . apply missing_showCodes
  . apply warningsIn_showCodes
    decide

theorem unreported?_showString (bytes : List UInt8)
    : (s.showString setting index bytes).1.unreported? setting = none := by
  rw [Option.eq_none_iff_forall_ne_some]
  intro name h
  rw [unreported?_eq_some_iff, fontName_showString, (notes_showString setting index bytes).missing,
    List.mem_append, Option.mem_toList, unreported?_eq_some_iff, not_or] at h
  obtain ⟨hname, hfont, hnew, hmissing⟩ := h
  exact hnew ⟨hname, hfont, hmissing⟩

theorem unreported?_adjust (amount : α)
    : (s.adjust setting amount).unreported? setting = s.unreported? setting ∧
        (s.adjust setting amount).missing = s.missing := by
  unfold adjust
  dsimp only
  split
  . exact ⟨rfl, rfl⟩
  . exact ⟨rfl, rfl⟩

theorem notes_showItems (items : List (TextItem α))
    : Notes index s
        (if items.filterMap TextItem.bytes? = [] then none else s.unreported? setting)
        (s.showItems setting index items) := by
  induction items generalizing s with
  | nil => exact ⟨rfl, rfl⟩
  | cons item rest ih =>
    cases item with
    | adjust amount =>
      have hadjust := unreported?_adjust setting (s := s) amount
      have hrest := ih (s := s.adjust setting amount)
      rw [hadjust.1] at hrest
      constructor
      . rw [← hadjust.2]
        exact hrest.missing
      . exact hrest.warnings
    | text bytes =>
      -- behind the first string the font has been reported if need be
      have hrest := ih (s := (s.showString setting index bytes).1)
      rw [unreported?_showString, ite_self] at hrest
      exact (notes_showString setting index bytes).andThen hrest

theorem notes_execute (command : Command α)
    : Notes index s (if command.strings = [] then none else s.unreported? setting)
        (s.execute setting index command) := by
  cases command with
  | showText bytes => apply notes_showString
  | showTextArray items => apply notes_showItems
  | nextLineShowText bytes =>
    have h := notes_showString setting index
      (s := s.withText s.text.nextLine) bytes
    exact ⟨h.missing, h.warnings⟩
  | nextLineShowSpaced wordSpacing charSpacing bytes =>
    have h := notes_showString setting index
      (s := s.withText
        { s.text with wordSpacing := wordSpacing, charSpacing := charSpacing }.nextLine) bytes
    exact ⟨h.missing, h.warnings⟩
  | restore =>
    unfold execute GraphicsState.restore?
    dsimp only
    cases s.graphics.saved with
    | nil => exact ⟨rfl, rfl⟩
    | cons latest rest => exact ⟨rfl, rfl⟩
  | _ => exact ⟨rfl, rfl⟩

end Strings

/-!
Missing fonts, operator by operator.
-/

section Uses

omit [Scalar α]

variable (ops : List (Operator α)) (i : Nat) (name : String)

/-- Operator number `i` shows a string, be it without a byte, in the font of this name. -/
def UsesFont : Prop := ∃ op ∈ ops[i]?, op.strings ≠ [] ∧ fontNameAt ops i = name

/-- Operator number `i` is the first that shows a string in this font. -/
def FirstUse : Prop := UsesFont ops i name ∧ ∀ j < i, ¬UsesFont ops j name

variable {ops i name}

theorem UsesFont.lt_length (h : UsesFont ops i name) : i < ops.length := by
  obtain ⟨op, hop, _⟩ := h
  exact (List.getElem?_eq_some_iff.mp hop).1

theorem FirstUse.unique {j : Nat} (hi : FirstUse ops i name) (hj : FirstUse ops j name)
    : i = j := by
  have hle := mt (hi.2 j) (not_not_intro hj.1)
  have hge := mt (hj.2 i) (not_not_intro hi.1)
  omega

section Concat

variable {op : Operator α}

theorem usesFont_concat_of_lt (h : i < ops.length)
    : UsesFont (ops ++ [op]) i name ↔ UsesFont ops i name := by
  unfold UsesFont fontNameAt
  rw [List.getElem?_append_left h, List.take_append_of_le_length (Nat.le_of_lt h)]

theorem usesFont_concat_length
    : UsesFont (ops ++ [op]) ops.length name ↔
        op.strings ≠ [] ∧ fontNameAt ops ops.length = name := by
  unfold UsesFont fontNameAt
  rw [List.getElem?_concat_length, List.take_left, List.take_length]
  simp

theorem exists_usesFont_concat
    : (∃ j, UsesFont (ops ++ [op]) j name) ↔
        (∃ j, UsesFont ops j name) ∨ UsesFont (ops ++ [op]) ops.length name := by
  constructor
  . rintro ⟨j, hj⟩
    have hlt := hj.lt_length
    rw [List.length_append, List.length_singleton] at hlt
    by_cases hlast : j = ops.length
    . rw [hlast] at hj
      exact .inr hj
    . exact .inl ⟨j, (usesFont_concat_of_lt (by omega)).mp hj⟩
  . rintro (⟨j, hj⟩ | hlast)
    . exact ⟨j, (usesFont_concat_of_lt hj.lt_length).mpr hj⟩
    . exact ⟨_, hlast⟩

theorem firstUse_concat_of_lt (h : i < ops.length)
    : FirstUse (ops ++ [op]) i name ↔ FirstUse ops i name := by
  unfold FirstUse
  rw [usesFont_concat_of_lt h]
  apply and_congr_right
  intro _
  apply forall₂_congr
  intro j hj
  rw [usesFont_concat_of_lt (Nat.lt_trans hj h)]

theorem firstUse_concat_length
    : FirstUse (ops ++ [op]) ops.length name ↔
        UsesFont (ops ++ [op]) ops.length name ∧ ¬∃ j, UsesFont ops j name := by
  unfold FirstUse
  apply and_congr_right
  intro _
  rw [not_exists]
  constructor
  . intro hbefore j hj
    apply hbefore j hj.lt_length
    exact (usesFont_concat_of_lt hj.lt_length).mpr hj
  . intro hnone j hlt
    rw [usesFont_concat_of_lt hlt]
    exact hnone j

end Concat

end Uses

section Runs

variable {setting : Setting α} {sheet : Sheet α} {ops : List (Operator α)}

theorem run_concat {s : RunState α} (index : Nat) (op : Operator α)
    : s.run setting index (ops ++ [op]) =
        (((s.run setting index ops).1.execute setting (index + ops.length) (.ofOperator op)).1,
          (s.run setting index ops).2 ++
            ((s.run setting index ops).1.execute setting (index + ops.length)
              (.ofOperator op)).2) := by
  rw [run_append]
  simp only [run, List.append_nil]

variable (setting sheet ops) in
/-- These are the first uses of missing fonts, in order, and a run reports them. -/
structure Reported (uses : List (Nat × String)) : Prop where
  warnings : warningsIn .missingFont ((initial sheet).run setting 0 ops).2 =
    uses.map fun u => .missingFont u.1 u.2
  missing : ∀ name, name ∈ ((initial sheet).run setting 0 ops).1.missing ↔
    setting.fonts.get? name = none ∧ ∃ i, UsesFont ops i name
  increasing : uses.Pairwise fun u v => u.1 < v.1
  mem_iff : ∀ i name, (i, name) ∈ uses ↔
    setting.fonts.get? name = none ∧ FirstUse ops i name

theorem Reported.nil : Reported setting sheet [] [] where
  warnings := by rfl
  missing := by
    intro name
    simp [run, initial, UsesFont]
  increasing := .nil
  mem_iff := by
    intro i name
    simp [FirstUse, UsesFont]

theorem Reported.lt_length {uses : List (Nat × String)} (h : Reported setting sheet ops uses)
    {u : Nat × String} (hu : u ∈ uses) : u.1 < ops.length :=
  ((h.mem_iff u.1 u.2).mp hu).2.1.lt_length

theorem Reported.nodup {uses : List (Nat × String)} (h : Reported setting sheet ops uses)
    : (uses.map Prod.snd).Nodup := by
  unfold List.Nodup
  rw [List.pairwise_map]
  apply h.increasing.imp_of_mem
  intro u v hu hv hlt hname
  have hfirst := ((h.mem_iff u.1 u.2).mp hu).2
  rw [hname] at hfirst
  exact absurd (hfirst.unique ((h.mem_iff v.1 v.2).mp hv).2) (Nat.ne_of_lt hlt)

theorem Reported.concat {uses : List (Nat × String)} (h : Reported setting sheet ops uses)
    (op : Operator α)
    : ∃ name? : Option String,
        Reported setting sheet (ops ++ [op])
          (uses ++ (name?.map fun name => (ops.length, name)).toList) := by
  have hnotes := notes_execute setting ops.length (s := ((initial sheet).run setting 0 ops).1)
    (Command.ofOperator op)
  have hcurrent := fontName_stateAt setting sheet ops ops.length
  rw [stateAt, List.take_length] at hcurrent
  rw [op.strings_ofOperator] at hnotes
  generalize hname? : (if op.strings = [] then none else
    ((initial sheet).run setting 0 ops).1.unreported? setting) = name? at hnotes
  -- what the operator reports is what it uses first
  have hnew : ∀ name, name? = some name ↔ setting.fonts.get? name = none ∧
      FirstUse (ops ++ [op]) ops.length name := by
    intro name
    rw [← hname?, firstUse_concat_length, usesFont_concat_length, Option.ite_none_left_eq_some,
      unreported?_eq_some_iff, h.missing, hcurrent]
    tauto
  refine ⟨name?, ?_, ?_, ?_, ?_⟩
  . rw [run_concat, Nat.zero_add, warningsIn_append, h.warnings, hnotes.warnings, List.map_append]
    cases name? <;> rfl
  . intro name
    rw [run_concat, Nat.zero_add, hnotes.missing, List.mem_append, Option.mem_toList, hnew,
      h.missing, exists_usesFont_concat, firstUse_concat_length]
    tauto
  . rw [List.pairwise_append]
    refine ⟨h.increasing, ?_, ?_⟩
    . cases name? <;> simp
    . intro u hu v hv
      obtain ⟨name, _, rfl⟩ := Option.map_eq_some_iff.mp (Option.mem_toList.mp hv)
      exact h.lt_length hu
  . intro i name
    rw [List.mem_append, h.mem_iff, Option.mem_toList, Option.map_eq_some_iff]
    simp only [Prod.mk.injEq]
    constructor
    . rintro (⟨hfont, hfirst⟩ | ⟨_, hname, rfl, rfl⟩)
      . exact ⟨hfont, (firstUse_concat_of_lt hfirst.1.lt_length).mpr hfirst⟩
      . exact (hnew _).mp hname
    . rintro ⟨hfont, hfirst⟩
      have hlt := hfirst.1.lt_length
      rw [List.length_append, List.length_singleton] at hlt
      by_cases hlast : i = ops.length
      . rw [hlast] at hfirst
        exact .inr ⟨name, (hnew name).mpr ⟨hfont, hfirst⟩, hlast.symm, rfl⟩
      . exact .inl ⟨hfont, (firstUse_concat_of_lt (by omega)).mp hfirst⟩

variable (setting sheet) in
theorem exists_reported (ops : List (Operator α)) : ∃ uses, Reported setting sheet ops uses := by
  induction ops using List.reverseRecOn with
  | nil => exact ⟨_, .nil⟩
  | append_singleton ops op ih =>
    obtain ⟨uses, huses⟩ := ih
    obtain ⟨name?, hname⟩ := huses.concat op
    exact ⟨_, hname⟩

end Runs

/-!
Guessed codes.
-/

section Guessing

/-- The fonts with a guessed code that are reported, in order. -/
def guessedIn (events : List (Event α)) : List (Option String) :=
  (warningsIn .encodingFallback events).map Warning.font

omit [Scalar α] in
/-- An outcome that reports each font whose guessed codes it comes to know of. -/
structure GuessesOnce (s : RunState α) (outcome : RunState α × List (Event α)) : Prop where
  guessed : outcome.1.guessed.reverse.map some = s.guessed.reverse.map some ++ guessedIn outcome.2
  nodup : s.guessed.Nodup → outcome.1.guessed.Nodup

variable (setting : Setting α) (index : Nat) {s : RunState α}

omit [Scalar α] in
theorem GuessesOnce.silent {t : RunState α} {events : List (Event α)} (hs : t.guessed = s.guessed)
    (hevents : warningsIn .encodingFallback events = []) : GuessesOnce s (t, events) where
  guessed := by simp [guessedIn, hevents, hs]
  nodup := by simp [hs]

omit [Scalar α] in
theorem GuessesOnce.append {t u : RunState α} {events later : List (Event α)}
    (hs : GuessesOnce s (t, events)) (ht : GuessesOnce t (u, later))
    : GuessesOnce s (u, events ++ later) where
  guessed := by
    have hguessed := ht.guessed
    rw [hs.guessed] at hguessed
    simpa [guessedIn] using hguessed
  nodup h := ht.nodup (hs.nodup h)

omit [Scalar α] in
theorem guessesOnce_reportGuess (font : Font α) (code : UInt32)
    : GuessesOnce s (s.reportGuess font index code) := by
  unfold reportGuess
  dsimp only
  split
  . exact .silent rfl rfl
  . next h =>
    rw [Bool.or_eq_true, List.contains_iff_mem, not_or] at h
    constructor
    . simp [guessedIn, Warning.encodingFallback]
    . exact fun hnodup => List.nodup_cons.mpr ⟨h.2, hnodup⟩

theorem guessesOnce_showCode (font : Font α) (bytes : List UInt8)
    : GuessesOnce s (s.showCode setting font index bytes) := by
  have hguess := guessesOnce_reportGuess index (s := s) font (codeOfBytes bytes)
  constructor
  . have hguessed := hguess.guessed
    unfold showCode guessedIn
    unfold guessedIn at hguessed
    dsimp only
    rw [warningsIn_append, warningsIn_map_glyph, List.append_nil]
    exact hguessed
  . exact hguess.nodup

theorem guessesOnce_showCodes (font : Font α) (codes : List (List UInt8))
    : GuessesOnce s (s.showCodes setting font index codes) := by
  induction codes generalizing s with
  | nil => exact .silent rfl rfl
  | cons bytes rest ih =>
    apply GuessesOnce.append _ ih
    apply guessesOnce_showCode

omit [Scalar α] in
theorem guessed_resolveFont : (s.resolveFont setting index).2.1.guessed = s.guessed := by
  unfold resolveFont
  dsimp only
  split
  . rfl
  . split <;> rfl

theorem guessed_adjust (amount : α) : (s.adjust setting amount).guessed = s.guessed := by
  unfold adjust
  dsimp only
  split <;> rfl

theorem guessesOnce_showString (bytes : List UInt8)
    : GuessesOnce s (s.showString setting index bytes) := by
  have hfont : GuessesOnce s (s.resolveFont setting index).2 := by
    apply GuessesOnce.silent (guessed_resolveFont setting index)
    apply warningsIn_resolveFont
    decide
  apply hfont.append
  apply guessesOnce_showCodes

theorem guessesOnce_showItems (items : List (TextItem α))
    : GuessesOnce s (s.showItems setting index items) := by
  induction items generalizing s with
  | nil => exact .silent rfl rfl
  | cons item rest ih =>
    cases item with
    | adjust amount =>
      have hadjust : GuessesOnce s (s.adjust setting amount, []) :=
        .silent (guessed_adjust setting amount) rfl
      exact hadjust.append ih
    | text bytes =>
      apply GuessesOnce.append _ ih
      apply guessesOnce_showString

theorem guessesOnce_execute (command : Command α)
    : GuessesOnce s (s.execute setting index command) := by
  cases command with
  | showText bytes => apply guessesOnce_showString
  | showTextArray items => apply guessesOnce_showItems
  | nextLineShowText bytes =>
    have h := guessesOnce_showString setting index
      (s := s.withText s.text.nextLine) bytes
    exact ⟨h.guessed, h.nodup⟩
  | nextLineShowSpaced wordSpacing charSpacing bytes =>
    have h := guessesOnce_showString setting index
      (s := s.withText
        { s.text with wordSpacing := wordSpacing, charSpacing := charSpacing }.nextLine) bytes
    exact ⟨h.guessed, h.nodup⟩
  | restore =>
    unfold execute GraphicsState.restore?
    dsimp only
    cases s.graphics.saved with
    | nil => exact .silent rfl rfl
    | cons latest rest => exact .silent rfl rfl
  | _ => exact .silent rfl rfl

theorem guessesOnce_run (ops : List (Operator α)) : GuessesOnce s (s.run setting index ops) := by
  induction ops generalizing s index with
  | nil => exact .silent rfl rfl
  | cons op rest ih =>
    apply GuessesOnce.append _ (ih (index + 1))
    apply guessesOnce_execute

end Guessing

end RunState

open RunState in
theorem events_report_fonts (fonts : FontBook α) (form : Normalization) (sheet : Sheet α)
    (ops : List (Operator α))
    : let setting : Setting α := ⟨fonts, form⟩
      (∃ uses : List (Nat × String),
        warningsIn .missingFont (events setting sheet ops) =
            uses.map (fun u =>
              { Warning.missingFont u.1 u.2 with operatorIndex := some u.1, font := some u.2 }) ∧
          uses.Pairwise (fun u v => u.1 < v.1) ∧
          (∀ i name, (i, name) ∈ uses ↔
            name ∉ fonts.entries.map Prod.fst ∧ FirstUse ops i name) ∧
          (uses.map Prod.snd).Nodup) ∧
      ∃ names : List String,
        (warningsIn .encodingFallback (events setting sheet ops)).map Warning.font =
            names.map some ∧ names.Nodup := by
  intro setting
  constructor
  . obtain ⟨uses, h⟩ := exists_reported setting sheet ops
    refine ⟨uses, h.warnings, h.increasing, ?_, h.nodup⟩
    intro i name
    rw [h.mem_iff, FontBook.get?_eq_none_iff]
  . have h := guessesOnce_run setting 0 (s := .initial sheet) ops
    refine ⟨((RunState.initial sheet).run setting 0 ops).1.guessed.reverse, ?_, ?_⟩
    . exact h.guessed.symm
    . rw [List.nodup_reverse]
      exact h.nodup .nil

end Content
end Galley
