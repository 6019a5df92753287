import Galley.Csv
import Mathlib.Data.List.Forall2

/-!
This module contains a reader of tables with commas: a record ends with a line feed, a carriage
return or both, and a field that holds one of these, a comma or a quote stands between quotes. It
shows that a table is read back as it was written, but for fields that hold a carriage return and
nothing else that has them put between quotes.
-/

namespace Galley.Csv

/-- Where the reader of a table stands. -/
inductive Place
  /-- At the beginning of a field. -/
  | start
  | plain
  | quoted
  /-- Behind a quote between quotes, which ends the field or is the first of two. -/
  | closed
  /-- Behind a carriage return that has ended a record. -/
  | returned
deriving DecidableEq, Repr

/--
The records of a table, read from a place behind `fields` and some characters of the next `field`;
`none` if a quote stands where it cannot.
-/
def readFrom (place : Place) (field : List Char) (fields : List String) :
    List Char → Option (List (List String))
  | [] =>
    match place with
    | .quoted => none
    | .returned => some []
    | .start => some (if fields = [] then [] else [fields ++ [""]])
    | .plain | .closed => some [fields ++ [String.ofList field]]
  | c :: rest =>
    if place = .quoted then
      if c = '"' then readFrom .closed field fields rest
      else readFrom .quoted (field ++ [c]) fields rest
    else if place = .returned ∧ c = '\n' then readFrom .start [] [] rest
    else if c = '"' then
      match place with
      | .closed => readFrom .quoted (field ++ [c]) fields rest
      | .plain => none
      | _ => readFrom .quoted field fields rest
    else if c = ',' then readFrom .start [] (fields ++ [String.ofList field]) rest
    else if c = '\n' then
      (readFrom .start [] [] rest).map ((fields ++ [String.ofList field]) :: ·)
    else if c = '\r' then
      (readFrom .returned [] [] rest).map ((fields ++ [String.ofList field]) :: ·)
    else if place = .closed then none
    else readFrom .plain (field ++ [c]) fields rest

/-- The records of a table with commas. -/
def read? (text : String) : Option (List (List String)) := readFrom .start [] [] text.toList

/-- The text holds a carriage return, and nothing that has it put between quotes. -/
def IsBare (text : String) : Prop :=
  '\r' ∈ text.toList ∧ ∀ c ∈ text.toList, c ≠ ',' ∧ c ≠ '"' ∧ c ≠ '\n'

instance (text : String) : Decidable (IsBare text) := inferInstanceAs (Decidable (_ ∧ _))

/-!
The characters of a field.
-/

theorem needsQuotes_eq_false_iff (text : String)
    : needsQuotes text = false ↔ ∀ c ∈ text.toList, c ≠ ',' ∧ c ≠ '"' ∧ c ≠ '\n' := by
  unfold needsQuotes
  simp [List.any_eq_false, and_assoc]

theorem toList_field_of_needsQuotes_eq_false {text : String} (h : needsQuotes text = false)
    : (field text).toList = text.toList := by
  simp [field, h]

/-- Characters that are none of the marks of a table are taken over. -/
theorem readFrom_plain {chars : List Char}
    (hchars : ∀ c ∈ chars, c ≠ ',' ∧ c ≠ '"' ∧ c ≠ '\n' ∧ c ≠ '\r') {place : Place}
    (hplace : place = .start ∨ place = .plain) (field : List Char) (fields : List String)
    (rest : List Char)
    : ∃ after, (after = .start ∨ after = .plain) ∧
        readFrom place field fields (chars ++ rest)
          =
        readFrom after (field ++ chars) fields rest := by
  induction chars generalizing place field with
  | nil =>
    rw [List.append_nil]
    exact ⟨place, hplace, rfl⟩
  | cons c chars ih =>
    rw [List.forall_mem_cons] at hchars
    rcases hchars with ⟨⟨hcomma, hquote, hfeed, hreturn⟩, hchars⟩
    rcases ih hchars (.inr rfl) (field ++ [c]) with ⟨after, hafter, heq⟩
    refine ⟨after, hafter, ?_⟩
    rw [List.append_assoc, List.singleton_append] at heq
    rw [← heq, List.cons_append]
    cases hplace with
    | inl h => subst h; simp [readFrom, hcomma, hquote, hfeed, hreturn]
    | inr h => subst h; simp [readFrom, hcomma, hquote, hfeed, hreturn]

theorem readFrom_quoted (text : String) (field : List Char) (fields : List String)
    (rest : List Char)
    : readFrom .quoted field fields (doubleQuotes text ++ '"' :: rest)
        =
      readFrom .closed (field ++ text.toList) fields rest := by
  unfold doubleQuotes
  induction text.toList generalizing field with
  | nil => simp [readFrom]
  | cons c chars ih =>
    by_cases hquote : c = '"'
    . subst hquote
      simp [readFrom, ih]
    . simp [readFrom, ih, hquote]

/-- The reader stands behind a field that it has read from its beginning. -/
theorem readFrom_field {text : String} (hbare : ¬ IsBare text) (fields : List String)
    (rest : List Char)
    : ∃ after, (after = .start ∨ after = .plain ∨ after = .closed) ∧
        readFrom .start [] fields ((field text).toList ++ rest)
          =
        readFrom after text.toList fields rest := by
  cases hquotes : needsQuotes text with
  | true =>
    refine ⟨.closed, .inr (.inr rfl), ?_⟩
    have := readFrom_quoted text [] fields rest
    simpa [field, hquotes, readFrom] using this
  | false =>
    have hmarks := (needsQuotes_eq_false_iff text).mp hquotes
    have hchars : ∀ c ∈ text.toList, c ≠ ',' ∧ c ≠ '"' ∧ c ≠ '\n' ∧ c ≠ '\r' := by
      intro c hc
      have hreturn : c ≠ '\r' := by
        rintro rfl
        exact hbare ⟨hc, hmarks⟩
      rcases hmarks c hc with ⟨hcomma, hquote, hfeed⟩
      exact ⟨hcomma, hquote, hfeed, hreturn⟩
    rcases readFrom_plain hchars (.inl rfl) [] fields rest with ⟨after, hafter, heq⟩
    rw [toList_field_of_needsQuotes_eq_false hquotes, heq, List.nil_append]
    exact ⟨after, hafter.imp_right .inl, rfl⟩

theorem readFrom_field_comma {text : String} (hbare : ¬ IsBare text) (fields : List String)
    (rest : List Char)
    : readFrom .start [] fields ((field text).toList ++ ',' :: rest)
        =
      readFrom .start [] (fields ++ [text]) rest := by
  rcases readFrom_field hbare fields (',' :: rest) with ⟨after, hafter, heq⟩
  rw [heq]
  rcases hafter with h | h | h <;> subst h <;> simp [readFrom]

theorem readFrom_field_lineFeed {text : String} (hbare : ¬ IsBare text) (fields : List String)
    (rest : List Char)
    : readFrom .start [] fields ((field text).toList ++ '\n' :: rest)
        =
      (readFrom .start [] [] rest).map ((fields ++ [text]) :: ·) := by
  rcases readFrom_field hbare fields ('\n' :: rest) with ⟨after, hafter, heq⟩
  rw [heq]
  rcases hafter with h | h | h <;> subst h <;> simp [readFrom]

/-- A bare text is cut at its first carriage return, where its record ends. -/
theorem readFrom_field_of_isBare {text : String} (hbare : IsBare text) (fields : List String)
    : ∃ cut ≠ text, ∀ rest, ∃ rest',
        readFrom .start [] fields ((field text).toList ++ rest)
          =
        (readFrom .returned [] [] rest').map ((fields ++ [cut]) :: ·) := by
  rcases hbare with ⟨hreturn, hmarks⟩
  rcases List.eq_append_cons_of_mem hreturn with ⟨front, back, htext, hfront⟩
  have hchars : ∀ c ∈ front, c ≠ ',' ∧ c ≠ '"' ∧ c ≠ '\n' ∧ c ≠ '\r' := by
    intro c hc
    rcases hmarks c (by simp [htext, hc]) with ⟨hcomma, hquote, hfeed⟩
    refine ⟨hcomma, hquote, hfeed, ?_⟩
    rintro rfl
    exact hfront hc
  refine ⟨String.ofList front, ?_, ?_⟩
  . intro h
    have := congrArg String.toList h
    simp [htext] at this
  . intro rest
    refine ⟨back ++ rest, ?_⟩
    have hfield := toList_field_of_needsQuotes_eq_false ((needsQuotes_eq_false_iff text).mpr hmarks)
    rcases readFrom_plain hchars (.inl rfl) [] fields ('\r' :: (back ++ rest))
      with ⟨after, hafter, heq⟩
    rw [hfield, htext, List.append_assoc, List.cons_append, heq]
    rcases hafter with h | h <;> subst h <;> simp [readFrom]

/-!
The records.
-/

/-- A row as it is written, with the end of its line. -/
def line (row : List String) : List Char := (",".intercalate (row.map field)).toList ++ ['\n']

theorem Table.toList_commas (t : Table) : t.commas.toList = (t.header :: t.rows).flatMap line := by
  unfold Table.commas
  unfold line
  simp [String.toList_join, List.flatMap_map]

theorem line_singleton (text : String) : line [text] = (field text).toList ++ ['\n'] := by
  simp [line]

theorem line_cons_cons (text next : String) (row : List String)
    : line (text :: next :: row) = (field text).toList ++ ',' :: line (next :: row) := by
  simp [line, String.toList_intercalate]

theorem readFrom_line {row : List String} (hrow : row ≠ []) (hbare : ∀ text ∈ row, ¬ IsBare text)
    (fields : List String) (rest : List Char)
    : readFrom .start [] fields (line row ++ rest)
        =
      (readFrom .start [] [] rest).map ((fields ++ row) :: ·) := by
  induction row generalizing fields with
  | nil => contradiction
  | cons text row ih =>
    rw [List.forall_mem_cons] at hbare
    cases row with
    | nil =>
      rw [line_singleton, List.append_assoc, List.singleton_append]
      exact readFrom_field_lineFeed hbare.1 fields rest
    | cons next row =>
      rw [line_cons_cons, List.append_assoc, List.cons_append, readFrom_field_comma hbare.1,
        ih (by simp) hbare.2, List.append_assoc, List.singleton_append]

/-- A row is cut at its first bare text. -/
theorem readFrom_line_of_isBare {row : List String} (hbare : ∃ text ∈ row, IsBare text)
    (fields : List String) (rest : List Char)
    : ∃ (left : List String) (text cut : String), text ≠ cut ∧ IsBare text ∧
        (∃ right, row = left ++ text :: right) ∧
        ∃ rest', readFrom .start [] fields (line row ++ rest)
          =
        (readFrom .returned [] [] rest').map ((fields ++ left ++ [cut]) :: ·) := by
  induction row generalizing fields with
  | nil => simp at hbare
  | cons text row ih =>
    by_cases htext : IsBare text
    . rcases readFrom_field_of_isBare htext fields with ⟨cut, hcut, hread⟩
      refine ⟨[], text, cut, hcut.symm, htext, ⟨row, rfl⟩, ?_⟩
      rw [List.append_nil]
      cases row with
      | nil =>
        rw [line_singleton, List.append_assoc]
        exact hread _
      | cons next row =>
        rw [line_cons_cons, List.append_assoc]
        exact hread _
    . simp only [List.exists_mem_cons_iff, htext, false_or] at hbare
      rcases ih hbare (fields ++ [text])
        with ⟨left, other, cut, hcut, hother, ⟨right, hrow⟩, rest', hread⟩
      refine ⟨text :: left, other, cut, hcut, hother, ⟨right, by rw [hrow]; rfl⟩, rest', ?_⟩
      cases row with
      | nil => simp at hbare
      | cons next row =>
        rw [line_cons_cons, List.append_assoc, List.cons_append, readFrom_field_comma htext, hread,
          List.append_assoc fields, List.singleton_append]

/-!
The table.
-/

/-- The record has these columns of the row. -/
def Agree (columns : List Nat) (record row : List String) : Prop :=
  ∀ i ∈ columns, record[i]? = row[i]?

/-- The text is read as a header and one record for each item, which holds what it should. -/
def ReadsBack {T : Type} (text : String) (header : List String)
    (Holds : List String → T → Prop) (items : List T) : Prop :=
  ∃ records, read? text = some (header :: records) ∧ List.Forall₂ Holds records items

theorem readFrom_lines {rows : List (List String)} (hrows : ∀ row ∈ rows, row ≠ [])
    (hbare : ∀ row ∈ rows, ∀ text ∈ row, ¬ IsBare text)
    : readFrom .start [] [] (rows.flatMap line) = some rows := by
  induction rows with
  | nil => rfl
  | cons row rows ih =>
    rw [List.forall_mem_cons] at hrows hbare
    rw [List.flatMap_cons, readFrom_line hrows.1 hbare.1, ih hrows.2 hbare.2]
    rfl

theorem not_isBare_of_readFrom_lines {columns : List Nat} {rows records : List (List String)}
    (hrows : ∀ row ∈ rows, row ≠ [])
    (hcolumns : ∀ row ∈ rows, ∀ i text, row[i]? = some text → IsBare text → i ∈ columns)
    (hread : readFrom .start [] [] (rows.flatMap line) = some records)
    (hagree : List.Forall₂ (Agree columns) records rows)
    : ∀ row ∈ rows, ∀ text ∈ row, ¬ IsBare text := by
  induction rows generalizing records with
  | nil => simp
  | cons row rows ih =>
    rw [List.forall_mem_cons] at hrows hcolumns ⊢
    rw [List.flatMap_cons] at hread
    cases hagree with
    | @cons record _ records _ hfirst hagree =>
      by_cases hbare : ∃ text ∈ row, IsBare text
      . rcases readFrom_line_of_isBare hbare [] (rows.flatMap line)
          with ⟨left, text, cut, hcut, htext, ⟨right, hrow⟩, rest', hline⟩
        rw [hline] at hread
        rcases Option.map_eq_some_iff.mp hread with ⟨_, _, hrecord⟩
        have hplace : row[left.length]? = some text := by simp [hrow]
        have := hfirst _ (hcolumns.1 _ _ hplace htext)
        rw [hplace, ← (List.cons.inj hrecord).1] at this
        simp at this
        exact absurd this.symm hcut
      . have hnone : ∀ text ∈ row, ¬ IsBare text := by
          intro text htext h
          exact hbare ⟨text, htext, h⟩
        rw [readFrom_line hrows.1 hnone] at hread
        rcases Option.map_eq_some_iff.mp hread with ⟨_, hread, hrecord⟩
        rw [(List.cons.inj hrecord).2] at hread
        exact ⟨hnone, ih hrows.2 hcolumns.2 hread hagree⟩

/-- A table is read back, at least in the columns that may hold bare texts, if it holds none. -/
theorem Table.readsBack_commas_iff {t : Table} {columns : List Nat} (hheader : t.header ≠ [])
    (hnames : ∀ text ∈ t.header, ¬ IsBare text) (hrows : ∀ row ∈ t.rows, row ≠ [])
    (hcolumns : ∀ row ∈ t.rows, ∀ i text, row[i]? = some text → IsBare text → i ∈ columns)
    : ReadsBack t.commas t.header (Agree columns) t.rows
        ↔
      ∀ row ∈ t.rows, ∀ text ∈ row, ¬ IsBare text := by
  unfold ReadsBack read?
  rw [Table.toList_commas]
  constructor
  . rintro ⟨records, hread, hagree⟩
    rw [List.flatMap_cons, readFrom_line hheader hnames] at hread
    rcases Option.map_eq_some_iff.mp hread with ⟨_, hread, hrecord⟩
    rw [(List.cons.inj hrecord).2] at hread
    exact not_isBare_of_readFrom_lines hrows hcolumns hread hagree
  . intro hbare
    refine ⟨t.rows, ?_, List.forall₂_same.mpr ?_⟩
    . apply readFrom_lines
      . exact List.forall_mem_cons.mpr ⟨hheader, hrows⟩
      . exact List.forall_mem_cons.mpr ⟨hnames, hbare⟩
    . intro row _ i _
      rfl

end Galley.Csv
