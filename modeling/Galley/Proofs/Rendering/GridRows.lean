import Galley.Proofs.Page.Text
import Galley.Proofs.Rendering.Grid

/-!
This module contains where words stand in layout text: each in the column of its place on the page
or in the next free one, on a row as many rows further down as its line is on the page.
-/

namespace Galley.Rendering

open Unicode

variable {α : Type} [Scalar α]

/--
Where a word stands that has a column of its own: so many spaces behind what is in its row already.
-/
structure Stands (settings : Settings α) (column : Nat) (before : List Char)
    (previous : Option (Word α)) (w : Word α) (spaces : Nat) : Prop where
  capped : spaces ≤ settings.grid.maxSpaces
  first : previous = none → column ≤ settings.grid.maxSpaces → before.length + spaces = column
  separated : ∀ v, previous = some v → settings.spacing.separates v w = true →
    max (column - before.length) 1 ≤ settings.grid.maxSpaces →
      before.length + spaces = max column (before.length + 1)
  glued : ∀ v, previous = some v → settings.spacing.separates v w = false → spaces = 0

/-- The row that words make up one after another behind what is in it already. -/
inductive Laid (settings : Settings α) (column : Word α → Nat)
    : List Char → Option (Word α) → List (Word α) → List Char → Prop
  | nil {before : List Char} {previous : Option (Word α)} :
      Laid settings column before previous [] before
  | cons {before full : List Char} {previous : Option (Word α)} {w : Word α}
      {rest : List (Word α)} {spaces : Nat} :
      Stands settings (column w) before previous w spaces →
      Laid settings column (before ++ List.replicate spaces ' ' ++ w.letters) (some w) rest full →
      Laid settings column before previous (w :: rest) full

section Laid

variable {settings : Settings α} {column : Word α → Nat}

theorem stands_spacesBefore (column : Nat) (before : List Char) (previous : Option (Word α))
    (w : Word α) (hfirst : previous = none → before = [])
    : Stands settings column before previous w
        (spacesBefore settings column before.length previous w) := by
  unfold spacesBefore
  constructor
  case capped => exact Nat.min_le_right _ _
  case first =>
    rintro rfl hfits
    rw [hfirst rfl]
    dsimp only [List.length_nil]
    omega
  case separated =>
    rintro v rfl hseparates hfits
    simp only [hseparates, if_true]
    omega
  case glued =>
    rintro v rfl hseparates
    simp [hseparates]

/-- The column that is counted along is the number of characters in the row. -/
theorem rowFrom_append (cursor : Nat) (previous : Option (Word α)) (front rest : List (Word α))
    : rowFrom settings column cursor previous (front ++ rest) =
        rowFrom settings column cursor previous front ++
          rowFrom settings column (cursor + (rowFrom settings column cursor previous front).length)
            (front.getLast?.or previous) rest := by
  induction front generalizing cursor previous with
  | nil => rfl
  | cons w front ih =>
    have hlast : front.getLast?.or (some w) = (w :: front).getLast?.or previous := by
      rw [List.getLast?_cons, Option.some_or]
      cases front.getLast? with
      | none => rfl
      | some v => rfl
    rw [List.cons_append, rowFrom, ih, rowFrom, hlast]
    simp only [List.length_append, List.length_replicate, List.append_assoc, Nat.add_assoc]
    rfl

/-- Words laid one after another behind what is in a row already. -/
theorem laid_rowFrom (before : List Char) (previous : Option (Word α)) (words : List (Word α))
    (hfirst : previous = none → before = [])
    : Laid settings column before previous words
        (before ++ rowFrom settings column before.length previous words) := by
  induction words generalizing before previous with
  | nil =>
    rw [rowFrom, List.append_nil]
    exact .nil
  | cons w rest ih =>
    apply Laid.cons (stands_spacesBefore (column w) before previous w hfirst)
    have hrest := ih (before ++
      List.replicate (spacesBefore settings (column w) before.length previous w) ' ' ++ w.letters)
      (some w) (by simp)
    rw [List.length_append, List.length_append, List.length_replicate] at hrest
    rw [rowFrom, ← List.append_assoc, ← List.append_assoc]
    exact hrest

theorem Laid.mem {before full : List Char} {previous : Option (Word α)} {words : List (Word α)}
    (h : Laid settings column before previous words full) {c : Char} (hc : c ∈ full)
    : c ∈ before ∨ c = ' ' ∨ ∃ w ∈ words, c ∈ w.letters := by
  induction h with
  | nil => exact .inl hc
  | @cons before full previous w rest spaces _ _ ih =>
    rcases ih hc with hc | hc | ⟨v, hv, hc⟩
    . rw [List.append_assoc, List.mem_append, List.mem_append] at hc
      rcases hc with hc | hc | hc
      . exact .inl hc
      . exact .inr (.inl (List.eq_of_mem_replicate hc))
      . exact .inr (.inr ⟨w, List.mem_cons_self, hc⟩)
    . exact .inr (.inl hc)
    . exact .inr (.inr ⟨v, List.mem_cons_of_mem w hv, hc⟩)

end Laid

/--
The column of the place of a word: how many cells it starts from the side of the page where reading
begins.
-/
def columnOf (page : Box α) (cell : Cell α) (direction : Direction) (w : Word α) : Nat :=
  let distance :=
    match direction with
    | .right => w.start - page.x0
    | .up => w.start - page.y0
    | .left => w.start - -page.x1
    | .down => w.start - -page.y1
  Scalar.toNat64 (Scalar.greatest (Scalar.round (distance / cell.width)) 0.0)

/-- How far a line is from the side of the page where the first line stands. -/
def depthOf (page : Box α) (l : Line α) : α :=
  match l.direction with
  | .right => page.y1 - l.base
  | .up => l.base - page.x0
  | .left => l.base - page.y0
  | .down => page.x1 - l.base

theorem columnOf_eq (page : Box α) (cell : Cell α) (direction : Direction)
    : columnOf page cell direction = target page cell direction := by
  funext w
  unfold columnOf target origin
  cases direction <;> rfl

theorem depthOf_eq (page : Box α) (l : Line α)
    : depthOf page l = depth l.direction page l.base := by
  unfold depthOf depth
  cases l.direction <;> rfl

/-- The row of a line: its words as they are laid, without white space at the end. -/
structure IsRow (settings : Settings α) (page : Box α) (cell : Cell α) (l : Line α)
    (row : List Char) : Prop where
  laid : ∃ blank, IsBlank blank ∧
    Laid settings (columnOf page cell l.direction) [] none l.words (row ++ blank)
  trimmed : ∀ c ∈ row.getLast?, isWhiteSpace c = false
  whole : (∀ w ∈ l.words, IsToken w.letters) →
    Laid settings (columnOf page cell l.direction) [] none l.words row

/-- The number of blank rows between two lines. -/
def blanksBetween (settings : Settings α) (page : Box α) (cell : Cell α) (above below : Line α) :
    Nat :=
  let distance := depthOf page below - depthOf page above
  min settings.grid.maxBlankLines
    (max 0 (Scalar.toInt64 (Scalar.round (distance / cell.height)) - 1)).toNat

/-- The rows of lines, from the line above them on. -/
inductive Stacked (settings : Settings α) (page : Box α) (cell : Cell α)
    : Option (Line α) → List (Line α) → List (List Char) → Prop
  | nil {above : Option (Line α)} : Stacked settings page cell above [] []
  | first {l : Line α} {rest : List (Line α)} {row : List Char} {rows : List (List Char)} :
      IsRow settings page cell l row → Stacked settings page cell (some l) rest rows →
      Stacked settings page cell none (l :: rest) (row :: rows)
  | next {k l : Line α} {rest : List (Line α)} {row : List Char} {rows : List (List Char)} :
      IsRow settings page cell l row → Stacked settings page cell (some l) rest rows →
      Stacked settings page cell (some k) (l :: rest)
        (List.replicate (blanksBetween settings page cell k l) [] ++ row :: rows)

section Rows

variable (settings : Settings α) (page : Box α) (cell : Cell α)

theorem trimEnd_getLast? (full : List Char) {c : Char} (hc : c ∈ (trimEnd full).getLast?)
    : isWhiteSpace c = false := by
  unfold trimEnd at hc
  rw [List.getLast?_reverse] at hc
  have hhead := List.head?_dropWhile_not isWhiteSpace full.reverse
  rw [hc] at hhead
  exact hhead

theorem isRow_row (l : Line α) : IsRow settings page cell l (row settings page cell l) := by
  have hlaid : Laid settings (columnOf page cell l.direction) [] none l.words
      (rowFrom settings (target page cell l.direction) 0 none l.words) := by
    rw [columnOf_eq]
    exact laid_rowFrom [] none l.words fun _ => rfl
  unfold row
  constructor
  case laid =>
    obtain ⟨blank, hblank, hrow⟩ :=
      exists_trimEnd_append (rowFrom settings (target page cell l.direction) 0 none l.words)
    exact ⟨blank, hblank, hrow.symm ▸ hlaid⟩
  case trimmed => exact fun c hc => trimEnd_getLast? _ hc
  case whole =>
    intro hwords
    by_cases hne : l.words = []
    . rw [hne]
      exact .nil
    . rw [← row, row_eq_rowFrom settings page cell ⟨hne, hwords⟩]
      exact hlaid

theorem stacked_rowsAfter (k : Line α) (lines : List (Line α))
    : Stacked settings page cell (some k) lines
        (rowsAfter settings page cell (depth k.direction page k.base) lines) := by
  induction lines generalizing k with
  | nil => exact .nil
  | cons l rest ih =>
    have hblank : blankRows settings.grid cell.height (depth k.direction page k.base)
        (depth l.direction page l.base) = blanksBetween settings page cell k l := by
      unfold blankRows blanksBetween
      rw [depthOf_eq, depthOf_eq]
      dsimp only
      omega
    unfold rowsAfter
    dsimp only
    rw [hblank]
    exact .next (isRow_row settings page cell l) (ih l)

theorem stacked_rows (lines : List (Line α))
    : Stacked settings page cell none lines (rows settings page cell lines) := by
  cases lines with
  | nil => exact .nil
  | cons l rest =>
    exact .first (isRow_row settings page cell l) (stacked_rowsAfter settings page cell l rest)

theorem trimRows_getLast? (rows : List (List Char)) : (trimRows rows).getLast? ≠ some [] := by
  unfold trimRows
  rw [List.getLast?_reverse]
  intro hlast
  have hhead := List.head?_dropWhile_not List.isEmpty rows.reverse
  rw [hlast] at hhead
  contradiction

theorem rows_head? (lines : List (Line α)) (h : ∀ l ∈ lines, l.Legible)
    : (rows settings page cell lines).head? ≠ some [] := by
  cases lines with
  | nil =>
    intro hhead
    contradiction
  | cons l rest =>
    have hrow := row_ne_nil settings page cell (h l List.mem_cons_self)
    exact fun hhead => hrow (Option.some.inj hhead)

end Rows

section Block

variable {settings : Settings α} {page : Box α} {cell : Cell α}

theorem IsRow.newline_not_mem {l : Line α} {row : List Char} (h : IsRow settings page cell l row)
    (hl : l.Legible) : '\n' ∉ row := by
  intro hmem
  rcases (h.whole hl.isToken).mem hmem with hmem | hmem | ⟨w, hw, hmem⟩
  . contradiction
  . contradiction
  . exact absurd ((hl.isToken w hw).solid _ hmem) (by decide)

/-- What holds of blank rows and of the rows of all lines holds of every row. -/
theorem Stacked.forall_mem {above : Option (Line α)} {lines : List (Line α)}
    {rows : List (List Char)} (h : Stacked settings page cell above lines rows)
    {P : List Char → Prop} (hblank : P [])
    (hlines : ∀ l ∈ lines, ∀ row, IsRow settings page cell l row → P row)
    : ∀ row ∈ rows, P row := by
  induction h with
  | nil =>
    intro row hrow
    contradiction
  | @first l rest row rows hrow _ ih =>
    obtain ⟨hl, hrest⟩ := List.forall_mem_cons.mp hlines
    exact List.forall_mem_cons.mpr ⟨hl row hrow, ih hrest⟩
  | @next k l rest row rows hrow _ ih =>
    obtain ⟨hl, hrest⟩ := List.forall_mem_cons.mp hlines
    rw [List.forall_mem_append]
    refine ⟨?_, List.forall_mem_cons.mpr ⟨hl row hrow, ih hrest⟩⟩
    intro blank hmem
    rw [List.eq_of_mem_replicate hmem]
    exact hblank

end Block

/--
A block of layout text stands on its grid. Blank rows below are dropped, but there are none where
words have no white space.
-/
theorem gridLines_stacked (settings : Settings α) (page : Box α) (cell : Cell α) (pool : Pool α)
    : (∀ column (front rest : List (Word α)),
        rowFrom settings column 0 none (front ++ rest) =
          rowFrom settings column 0 none front ++
            rowFrom settings column (rowFrom settings column 0 none front).length front.getLast?
              rest) ∧
      ∃ rows dropped,
        (gridLines settings page cell (pool.lines settings.lineOptions)).toList =
            ['\n'].intercalate rows ∧
          Stacked settings page cell none (pool.lines settings.lineOptions)
            (rows ++ List.replicate dropped []) ∧
          (∀ row ∈ rows, ∀ c ∈ row.getLast?, isWhiteSpace c = false) ∧
          rows.getLast? ≠ some [] ∧
          ((∀ w ∈ pool.words, IsToken w.letters) →
            dropped = 0 ∧ rows.head? ≠ some [] ∧ ∀ row ∈ rows, '\n' ∉ row) := by
  refine ⟨fun column front rest => by rw [rowFrom_append, Nat.zero_add, Option.or_none], ?_⟩
  have hstacked := stacked_rows settings page cell (pool.lines settings.lineOptions)
  obtain ⟨dropped, hdropped⟩ :=
    exists_trimRows_append (rows settings page cell (pool.lines settings.lineOptions))
  refine ⟨trimRows (rows settings page cell (pool.lines settings.lineOptions)), dropped,
    toList_gridLines settings page cell _, hdropped.symm ▸ hstacked, ?_, trimRows_getLast? _, ?_⟩
  . have htrimmed := hstacked.forall_mem
      (P := fun row => ∀ c ∈ row.getLast?, isWhiteSpace c = false) (fun c hc => nomatch hc)
      fun l _ row hrow => hrow.trimmed
    intro row hrow
    apply htrimmed
    rw [← hdropped]
    exact List.mem_append_left _ hrow
  . intro hwords
    have hlegible : ∀ l ∈ pool.lines settings.lineOptions, l.Legible :=
      Pool.legible_of_mem_lines hwords
    rw [trimRows_rows settings page cell _ hlegible] at hdropped ⊢
    refine ⟨?_, rows_head? settings page cell _ hlegible, ?_⟩
    . have hlength := congrArg List.length hdropped
      rw [List.length_append, List.length_replicate] at hlength
      omega
    . exact hstacked.forall_mem (P := fun row => '\n' ∉ row) List.not_mem_nil
        fun l hl row hrow => hrow.newline_not_mem (hlegible l hl)

end Galley.Rendering
