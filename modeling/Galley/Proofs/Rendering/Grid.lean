import Galley.Proofs.Rendering.Plain
import Galley.Rendering.Grid

/-!
This module contains what layout text has in common with running text: white space splits both into
the same pieces, and without room for spaces the words still stand in the same order.
-/

namespace Galley.Rendering

open Unicode

variable {α : Type} [Scalar α]

theorem exists_trimEnd_append (row : List Char)
    : ∃ blank, IsBlank blank ∧ trimEnd row ++ blank = row := by
  refine ⟨(row.reverse.takeWhile isWhiteSpace).reverse, ?_, ?_⟩
  . intro c hc
    rw [List.mem_reverse] at hc
    exact List.all_eq_true.mp List.all_takeWhile c hc
  . unfold trimEnd
    rw [← List.reverse_append, List.takeWhile_append_dropWhile, List.reverse_reverse]

theorem trimEnd_concat (row : List Char) {c : Char} (hc : isWhiteSpace c = false)
    : trimEnd (row ++ [c]) = row ++ [c] := by
  simp [trimEnd, hc]

theorem tokens_trimEnd (row : List Char) : tokens (trimEnd row) = tokens row := by
  obtain ⟨blank, hblank, hrow⟩ := exists_trimEnd_append row
  rw [← tokens_append_blank (trimEnd row) hblank, hrow]

theorem exists_trimRows_append (rows : List (List Char))
    : ∃ n, trimRows rows ++ List.replicate n [] = rows := by
  refine ⟨(rows.reverse.takeWhile List.isEmpty).length, ?_⟩
  have hblank : (rows.reverse.takeWhile List.isEmpty).reverse =
      List.replicate (rows.reverse.takeWhile List.isEmpty).length [] := by
    rw [List.eq_replicate_iff]
    refine ⟨List.length_reverse, ?_⟩
    intro row hrow
    rw [List.mem_reverse] at hrow
    exact List.isEmpty_iff.mp (List.all_eq_true.mp List.all_takeWhile row hrow)
  unfold trimRows
  rw [← hblank, ← List.reverse_append, List.takeWhile_append_dropWhile, List.reverse_reverse]

theorem trimRows_concat (rows : List (List Char)) {row : List Char} (h : row ≠ [])
    : trimRows (rows ++ [row]) = rows ++ [row] := by
  simp [trimRows, h]

theorem flatMap_tokens_replicate_nil (n : Nat)
    : (List.replicate n []).flatMap tokens = [] := by
  induction n with
  | zero => rfl
  | succ n ih =>
    rw [List.replicate_succ, List.flatMap_cons, ih, tokens_nil]
    rfl

theorem flatMap_tokens_trimRows (rows : List (List Char))
    : (trimRows rows).flatMap tokens = rows.flatMap tokens := by
  obtain ⟨n, hrows⟩ := exists_trimRows_append rows
  have happend := congrArg (List.flatMap tokens) hrows
  rw [List.flatMap_append, flatMap_tokens_replicate_nil, List.append_nil] at happend
  exact happend

theorem toList_gridLines (settings : Settings α) (page : Box α) (cell : Cell α)
    (lines : List (Line α))
    : (gridLines settings page cell lines).toList =
        ['\n'].intercalate (trimRows (rows settings page cell lines)) := by
  unfold gridLines
  rw [String.toList_intercalate, List.map_map]
  simp [Function.comp_def]

theorem rowFrom_cons (settings : Settings α) (target : Word α → Nat) (cursor : Nat)
    (previous : Option (Word α)) (w : Word α) (rest : List (Word α))
    : ∃ next, rowFrom settings target cursor previous (w :: rest) =
        List.replicate (spacesBefore settings (target w) cursor previous w) ' ' ++
          (w.letters ++ rowFrom settings target next (some w) rest) := by
  refine ⟨cursor + spacesBefore settings (target w) cursor previous w + w.text.length, ?_⟩
  rw [rowFrom, List.append_assoc]
  rfl

section Spaced

variable {settings : Settings α} (hspaces : 1 ≤ settings.grid.maxSpaces)
include hspaces

theorem one_le_spacesBefore {v w : Word α} (h : settings.spacing.separates v w = true)
    (target cursor : Nat) : 1 ≤ spacesBefore settings target cursor (some v) w := by
  simp only [spacesBefore, h, if_true]
  omega

omit hspaces in
theorem spacesBefore_eq_zero {v w : Word α} (h : settings.spacing.separates v w = false)
    (target cursor : Nat) : spacesBefore settings target cursor (some v) w = 0 := by
  simp [spacesBefore, h]

theorem tokens_rowFrom (target : Word α → Nat) (cursor : Nat) (v : Word α)
    (words : List (Word α)) (h : ∀ w ∈ v :: words, IsToken w.letters)
    : tokens (v.letters ++ rowFrom settings target cursor (some v) words) =
        tokens (v.letters ++ (wordsAfter settings.spacing v words).toList) := by
  -- the induction is on the words behind `v`: a space stands in both texts or in neither
  induction words generalizing v cursor with
  | nil => simp [rowFrom, wordsAfter]
  | cons w rest ih =>
    have hrest : ∀ u ∈ w :: rest, IsToken u.letters := fun u hu => h u (by simp [hu])
    obtain ⟨next, hrow⟩ := rowFrom_cons settings target cursor (some v) w rest
    rw [hrow, wordsAfter, String.toList_append, String.toList_append, List.append_assoc]
    change _ = tokens (v.letters ++ (_ ++ (w.letters ++ _)))
    cases hseparates : settings.spacing.separates v w with
    | true =>
      have hpos := one_le_spacesBefore hspaces hseparates (target w) cursor
      rw [tokens_append_blank_append, tokens_append_blank_append, ih next w hrest]
      . simp
      . decide
      . intro hnil
        rw [List.replicate_eq_nil_iff] at hnil
        omega
      . apply IsBlank.replicate
        decide
    | false =>
      have hv := (h v (by simp)).solid
      obtain ⟨c, letters, hletters, hc⟩ := (hrest w (by simp)).exists_cons
      have hfollow := ih next w hrest
      rw [hletters] at hfollow
      rw [spacesBefore_eq_zero hseparates, hletters]
      change tokens (v.letters ++ c :: (letters ++ _)) = tokens (v.letters ++ c :: (letters ++ _))
      rw [tokens_solid_append hv hc, tokens_solid_append hv hc]
      exact congrArg _ hfollow

theorem tokens_row (page : Box α) (cell : Cell α) (l : Line α)
    (h : l.Legible)
    : tokens (row settings page cell l) = tokens (lineText settings.spacing l).toList := by
  unfold row lineText
  rw [tokens_trimEnd]
  split
  next hwords =>
    rw [hwords]
    rfl
  next w rest hwords =>
    have htokens := h.isToken
    rw [hwords] at htokens ⊢
    obtain ⟨next, hrow⟩ := rowFrom_cons settings (target page cell l.direction) 0 none w rest
    rw [hrow, tokens_blank_append, tokens_rowFrom hspaces _ _ _ _ htokens, String.toList_append]
    . rfl
    . apply IsBlank.replicate
      decide

theorem flatMap_tokens_rowsAfter (page : Box α) (cell : Cell α) (above : α)
    (lines : List (Line α)) (h : ∀ l ∈ lines, l.Legible)
    : (rowsAfter settings page cell above lines).flatMap tokens =
        lines.flatMap fun l => tokens (lineText settings.spacing l).toList := by
  induction lines generalizing above with
  | nil => rfl
  | cons l rest ih =>
    unfold rowsAfter
    rw [List.flatMap_append, flatMap_tokens_replicate_nil, List.nil_append, List.flatMap_cons,
      tokens_row hspaces page cell l (h l (by simp)), ih _ fun m hm => h m (by simp [hm])]
    rfl

theorem tokens_gridLines (page : Box α) (cell : Cell α) (lines : List (Line α))
    (h : ∀ l ∈ lines, l.Legible)
    : tokens (gridLines settings page cell lines).toList =
        tokens (linesText settings lines).toList := by
  rw [toList_gridLines, tokens_intercalate (by simp) (by decide), flatMap_tokens_trimRows,
    tokens_linesText]
  cases lines with
  | nil => rfl
  | cons l rest =>
    unfold rows
    rw [List.flatMap_cons, List.flatMap_cons, tokens_row hspaces page cell l (h l (by simp)),
      flatMap_tokens_rowsAfter hspaces _ _ _ _ fun m hm => h m (by simp [hm])]

theorem tokens_grid (page : Box α) (p : Pools α)
    (h : ∀ pool ∈ p.all, ∀ l ∈ pool.lines settings.lineOptions, l.Legible)
    : tokens (grid settings page p).toList = tokens (plain settings p).toList := by
  unfold grid plain
  rw [tokens_joinBlocks, tokens_joinBlocks, List.flatMap_map, List.flatMap_map]
  rw [List.flatMap_def, List.flatMap_def]
  congr 1
  apply List.map_congr_left
  intro pool hpool
  apply tokens_gridLines hspaces
  exact h pool hpool

end Spaced

section Legible

variable (settings : Settings α)

/-- A row ends with the last of its words. -/
theorem exists_rowFrom_concat (target : Word α → Nat) (cursor : Nat) (previous : Option (Word α))
    (words : List (Word α)) (hne : words ≠ []) (h : ∀ w ∈ words, IsToken w.letters)
    : ∃ rest c, rowFrom settings target cursor previous words = rest ++ [c] ∧
        isWhiteSpace c = false := by
  induction words generalizing cursor previous with
  | nil => contradiction
  | cons w rest ih =>
    obtain ⟨next, hrow⟩ := rowFrom_cons settings target cursor previous w rest
    rw [hrow]
    cases rest with
    | nil =>
      obtain ⟨letters, c, hletters, hc⟩ := (h w (by simp)).exists_concat
      rw [hletters, rowFrom, List.append_nil, ← List.append_assoc]
      exact ⟨_, c, rfl, hc⟩
    | cons v rest =>
      obtain ⟨front, c, hfront, hc⟩ := ih next (some w) (by simp) fun u hu => h u (by simp [hu])
      rw [hfront, ← List.append_assoc, ← List.append_assoc]
      exact ⟨_, c, rfl, hc⟩

variable (page : Box α) (cell : Cell α)

theorem row_eq_rowFrom {l : Line α} (h : l.Legible)
    : row settings page cell l =
        rowFrom settings (target page cell l.direction) 0 none l.words := by
  obtain ⟨rest, c, hlast, hc⟩ := exists_rowFrom_concat settings (target page cell l.direction) 0
    none l.words h.words_ne_nil h.isToken
  unfold row
  rw [hlast, trimEnd_concat rest hc]

theorem row_ne_nil {l : Line α} (h : l.Legible) : row settings page cell l ≠ [] := by
  obtain ⟨rest, c, hlast, _⟩ := exists_rowFrom_concat settings (target page cell l.direction) 0
    none l.words h.words_ne_nil h.isToken
  rw [row_eq_rowFrom settings page cell h, hlast]
  exact List.concat_ne_nil c rest

theorem exists_rowsAfter_concat (above : α) (lines : List (Line α))
    (h : ∀ l ∈ lines, l.Legible) (first : List Char) (hfirst : first ≠ [])
    : ∃ rest last, last ≠ [] ∧
        first :: rowsAfter settings page cell above lines = rest ++ [last] := by
  -- the last row is never blank, so that none is dropped
  induction lines generalizing above first with
  | nil => exact ⟨[], first, hfirst, rfl⟩
  | cons l lines ih =>
    have hrow := row_ne_nil settings page cell (h l (by simp))
    obtain ⟨rest, last, hlast, hrows⟩ :=
      ih (depth l.direction page l.base) (fun m hm => h m (by simp [hm])) _ hrow
    refine ⟨first :: (List.replicate (blankRows settings.grid cell.height above
      (depth l.direction page l.base)) [] ++ rest), last, hlast, ?_⟩
    simp only [rowsAfter]
    rw [hrows]
    simp

/-- No row is dropped below lines that can be read. -/
theorem trimRows_rows (lines : List (Line α)) (h : ∀ l ∈ lines, l.Legible)
    : trimRows (rows settings page cell lines) = rows settings page cell lines := by
  cases lines with
  | nil => rfl
  | cons l rest =>
    have hrow := row_ne_nil settings page cell (h l (by simp))
    obtain ⟨front, last, hlast, hrows⟩ := exists_rowsAfter_concat settings page cell
      (depth l.direction page l.base) rest (fun m hm => h m (by simp [hm])) _ hrow
    rw [rows, hrows, trimRows_concat front hlast]

end Legible

section Unspaced

/-- The separators of layout text without room for spaces. -/
def IsNewlines (s : List Char) : Prop := ∀ c ∈ s, c = '\n'

instance (s : List Char) : Decidable (IsNewlines s) :=
  List.decidableBAll _ s

theorem joined_flatten (words : List (List Char)) : Joined IsNewlines words words.flatten := by
  induction words with
  | nil => exact .nil
  | cons w rest ih =>
    cases rest with
    | nil =>
      rw [List.flatten_singleton]
      exact .single w
    | cons v rest =>
      have hcons : Joined IsNewlines (w :: v :: rest) (w ++ [] ++ (v :: rest).flatten) :=
        .cons (by decide) ih
      rw [List.append_nil] at hcons
      exact hcons

theorem intercalate_blank_rows (row next : List Char) (rest : List (List Char)) (n : Nat)
    : ['\n'].intercalate (row :: (List.replicate n [] ++ next :: rest)) =
        row ++ List.replicate (n + 1) '\n' ++ ['\n'].intercalate (next :: rest) := by
  induction n generalizing row with
  | zero => simp
  | succ n ih =>
    rw [List.replicate_succ, List.cons_append, List.intercalate_cons_cons, ih []]
    simp [List.replicate_succ]

variable {settings : Settings α} (hspaces : settings.grid.maxSpaces = 0)
include hspaces

theorem rowFrom_eq_flatten (target : Word α → Nat) (cursor : Nat) (previous : Option (Word α))
    (words : List (Word α))
    : rowFrom settings target cursor previous words = (words.map Word.letters).flatten := by
  induction words generalizing cursor previous with
  | nil => rfl
  | cons w rest ih =>
    obtain ⟨next, hrow⟩ := rowFrom_cons settings target cursor previous w rest
    have hzero : spacesBefore settings (target w) cursor previous w = 0 := by
      unfold spacesBefore
      rw [hspaces, Nat.min_zero]
    rw [hrow, hzero, ih]
    rfl

theorem row_eq_flatten (page : Box α) (cell : Cell α) {l : Line α} (h : l.Legible)
    : row settings page cell l = (l.words.map Word.letters).flatten := by
  rw [row_eq_rowFrom settings page cell h, rowFrom_eq_flatten hspaces]

theorem joined_row (page : Box α) (cell : Cell α) {l : Line α} (h : l.Legible)
    : Joined IsNewlines (l.words.map Word.letters) (row settings page cell l) := by
  rw [row_eq_flatten hspaces page cell h]
  apply joined_flatten

theorem joined_rowsAfter (page : Box α) (cell : Cell α) (above : α) (k : Line α)
    (lines : List (Line α)) (h : ∀ l ∈ k :: lines, l.Legible)
    : Joined IsNewlines ((k :: lines).flatMap fun l => l.words.map Word.letters)
        (['\n'].intercalate
          (row settings page cell k :: rowsAfter settings page cell above lines)) := by
  have hrow := joined_row hspaces page cell (h k (by simp))
  induction lines generalizing k above with
  | nil =>
    rw [rowsAfter, List.intercalate_singleton, List.flatMap_cons, List.flatMap_nil,
      List.append_nil]
    exact hrow
  | cons l rest ih =>
    unfold rowsAfter
    rw [intercalate_blank_rows, List.flatMap_cons]
    apply hrow.append
    . simp [(h k (by simp)).words_ne_nil]
    . intro c hc
      exact List.eq_of_mem_replicate hc
    . apply ih
      . exact fun m hm => h m (by simp [hm])
      . exact joined_row hspaces page cell (h l (by simp))
    . simp [(h l (by simp)).words_ne_nil]

theorem joined_gridLines (page : Box α) (cell : Cell α) (lines : List (Line α))
    (h : ∀ l ∈ lines, l.Legible)
    : Joined IsNewlines (lines.flatMap fun l => l.words.map Word.letters)
        (gridLines settings page cell lines).toList := by
  rw [toList_gridLines, trimRows_rows settings page cell lines h]
  cases lines with
  | nil => exact .nil
  | cons l rest => apply joined_rowsAfter hspaces page cell _ l rest h

theorem joined_grid (page : Box α) (p : Pools α)
    (h : ∀ pool ∈ p.all, ∀ l ∈ pool.lines settings.lineOptions, l.Legible)
    : Joined IsNewlines ((p.readingOrder settings.lineOptions).map Word.letters)
        (grid settings page p).toList := by
  unfold grid
  rw [toList_joinBlocks, List.map_map, map_letters_readingOrder]
  apply Joined.intercalate
  . decide
  . intro pool hpool
    apply joined_gridLines hspaces
    exact h pool hpool
  . intro pool hpool
    exact isToken_of_mem_letters (h pool hpool)

end Unspaced

end Galley.Rendering
