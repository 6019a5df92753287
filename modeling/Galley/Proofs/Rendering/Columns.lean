import Galley.Proofs.Column.Placement
import Galley.Proofs.Line.Bucketing
import Galley.Rendering.Columns

/-!
This module contains the text by columns of a page that has no gap between columns: its lines are
put together again from their words as they were, all in one column, so the text is the running
text.
-/

namespace Galley

variable {α : Type} [Scalar α]

namespace Line

/-- A line that is what its words make of it. -/
def IsWhole (l : Line α) : Prop := ofWords? l.words l.base l.direction = some l

theorem isWhole_of_ofWords? {words : List (Word α)} {base : α} {direction : Direction}
    {l : Line α} (h : ofWords? words base direction = some l) : l.IsWhole := by
  obtain ⟨hwords, hbase, hdirection, _⟩ := words_of_ofWords? h
  unfold IsWhole
  rw [hwords, hbase, hdirection]
  exact h

end Line

theorem Pool.isWhole_of_mem_lines {options : LineOptions α} {p : Pool α} {l : Line α}
    (h : l ∈ p.lines options) : l.IsWhole := by
  unfold Pool.lines Line.ofPool at h
  obtain ⟨g, _, hline⟩ := List.mem_filterMap.mp h
  rw [Line.ofGroup?_eq] at hline
  exact Line.isWhole_of_ofWords? hline

namespace ColumnOptions

theorem findGaps_of_maxColumns_le_one {options : ColumnOptions α} (h : options.maxColumns ≤ 1)
    (lines : List (Line α)) : options.findGaps lines = [] := by
  have hlength : (options.findGaps lines).length ≤ options.maxColumns - 1 := by
    apply ColumnLayout.length_keepBest_le
  rw [← List.length_eq_zero_iff]
  omega

end ColumnOptions

namespace ColumnLayout

theorem pieces_nil {l : Line α} (h : l.IsWhole) : pieces [] l = [l] := by
  have hall : (l.words.filter fun w => bandOf [] w.box.centerX == 0) = l.words := by
    rw [List.filter_eq_self]
    intro w _
    rfl
  have hone : List.range ([] : List (Gap α)).length.succ = [0] := by rfl
  unfold pieces
  rw [hone, List.filterMap_cons, hall, h, List.filterMap_nil]

theorem placed_cons (gaps : List (Gap α)) (l : Line α) (rest : List (Line α)) (whole : Bool)
    (flags : List Bool)
    : placed gaps (l :: rest) (whole :: flags) =
        (if whole then [l] else pieces gaps l) ++ placed gaps rest flags := by
  rfl

theorem placed_nil {lines : List (Line α)} {spanning : List Bool}
    (hlength : spanning.length = lines.length) (hwhole : ∀ l ∈ lines, l.IsWhole)
    : placed [] lines spanning = lines := by
  induction lines generalizing spanning with
  | nil => rfl
  | cons l rest ih =>
    cases spanning with
    | nil => contradiction
    | cons whole flags =>
      rw [List.forall_mem_cons] at hwhole
      rw [placed_cons, pieces_nil hwhole.1, ite_self, ih (Nat.succ_inj.mp hlength) hwhole.2]
      rfl

theorem detect_of_findGaps_eq_nil {options : ColumnOptions α} {lines : List (Line α)}
    (hgaps : options.findGaps lines = []) (hwhole : ∀ l ∈ lines, l.IsWhole) (pageWidth : α)
    : detect options lines pageWidth = ⟨[⟨0.0, pageWidth, lines⟩], []⟩ := by
  have hplaced := placed_nil (length_spanning options lines) hwhole
  have hall : (lines.filter fun l => bandOf [] l.box.centerX == 0) = lines := by
    rw [List.filter_eq_self]
    intro l _
    rfl
  unfold ColumnOptions.findGaps at hgaps
  unfold detect
  dsimp only
  rw [hgaps, hplaced]
  simp only [boundaries, bands, List.map_nil, List.nil_append, List.cons_append, List.mapIdx_cons,
    List.mapIdx_nil, hall]

end ColumnLayout

namespace Rendering

theorem columnsText_singleton (settings : Settings α) (column : Column α) (gaps : List (Gap α))
    : columnsText settings ⟨[column], gaps⟩ = linesText settings column.lines := by
  obtain ⟨xMin, xMax, lines⟩ := column
  cases lines with
  | nil => rfl
  | cons l rest => rfl

theorem columns_eq_plain (settings : Settings α) (page : Box α) (p : Pools α)
    : (settings.columns.maxColumns ≤ 1 →
        settings.columns.findGaps (p.right.lines settings.lineOptions) = []) ∧
      (settings.columns.findGaps (p.right.lines settings.lineOptions) = [] →
        columns settings page p = plain settings p) := by
  constructor
  . exact fun h => ColumnOptions.findGaps_of_maxColumns_le_one h _
  . intro hgaps
    have hlayout : columnLayout settings page p =
        ⟨[⟨0.0, page.width, p.right.lines settings.lineOptions⟩], []⟩ :=
      ColumnLayout.detect_of_findGaps_eq_nil hgaps
        (fun _ hl => Pool.isWhole_of_mem_lines hl) page.width
    unfold columns
    rw [hlayout, columnsText_singleton]
    rfl

/-- A word of one letter, ten units wide, on an upright line. -/
def letterAt (start : Float) (order : Nat) : Word Float :=
  let g : Glyph Float :=
    ⟨'a', 97, order, start, 700.0, 10.0, 0.0, 12.0, .right, .horizontal, "F1"⟩
  ⟨"a", [g], ⟨start, 697.0, start + 10.0, 709.0⟩, 700.0, 12.0, .right, .horizontal,
    [start, start + 10.0], order⟩

/-- Two letters on one line. -/
def letters (start : Float) : Pools Float := .ofWords 2.0 [letterAt 50.0 0, letterAt start 1]

theorem lines_letters
    : (letters 75.0).right.lines Settings.default.lineOptions =
        (Line.ofWords? [letterAt 50.0 0, letterAt 75.0 1] 700.0 .right).toList := by
  have hpool : (letters 75.0).right =
      [letterAt 50.0 0, letterAt 75.0 1].foldl Pool.add (.empty .right 2.0) := by rfl
  rw [hpool, Pool.lines_foldl_add, Line.ofPool_pair]
  . decide +kernel
  . decide +kernel
  . decide +kernel

theorem findGaps_letters
    : Settings.default.columns.findGaps ((letters 75.0).right.lines Settings.default.lineOptions)
        =
      [] := by
  rw [lines_letters]
  generalize hlines
    : (Line.ofWords? [letterAt 50.0 0, letterAt 75.0 1] 700.0 .right).toList = lines
  have hspans
      : (((lines.zip (Settings.default.columns.spanning lines)).filterMap fun (l, skipped) =>
            if skipped then none else some l).flatMap Line.words).map Settings.default.columns.span
          =
        [(50.0, 60.0), (75.0, 85.0)] := by
    rw [← hlines]
    decide +kernel
  unfold ColumnOptions.findGaps ColumnOptions.gapsExcluding
  dsimp only
  rw [hspans, mergeSort_pair]
  decide +kernel

theorem columns_eq_plain_letters
    : let settings : Settings Float := .default
      let narrowed := { settings with columns := { settings.columns with maxColumns := 1 } }
      let page : Box Float := ⟨0.0, 0.0, 612.0, 792.0⟩
      (narrowed.columns.maxColumns ≤ 1 ∧
          narrowed.columns.findGaps ((letters 400.0).right.lines narrowed.lineOptions) = []) ∧
        settings.columns.findGaps ((letters 75.0).right.lines settings.lineOptions) = [] ∧
          columns settings page (letters 75.0) = plain settings (letters 75.0) :=
  ⟨⟨by decide, (columns_eq_plain _ ⟨0.0, 0.0, 612.0, 792.0⟩ _).1 (by decide)⟩, findGaps_letters,
    (columns_eq_plain _ _ _).2 findGaps_letters⟩

end Rendering

end Galley
