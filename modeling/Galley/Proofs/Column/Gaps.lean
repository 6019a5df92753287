import Galley.Proofs.Column.Joining
import Galley.Proofs.Settings

/-!
This module contains what the gaps between columns are: the widest of the openings that the words
leave, where openings with little between them count as one.
-/

namespace Galley

namespace Gap

theorem pair_infix_cons_cons {β : Type} {a b c d : β} {l : List β}
    : [a, b] <:+: c :: d :: l ↔ (a = c ∧ b = d) ∨ [a, b] <:+: d :: l := by
  rw [List.infix_cons_iff, List.cons_prefix_cons, List.cons_prefix_cons]
  simp only [List.nil_prefix, and_true]

theorem mem_ofRuns {runs : List (ℝ × ℝ)} {g : Gap ℝ}
    : g ∈ ofRuns runs ↔ ∃ a b, [a, b] <:+: runs ∧ g = between a.2 b.1 := by
  induction runs using ofRuns.induct with
  | case1 r s rest ih =>
    simp only [ofRuns, List.mem_cons, pair_infix_cons_cons, ih]
    constructor
    . rintro (hg | ⟨a, b, hab, hg⟩)
      . exact ⟨r, s, .inl ⟨rfl, rfl⟩, hg⟩
      . exact ⟨a, b, .inr hab, hg⟩
    . rintro ⟨a, b, ⟨rfl, rfl⟩ | hab, hg⟩
      . exact .inl hg
      . exact .inr ⟨a, b, hab, hg⟩
  | case2 runs hshort =>
    refine iff_of_false (by simp [ofRuns]) ?_
    rintro ⟨a, b, hab, _⟩
    have hlong := hab.length_le
    rcases runs with - | ⟨c, - | ⟨d, rest⟩⟩
    . simp at hlong
    . simp at hlong
    . exact hshort c d rest rfl

theorem pairwise_ofRuns {runs : List (ℝ × ℝ)} (hproper : ∀ r ∈ runs, r.1 ≤ r.2)
    (hapart : runs.Pairwise fun a b => a.2 < b.1)
    : (ofRuns runs).Pairwise fun g h => g.stop ≤ h.start := by
  induction runs using ofRuns.induct with
  | case1 r s rest ih =>
    rw [List.forall_mem_cons] at hproper
    have hrest := (List.pairwise_cons.mp hapart).2
    refine List.pairwise_cons.mpr ⟨?_, ih hproper.2 hrest⟩
    intro h hh
    obtain ⟨a, b, hab, rfl⟩ := mem_ofRuns.mp hh
    rcases List.mem_cons.mp (hab.subset (List.mem_cons_self ..)) with has | ha
    . rw [has]
      exact hproper.2 s (by simp)
    . have hlt := (List.pairwise_cons.mp hrest).1 a ha
      exact (hproper.2 s (by simp)).trans (hlt.le.trans (hproper.2 a (by simp [ha])))
  | case2 runs hshort => simp [ofRuns]

/-- Gaps in order which are the openings of at least some width that a set leaves. -/
structure Opens (covered : Set ℝ) (minGap : ℝ) (gaps : List (Gap ℝ)) : Prop where
  ordered : gaps.Pairwise fun g h => g.stop ≤ h.start
  measured : Measured gaps
  openings : ∀ J : Set ℝ, IsOpening covered J ∧ minGap ≤ sSup J - sInf J ↔
    ∃ g ∈ gaps, J = Set.Ioo g.start g.stop

theorem opens_ofRuns {spans runs : List (ℝ × ℝ)} (h : Unites spans runs) (minGap : ℝ)
    : Opens (coverage spans) minGap
        ((ofRuns runs).filter fun g => decide (minGap ≤ g.width)) where
  ordered := (pairwise_ofRuns h.proper h.apart).filter _
  measured := by
    intro g hg
    obtain ⟨a, b, _, rfl⟩ := mem_ofRuns.mp (List.mem_filter.mp hg).1
    rfl
  openings := by
    intro J
    constructor
    . rintro ⟨hopening, hwide⟩
      obtain ⟨a, b, hab, rfl⟩ := h.exists_infix_of_isOpening hopening
      have hlt := h.lt_of_infix hab
      rw [csSup_Ioo hlt, csInf_Ioo hlt] at hwide
      refine ⟨between a.2 b.1, List.mem_filter.mpr ⟨?_, ?_⟩, rfl⟩
      . exact mem_ofRuns.mpr ⟨a, b, hab, rfl⟩
      . exact decide_eq_true hwide
    . rintro ⟨g, hg, rfl⟩
      obtain ⟨hg, hwide⟩ := List.mem_filter.mp hg
      obtain ⟨a, b, hab, rfl⟩ := mem_ofRuns.mp hg
      have hlt := h.lt_of_infix hab
      refine ⟨h.isOpening_of_infix hab, ?_⟩
      have hstart : (between a.2 b.1).start = a.2 := rfl
      have hstop : (between a.2 b.1).stop = b.1 := rfl
      rw [hstart, hstop, csSup_Ioo hlt, csInf_Ioo hlt]
      exact of_decide_eq_true hwide

namespace Opens

variable {covered : Set ℝ} {minGap x low high : ℝ} {g : Gap ℝ} {gaps : List (Gap ℝ)}
variable (h : Opens covered minGap gaps)
include h

theorem isOpening (hg : g ∈ gaps) : IsOpening covered (Set.Ioo g.start g.stop) :=
  ((h.openings _).mpr ⟨g, hg, rfl⟩).1

theorem start_lt_stop (hg : g ∈ gaps) : g.start < g.stop :=
  Set.nonempty_Ioo.mp (h.isOpening hg).nonempty

theorem wide (hg : g ∈ gaps) : minGap ≤ g.stop - g.start := by
  have hlt := h.start_lt_stop hg
  have hwide := ((h.openings _).mpr ⟨g, hg, rfl⟩).2
  rwa [csSup_Ioo hlt, csInf_Ioo hlt] at hwide

theorem notMem (hg : g ∈ gaps) (hx : x ∈ covered) : x ∉ Set.Ioo g.start g.stop := by
  intro hbetween
  exact (h.isOpening hg).maximal.1.2 x hbetween hx

/-- A covered interval stands on one side of each gap. -/
theorem beside (hg : g ∈ gaps) (hle : low ≤ high) (hcovered : Set.Icc low high ⊆ covered)
    : high ≤ g.start ∨ g.stop ≤ low := by
  by_contra hmeets
  rw [not_or, not_le, not_le] at hmeets
  obtain ⟨hhigh, hlow⟩ := hmeets
  rcases lt_or_ge g.start low with hlt | hge
  . exact h.notMem hg (hcovered ⟨le_rfl, hle⟩) ⟨hlt, hlow⟩
  . obtain ⟨y, hstart, hy⟩ := exists_between (lt_min hhigh (h.start_lt_stop hg))
    rw [lt_min_iff] at hy
    exact h.notMem hg (hcovered ⟨hge.trans hstart.le, hy.1.le⟩) ⟨hstart, hy.2⟩

theorem apart (hpos : 0 < minGap) : Apart minGap (joined minGap gaps) := by
  rw [← join_eq_joined minGap h.measured]
  exact apart_join hpos h.ordered fun g hg => h.wide hg

/-- A covered interval reaches into a joined gap only between two neighbours that it joins. -/
theorem exists_flank (hg : g ∈ joined minGap gaps) (hcovered : Set.Icc low high ⊆ covered)
    (hx : x ∈ Set.Icc low high) (hbetween : x ∈ Set.Ioo g.start g.stop)
    : ∃ r s, Flank minGap gaps g r s ∧ r.stop ≤ low ∧ high ≤ s.start := by
  obtain ⟨block, first, last, hblock, hfirst, hlast, hchain, rfl⟩ := exists_block hg
  have hsubset := hblock.subset
  have hproper : ∀ g ∈ block, g.start ≤ g.stop := fun g hg => (h.start_lt_stop (hsubset hg)).le
  have hout : ∀ g ∈ block, x ∉ Set.Ioo g.start g.stop :=
    fun g hg => h.notMem (hsubset hg) (hcovered hx)
  obtain ⟨r, s, hflank, hr, hs⟩ := Gap.exists_flank hfirst hlast hchain
    (h.ordered.sublist hblock.sublist) hproper hout hbetween.1 hbetween.2
  have hneighbours := hflank.neighbours.trans hblock
  refine ⟨r, s, ⟨hneighbours, hflank.near, hflank.start_le, hflank.le_stop⟩, ?_, ?_⟩
  . have hmem : r ∈ gaps := hneighbours.subset (by simp)
    rcases h.beside hmem (hx.1.trans hx.2) hcovered with hside | hside
    . -- the point would stand to the left of this gap
      have hlt := h.start_lt_stop hmem
      linarith [hx.2]
    . exact hside
  . have hmem : s ∈ gaps := hneighbours.subset (by simp)
    rcases h.beside hmem (hx.1.trans hx.2) hcovered with hside | hside
    . exact hside
    . have hlt := h.start_lt_stop hmem
      linarith [hx.1]

end Opens

end Gap

namespace ColumnOptions

section Spans

variable {α : Type} [Scalar α]

/-- The spans of the words of those lines that are not left out. -/
def spans (options : ColumnOptions α) (lines : List (Line α)) (skip : List Bool) : List (α × α) :=
  (((lines.zip skip).filterMap fun (l, skipped) => if skipped then none else some l).flatMap
    Line.words).map options.span

theorem mem_spans {options : ColumnOptions α} {lines : List (Line α)} {skip : List Bool}
    {s : α × α}
    : s ∈ options.spans lines skip ↔
        ∃ l w, (l, false) ∈ lines.zip skip ∧ w ∈ l.words ∧ options.span w = s := by
  simp only [spans, List.mem_map, List.mem_flatMap, List.mem_filterMap, Prod.exists]
  constructor
  . rintro ⟨w, ⟨l, ⟨l', skipped, hzip, hl⟩, hw⟩, rfl⟩
    cases skipped with
    | true => contradiction
    | false =>
      injection hl with hl
      exact ⟨l, w, hl ▸ hzip, hw, rfl⟩
  . rintro ⟨l, w, hzip, hw, rfl⟩
    exact ⟨w, ⟨l, ⟨l, false, hzip, rfl⟩, hw⟩, rfl⟩

/-- The gaps between the spans that are wide enough, before near ones are joined. -/
def wideGaps (options : ColumnOptions α) (lines : List (Line α)) (skip : List Bool) :
    List (Gap α) :=
  (Gap.ofRuns (runs ((options.spans lines skip).mergeSort spanBefore))).filter fun g =>
    decide (options.minGap ≤ g.width)

theorem gapsExcluding_eq (options : ColumnOptions α) (lines : List (Line α)) (skip : List Bool)
    : options.gapsExcluding lines skip = Gap.keepBest (options.maxColumns - 1)
        (Gap.join options.minGap (options.wideGaps lines skip)) := by
  rfl

end Spans

/-- The extent of a word, widened outward to multiples of the quantum. -/
def widened (options : ColumnOptions ℝ) (w : Word ℝ) : Set ℝ :=
  Set.Icc (⌊w.box.x0 / options.quantum⌋ * options.quantum)
    (⌈w.box.x1 / options.quantum⌉ * options.quantum)

/-- What the words of those lines that are not left out cover. -/
def covered (options : ColumnOptions ℝ) (lines : List (Line ℝ)) (skip : List Bool) : Set ℝ :=
  {x | ∃ l w, (l, false) ∈ lines.zip skip ∧ w ∈ l.words ∧ x ∈ options.widened w}

variable {options : ColumnOptions ℝ} {lines : List (Line ℝ)} {skip : List Bool}

theorem span_fst_le (hquantum : 0 < options.quantum) (w : Word ℝ)
    : (options.span w).1 ≤ w.box.x0 :=
  (le_div_iff₀ hquantum).mp (Int.floor_le _)

theorem le_span_snd (hquantum : 0 < options.quantum) (w : Word ℝ)
    : w.box.x1 ≤ (options.span w).2 :=
  (div_le_iff₀ hquantum).mp (Int.le_ceil _)

theorem Icc_subset_widened (hquantum : 0 < options.quantum) (w : Word ℝ)
    : Set.Icc w.box.x0 w.box.x1 ⊆ options.widened w :=
  Set.Icc_subset_Icc (span_fst_le hquantum w) (le_span_snd hquantum w)

theorem widened_subset_covered {l : Line ℝ} {w : Word ℝ} (hl : (l, false) ∈ lines.zip skip)
    (hw : w ∈ l.words) : options.widened w ⊆ options.covered lines skip :=
  fun _ hx => ⟨l, w, hl, hw, hx⟩

theorem coverage_spans : coverage (options.spans lines skip) = options.covered lines skip := by
  ext x
  rw [mem_coverage]
  constructor
  . rintro ⟨s, hs, hx⟩
    obtain ⟨l, w, hl, hw, rfl⟩ := mem_spans.mp hs
    exact ⟨l, w, hl, hw, hx⟩
  . rintro ⟨l, w, hl, hw, hx⟩
    exact ⟨options.span w, mem_spans.mpr ⟨l, w, hl, hw, rfl⟩, hx⟩

section Found

variable (hquantum : 0 < options.quantum)
variable (hboxes : ∀ l w, (l, false) ∈ lines.zip skip → w ∈ l.words → w.box.x0 ≤ w.box.x1)
include hquantum hboxes

theorem unites_runs_spans
    : Unites (options.spans lines skip)
        (runs ((options.spans lines skip).mergeSort spanBefore)) := by
  apply unites_runs_mergeSort
  intro s hs
  obtain ⟨l, w, hl, hw, rfl⟩ := mem_spans.mp hs
  exact (span_fst_le hquantum w).trans ((hboxes l w hl hw).trans (le_span_snd hquantum w))

theorem opens_wideGaps
    : Gap.Opens (options.covered lines skip) options.minGap (options.wideGaps lines skip) := by
  rw [← coverage_spans]
  exact Gap.opens_ofRuns (unites_runs_spans hquantum hboxes) options.minGap

variable (hminGap : 0 < options.minGap)
include hminGap

theorem isWidest_gapsExcluding
    : Gap.IsWidest (options.maxColumns - 1)
        (Gap.joined options.minGap (options.wideGaps lines skip))
        (options.gapsExcluding lines skip) := by
  have hopens := opens_wideGaps hquantum hboxes
  rw [gapsExcluding_eq, Gap.join_eq_joined _ hopens.measured]
  exact Gap.isWidest_keepBest _ ((hopens.apart hminGap).pairwise_start hminGap)

theorem apart_gapsExcluding
    : Gap.Apart options.minGap (options.gapsExcluding lines skip) :=
  ((opens_wideGaps hquantum hboxes).apart hminGap).sublist
    (isWidest_gapsExcluding hquantum hboxes hminGap).sublist

end Found

/-- The openings that the words of all but spanning lines leave, widened to whole quanta, are joined
where less than the least width is between them, and of what results the widest are kept. -/
theorem findGaps_widest_joined_openings (settings : Settings ℝ)
    (hvalid : settings.validate = .ok ())
    (lines : List (Line ℝ)) (hboxes : ∀ l ∈ lines, ∀ w ∈ l.words, w.box.x0 ≤ w.box.x1)
    : let options := settings.columns
      let gaps := options.findGaps lines
      let spanning := options.spanning lines
      ∃ raw, Gap.Opens (options.covered lines spanning) options.minGap raw ∧
        Gap.IsWidest (options.maxColumns - 1) (Gap.joined options.minGap raw) gaps ∧
        Gap.Apart options.minGap gaps ∧
        ∀ l w, (l, false) ∈ lines.zip spanning → w ∈ l.words → ∀ g ∈ gaps,
          (Set.Icc w.box.x0 w.box.x1 ∩ Set.Ioo g.start g.stop).Nonempty →
            ∃ r s, Gap.Flank options.minGap raw g r s ∧ r.stop ≤ w.box.x0 ∧ w.box.x1 ≤ s.start := by
  intro options gaps spanning
  have hsettings := Settings.validate_eq_ok_iff.mp hvalid
  have hminGap : 0 < options.minGap := (Scalar.isPositive_real _).mp hsettings.minGap
  have hquantum : 0 < options.quantum := (Scalar.isPositive_real _).mp hsettings.quantum
  have hboxes : ∀ l w, (l, false) ∈ lines.zip spanning → w ∈ l.words → w.box.x0 ≤ w.box.x1 :=
    fun l w hl hw => hboxes l (List.of_mem_zip hl).1 w hw
  have hopens := opens_wideGaps hquantum hboxes
  have hwidest := isWidest_gapsExcluding hquantum hboxes hminGap
  refine ⟨_, hopens, hwidest, apart_gapsExcluding hquantum hboxes hminGap, ?_⟩
  rintro l w hl hw g hg ⟨x, hx, hbetween⟩
  obtain ⟨r, s, hflank, hr, hs⟩ := hopens.exists_flank (hwidest.sublist.subset hg)
    (widened_subset_covered hl hw) (Icc_subset_widened hquantum w hx) hbetween
  refine ⟨r, s, hflank, hr.trans (span_fst_le hquantum w), (le_span_snd hquantum w).trans hs⟩

/-- Two words with a wide space between them. -/
def facing {α : Type} [Scalar α] : Line α where
  words :=
    [⟨"left", [], ⟨0.0, 0.0, 10.0, 10.0⟩, 0.0, 10.0, .right, .horizontal, [0.0, 10.0], 0⟩,
      ⟨"right", [], ⟨40.0, 0.0, 50.0, 10.0⟩, 0.0, 10.0, .right, .horizontal, [40.0, 50.0], 1⟩]
  base := 0.0
  direction := .right
  size := 10.0
  box := ⟨0.0, 0.0, 50.0, 10.0⟩

theorem findGaps_widest_joined_openings_facing
    : let options : ColumnOptions ℝ := .default
      let gaps := options.findGaps [facing]
      (Settings.default : Settings ℝ).validate = .ok () ∧
        (∀ l ∈ [(facing : Line ℝ)], ∀ w ∈ l.words, w.box.x0 ≤ w.box.x1) ∧
        ∃ raw, Gap.Opens (options.covered [facing] (options.spanning [facing])) options.minGap raw ∧
          Gap.IsWidest (options.maxColumns - 1) (Gap.joined options.minGap raw) gaps ∧
          Gap.Apart options.minGap gaps := by
  intro options gaps
  have hvalid := Settings.validate_eq_ok_iff.mpr Settings.isValid_default
  have hboxes : ∀ l ∈ [(facing : Line ℝ)], ∀ w ∈ l.words, w.box.x0 ≤ w.box.x1 := by
    norm_num [facing]
  obtain ⟨raw, hopens, hwidest, hapart, _⟩ :=
    findGaps_widest_joined_openings .default hvalid [facing] hboxes
  exact ⟨hvalid, hboxes, raw, hopens, hwidest, hapart⟩

end ColumnOptions

end Galley
