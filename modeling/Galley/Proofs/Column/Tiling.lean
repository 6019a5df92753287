import Galley.Proofs.Column.Gaps
import Galley.Proofs.Column.Placement
import Galley.Proofs.Page.Presence

/-!
This module contains that the columns of a page tile it: the gaps between them are on the page, and
the bands that their midpoints bound follow one another from its left end to its right end.
-/

namespace Galley

namespace ColumnOptions

variable {options : ColumnOptions ℝ} {lines : List (Line ℝ)} {skip : List Bool} {page : Box ℝ}
variable {g : Gap ℝ} (hquantum : 0 < options.quantum)
variable (hmeets : ∀ l w, (l, false) ∈ lines.zip skip → w ∈ l.words → page.MeetsAcross w.box)
include hquantum hmeets

/-- A gap begins where some word ends and ends where some word begins, so it is on any page that all
words meet. -/
theorem within_of_mem_wideGaps (hg : g ∈ options.wideGaps lines skip)
    : page.x0 ≤ g.start ∧ g.stop ≤ page.x1 := by
  have hunites := unites_runs_spans hquantum fun l w hl hw => (hmeets l w hl hw).proper
  obtain ⟨a, b, hab, rfl⟩ := Gap.mem_ofRuns.mp (List.mem_filter.mp hg).1
  obtain ⟨s, hs, hstart⟩ := hunites.stops a (hab.subset (by simp))
  obtain ⟨t, ht, hstop⟩ := hunites.starts b (hab.subset (by simp))
  obtain ⟨l, w, hl, hw, rfl⟩ := mem_spans.mp hs
  obtain ⟨k, v, hk, hv, rfl⟩ := mem_spans.mp ht
  constructor
  . show page.x0 ≤ a.2
    rw [← hstart]
    exact (hmeets l w hl hw).right.trans (le_span_snd hquantum w)
  . show b.1 ≤ page.x1
    rw [← hstop]
    exact (span_fst_le hquantum v).trans (hmeets k v hk hv).left

theorem within_of_mem_gapsExcluding (hminGap : 0 < options.minGap)
    (hg : g ∈ options.gapsExcluding lines skip) : page.x0 ≤ g.start ∧ g.stop ≤ page.x1 := by
  have hwidest := isWidest_gapsExcluding hquantum (fun l w hl hw => (hmeets l w hl hw).proper)
    hminGap
  obtain ⟨block, first, last, hblock, hhead, hend, _, rfl⟩ :=
    Gap.exists_block (hwidest.sublist.subset hg)
  have hfirst := hblock.subset (List.mem_of_head? hhead)
  have hlast := hblock.subset (List.mem_of_getLast? hend)
  constructor
  . exact (within_of_mem_wideGaps hquantum hmeets hfirst).1
  . exact (within_of_mem_wideGaps hquantum hmeets hlast).2

end ColumnOptions

/-- The two ends of a column. -/
def Column.band {α : Type} (c : Column α) : α × α := (c.xMin, c.xMax)

namespace ColumnLayout

/-- Bands from left to right that cover an interval without a gap and without overlapping. -/
structure Tiles (bands : List (ℝ × ℝ)) (low high : ℝ) : Prop where
  proper : ∀ b ∈ bands, b.1 < b.2
  begins : bands.head?.map Prod.fst = some low
  adjacent : bands.IsChain fun a b => a.2 = b.1
  ends : bands.getLast?.map Prod.snd = some high
  covers : {x | ∃ b ∈ bands, b.1 ≤ x ∧ x ≤ b.2} = Set.Icc low high

theorem Tiles.singleton {low high : ℝ} (h : low < high) : Tiles [(low, high)] low high where
  proper := by simpa using h
  begins := by rfl
  adjacent := List.isChain_singleton _
  ends := by rfl
  covers := by
    ext x
    simp

theorem Tiles.le {bands : List (ℝ × ℝ)} {low high : ℝ} (h : Tiles bands low high) : low ≤ high := by
  obtain ⟨b, hb, hlow⟩ := Option.map_eq_some_iff.mp h.begins
  have hmem := List.mem_of_head? hb
  have hcovered : b.1 ∈ Set.Icc low high := by
    rw [← h.covers]
    exact ⟨b, hmem, le_rfl, (h.proper b hmem).le⟩
  exact hcovered.1.trans hcovered.2

theorem Tiles.cons {bands : List (ℝ × ℝ)} {low middle high : ℝ} (h : Tiles bands middle high)
    (hlt : low < middle) : Tiles ((low, middle) :: bands) low high where
  proper := List.forall_mem_cons.mpr ⟨hlt, h.proper⟩
  begins := by rfl
  adjacent := by
    rw [List.isChain_cons]
    refine ⟨?_, h.adjacent⟩
    intro b hb
    have hbegins := h.begins
    rw [Option.mem_def.mp hb, Option.map_some, Option.some_inj] at hbegins
    exact hbegins.symm
  ends := by
    obtain ⟨b, hb, hhigh⟩ := Option.map_eq_some_iff.mp h.ends
    rw [List.getLast?_cons, hb, ← hhigh]
    rfl
  covers := by
    rw [← Set.Icc_union_Icc_eq_Icc hlt.le h.le, ← h.covers]
    ext x
    simp

theorem tiles_bands {low high : ℝ} {inner : List ℝ}
    (h : (low :: (inner ++ [high])).IsChain (· < ·))
    : Tiles (bands (low :: (inner ++ [high]))) low high := by
  induction inner generalizing low with
  | nil => exact .singleton (List.isChain_cons_cons.mp h).1
  | cons middle rest ih =>
    obtain ⟨hlt, hrest⟩ := List.isChain_cons_cons.mp h
    exact (ih hrest).cons hlt

theorem start_lt_midpoint {g : Gap ℝ} (h : g.start < g.stop) : g.start < g.midpoint := by
  unfold Gap.midpoint
  rw [Scalar.two_real]
  linarith

theorem midpoint_lt_stop {g : Gap ℝ} (h : g.start < g.stop) : g.midpoint < g.stop := by
  unfold Gap.midpoint
  rw [Scalar.two_real]
  linarith

theorem isChain_boundaries {minGap low high : ℝ} {gaps : List (Gap ℝ)} (hminGap : 0 < minGap)
    (hapart : Gap.Apart minGap gaps) (hwithin : ∀ g ∈ gaps, low ≤ g.start ∧ g.stop ≤ high)
    (hlt : low < high) : (low :: (gaps.map Gap.midpoint ++ [high])).IsChain (· < ·) := by
  induction gaps generalizing low with
  | nil => exact .cons_cons hlt (List.isChain_singleton _)
  | cons g rest ih =>
    have hstart := hwithin g (by simp)
    have hwide := hapart.wide g (by simp)
    have hlow := start_lt_midpoint (g := g) (by linarith)
    have hhigh := midpoint_lt_stop (g := g) (by linarith)
    refine .cons_cons (by linarith) (ih (hapart.sublist (List.sublist_cons_self g rest)) ?_ ?_)
    . intro k hk
      have hbefore := (List.pairwise_cons.mp hapart.pairwise).1 k hk
      exact ⟨by linarith, (hwithin k (by simp [hk])).2⟩
    . linarith

theorem map_band_detect {α : Type} [Scalar α] (options : ColumnOptions α) (lines : List (Line α))
    (pageWidth : α)
    : (detect options lines pageWidth).columns.map Column.band =
        bands (boundaries (detect options lines pageWidth).gaps 0.0 pageWidth) := by
  apply List.ext_getElem?
  intro k
  rw [List.getElem?_map, getElem?_columns_detect, Option.map_map]
  exact congrFun Option.map_id _

variable {options : ColumnOptions ℝ} {lines : List (Line ℝ)}

/-- Columns tile a page that all words of their lines meet. -/
theorem tiles_detect (hminGap : 0 < options.minGap) (hquantum : 0 < options.quantum) {page : Box ℝ}
    (hleft : page.x0 = 0) (hproper : 0 < page.width)
    (hmeets : ∀ l ∈ lines, ∀ w ∈ l.words, page.MeetsAcross w.box)
    : let layout := detect options lines page.width
      (∀ g ∈ layout.gaps, 0 ≤ g.start ∧ g.start < g.stop ∧ g.stop ≤ page.width) ∧
        Tiles (layout.columns.map Column.band) 0 page.width := by
  intro layout
  have hmeets : ∀ l w, (l, false) ∈ lines.zip (options.spanning lines) → w ∈ l.words →
      page.MeetsAcross w.box := fun l w hl hw => hmeets l (List.of_mem_zip hl).1 w hw
  have hapart : Gap.Apart options.minGap layout.gaps :=
    ColumnOptions.apart_gapsExcluding hquantum (fun l w hl hw => (hmeets l w hl hw).proper) hminGap
  have hwidth : page.width = page.x1 := by
    rw [Box.width, hleft, sub_zero]
  have hwithin : ∀ g ∈ layout.gaps, 0 ≤ g.start ∧ g.stop ≤ page.width := by
    intro g hg
    rw [hwidth, ← hleft]
    exact ColumnOptions.within_of_mem_gapsExcluding hquantum hmeets hminGap hg
  constructor
  . intro g hg
    obtain ⟨hstart, hstop⟩ := hwithin g hg
    have hwide := hapart.wide g hg
    exact ⟨hstart, by linarith, hstop⟩
  . rw [map_band_detect, Scalar.zero_real]
    exact tiles_bands (isChain_boundaries hminGap hapart hwithin hproper)

end ColumnLayout

theorem Sheet.width_bounds_pos (s : Sheet ℝ) (hwidth : 0 < s.width) (hheight : 0 < s.height)
    : 0 < s.bounds.width := by
  have hdisplay : 0 < s.displaySize.1 := by
    unfold displaySize
    split
    . exact hheight
    . exact hwidth
  rw [Box.width, bounds, Scalar.zero_real, sub_zero]
  exact hdisplay

namespace Page

theorem columnLayout_tiles (fonts : FontBook ℝ) (sheet : Sheet ℝ) (settings : Settings ℝ)
    (ops : List (Content.Operator ℝ)) (hwidth : 0 < sheet.width) (hheight : 0 < sheet.height)
    (hvalid : settings.validate = .ok ())
    : let layout := (ofOperators fonts sheet settings ops).columnLayout
      (∀ g ∈ layout.gaps, 0 ≤ g.start ∧ g.start < g.stop ∧ g.stop ≤ sheet.bounds.width) ∧
        ColumnLayout.Tiles (layout.columns.map Column.band) 0 sheet.bounds.width := by
  have hsettings := Settings.validate_eq_ok_iff.mp hvalid
  apply ColumnLayout.tiles_detect
  . exact (Scalar.isPositive_real _).mp hsettings.minGap
  . exact (Scalar.isPositive_real _).mp hsettings.quantum
  . exact Scalar.zero_real
  . exact sheet.width_bounds_pos hwidth hheight
  . intro l hl w hw
    exact meetsAcross_of_mem_lines fonts sheet settings ops hl hw

/-- Two letters far apart on one line. -/
def apartLetters : List (Content.Operator ℝ) :=
  [⟨"BT", []⟩, ⟨"Tf", [.name "F1", .int 12]⟩, ⟨"Td", [.int 100, .int 700]⟩,
    ⟨"Tj", [.literal [97]]⟩, ⟨"Td", [.int 200, .int 0]⟩, ⟨"Tj", [.literal [98]]⟩, ⟨"ET", []⟩]

theorem columnLayout_tiles_apartLetters
    : let sheet : Sheet ℝ := .letter
      let layout := (ofOperators .empty sheet .default apartLetters).columnLayout
      0 < sheet.width ∧ 0 < sheet.height ∧ (Settings.default : Settings ℝ).validate = .ok () ∧
        (∀ g ∈ layout.gaps, 0 ≤ g.start ∧ g.start < g.stop ∧ g.stop ≤ sheet.bounds.width) ∧
        ColumnLayout.Tiles (layout.columns.map Column.band) 0 sheet.bounds.width := by
  intro sheet layout
  have hwidth : 0 < sheet.width := by norm_num [sheet, Sheet.letter]
  have hheight : 0 < sheet.height := by norm_num [sheet, Sheet.letter]
  have hvalid := Settings.validate_eq_ok_iff.mpr Settings.isValid_default
  exact ⟨hwidth, hheight, hvalid,
    columnLayout_tiles .empty sheet .default apartLetters hwidth hheight hvalid⟩

end Page

end Galley
