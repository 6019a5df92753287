import Galley.Proofs.Binary64.Congruence
import Galley.Proofs.Binary64.NonNegative
import Galley.Proofs.Line.Formation
import Galley.Rendering.Grid

/-!
This module contains the depths of lines on a page: they grow along the reading order of every
direction, so that the number of rows between two lines is not below zero however flat the rows are.
-/

namespace Galley

open Binary64

namespace Line

theorem groups.map_base_go_sublist (tolerance : Float) (g : Group Float) (rest : List (Word Float))
    : ((groups.go tolerance g rest).map Group.base).Sublist (g.base :: rest.map Word.base) := by
  induction rest generalizing g with
  | nil => exact .refl _
  | cons w rest ih =>
    rw [List.map_cons]
    unfold groups.go
    split
    . exact (ih (g.push w)).trans (.cons_cons _ (.cons _ (.refl _)))
    . exact .cons_cons _ (ih (.ofWord w))

theorem map_base_groups_sublist (tolerance : Float) (words : List (Word Float))
    : ((groups tolerance words).map Group.base).Sublist (words.map Word.base) := by
  unfold groups
  split
  . exact .refl _
  next w rest => exact groups.map_base_go_sublist tolerance (.ofWord w) rest

theorem map_base_ofPool_sublist (options : LineOptions Float) (direction : Direction)
    (words : List (Word Float))
    : ((ofPool options direction words).map Line.base).Sublist
        ((words.mergeSort (baseBefore direction)).map Word.base) := by
  unfold ofPool
  rw [(filterMap_ofGroup? fun g hg => words_ne_nil_of_mem_groups hg).1]
  apply map_base_groups_sublist

end Line

namespace Pool

section Lines

variable (options : LineOptions Float) (p : Pool Float)

theorem direction_of_mem_lines {l : Line Float} (h : l ∈ p.lines options)
    : l.direction = p.direction := by
  obtain ⟨words, _, hlines⟩ := lines_eq options p
  rw [hlines] at h
  exact (Line.mem_of_mem_ofPool h).1

theorem exists_base_of_mem_lines {l : Line Float} (h : l ∈ p.lines options)
    : ∃ w ∈ p.words, w.base = l.base := by
  obtain ⟨words, hperm, hlines⟩ := lines_eq options p
  rw [hlines] at h
  have hmem := (Line.map_base_ofPool_sublist options p.direction words).subset
    (List.mem_map_of_mem h)
  obtain ⟨w, hw, hbase⟩ := List.mem_map.mp hmem
  rw [(List.mergeSort_perm words _).mem_iff, hperm.mem_iff] at hw
  exact ⟨w, hw, hbase⟩

/-- Each line stands on the baseline of the line before it or behind, whatever lines may span. -/
theorem pairwise_reaches_lines
    : (p.lines options).Pairwise fun k l => Line.Reaches p.direction k.base l.base := by
  obtain ⟨words, _, hlines⟩ := lines_eq options p
  have hsorted := List.pairwise_mergeSort (Line.baseBefore_trans p.direction)
    (Line.baseBefore_total p.direction) words
  have hbases : ((words.mergeSort (Line.baseBefore p.direction)).map Word.base).Pairwise
      (Line.Reaches p.direction) :=
    List.pairwise_map.mpr (hsorted.imp Line.reaches_of_baseBefore)
  rw [hlines, ← List.pairwise_map]
  exact hbases.sublist (Line.map_base_ofPool_sublist options p.direction words)

end Lines

end Pool

namespace Rendering

section Depth

variable {page : Box Float}
  (hpage : ∀ x ∈ [page.x0, page.y0, page.x1, page.y1], x.isFinite = true)
include hpage

theorem isNumber_depth (direction : Direction) {base : Float} (hbase : base.isFinite = true)
    : IsNumber (depth direction page base) := by
  simp only [List.forall_mem_cons] at hpage
  obtain ⟨hx0, hy0, hx1, hy1, _⟩ := hpage
  cases direction with
  | right => exact isNumber_sub hy1 hbase
  | up => exact isNumber_sub hbase hx0
  | left => exact isNumber_sub hbase hy0
  | down => exact isNumber_sub hx1 hbase

theorem rank_depth_le {direction : Direction} {a b : Float} (ha : a.isFinite = true)
    (hb : b.isFinite = true) (h : Line.Reaches direction a b)
    : rank (depth direction page a) ≤ rank (depth direction page b) := by
  simp only [List.forall_mem_cons] at hpage
  obtain ⟨hx0, hy0, hx1, hy1, _⟩ := hpage
  -- the side of the page that depths are measured from is the one that reading starts at
  cases direction with
  | right => exact rank_sub_le_sub hy1 hb ha h
  | up => exact rank_sub_le_sub_right ha hb (isNumber_of_isFinite hx0) h
  | left => exact rank_sub_le_sub_right ha hb (isNumber_of_isFinite hy0) h
  | down => exact rank_sub_le_sub hx1 hb ha h

end Depth

section Height

theorem isPositive_medianSize (words : List (Word Float))
    : Scalar.isPositive (medianSize words) = true := by
  have hdefault : Scalar.isPositive (12.0 : Float) = true := by decide +kernel
  unfold medianSize
  dsimp only
  split
  . split
    . assumption
    . exact hdefault
  . exact hdefault

theorem unitsOf_pos {x : Float} (hx : x.isFinite = true) (h : 0 < rank x) : 0 < unitsOf x := by
  by_contra hle
  have hmono : rankOf (unitsOf x * (2 ^ fineness : Nat)) ≤ rankOf 0 := by
    apply rankOf_mono
    apply Int.mul_nonpos_of_nonpos_of_nonneg
    . omega
    . exact Int.natCast_nonneg _
  rw [rankOf_unitsOf hx, rankOf_zero] at hmono
  omega

theorem rank_mul_scale_pos {x : Float} (hx : x.isFinite = true) (h : 0 < rank x)
    : 0 < rank (x * 1.2) := by
  -- the factor is above one, so that not even the smallest positive double vanishes
  have hfinite : (1.2 : Float).isFinite = true := by decide +kernel
  have hscale : ((2 ^ fineness : Nat) : Int) ≤ unitsOf 1.2 := by decide +kernel
  have hunits := unitsOf_pos hx h
  have hmono : rankOf (unitsOf x * (2 ^ fineness : Nat)) ≤ rankOf (unitsOf x * unitsOf 1.2) := by
    apply rankOf_mono
    exact Int.mul_le_mul_of_nonneg_left hscale (by omega)
  have hpos := rankOf_pos hunits
  rw [rank_mul hx hfinite]
  omega

theorem height_pos (options : GridOptions Float) (p : Pools Float)
    : 0.0 < (cell options p).height := by
  obtain ⟨hmedian, hpos⟩ := (isPositive_iff _).mp (isPositive_medianSize p.words)
  have hfinite : (1.2 : Float).isFinite = true := by decide +kernel
  unfold cell
  dsimp only
  split
  next husable =>
    obtain ⟨hheight, hpos⟩ := (isPositive_iff _).mp husable
    rw [lt_iff_rank_lt isNumber_zero (isNumber_of_isFinite hheight), rank_zero]
    exact hpos
  next =>
    rw [lt_iff_rank_lt isNumber_zero (isNumber_mul hmedian hfinite), rank_zero]
    exact rank_mul_scale_pos hmedian hpos

end Height

/-- The number of rows from one line to another one, as a double. -/
def rowsBetween (page : Box Float) (height : Float) (k l : Line Float) : Float :=
  Scalar.round ((depth l.direction page l.base - depth k.direction page k.base) / height)

theorem depth_lines (options : LineOptions Float) (p : Pool Float) (page : Box Float)
    (hbase : ∀ w ∈ p.words, w.base.isFinite = true)
    (hpage : ∀ x ∈ [page.x0, page.y0, page.x1, page.y1], x.isFinite = true)
    : ((p.lines options).map fun l => depth l.direction page l.base).Pairwise (· ≤ ·) ∧
        (∀ height : Float, 0.0 < height → (p.lines options).Pairwise fun k l =>
          ¬ rowsBetween page height k l < 0.0 ∧
            0 ≤ Scalar.toInt64 (rowsBetween page height k l) ∧
            (Int64.ofInt (Scalar.toInt64 (rowsBetween page height k l)) - 1).toInt =
              Scalar.toInt64 (rowsBetween page height k l) - 1 ∧
            ∀ grid, blankRows grid height (depth k.direction page k.base)
                (depth l.direction page l.base) =
              min (Int64.ofInt (Scalar.toInt64 (rowsBetween page height k l)) - 1).toInt.toNat
                grid.maxBlankLines) ∧
        ∀ (grid : GridOptions Float) (pools : Pools Float), 0.0 < (cell grid pools).height := by
  have hdepth : ∀ l ∈ p.lines options, IsNumber (depth l.direction page l.base) := by
    intro l hl
    obtain ⟨w, hw, heq⟩ := p.exists_base_of_mem_lines options hl
    exact isNumber_depth hpage _ (heq ▸ hbase w hw)
  have hranks : (p.lines options).Pairwise fun k l =>
      rank (depth k.direction page k.base) ≤ rank (depth l.direction page l.base) := by
    apply (p.pairwise_reaches_lines options).imp_of_mem
    intro k l hk hl hreaches
    obtain ⟨v, hv, hvbase⟩ := p.exists_base_of_mem_lines options hk
    obtain ⟨w, hw, hwbase⟩ := p.exists_base_of_mem_lines options hl
    rw [p.direction_of_mem_lines options hk, p.direction_of_mem_lines options hl]
    exact rank_depth_le hpage (hvbase ▸ hbase v hv) (hwbase ▸ hbase w hw) hreaches
  refine ⟨?_, ?_, height_pos⟩
  . rw [List.pairwise_map]
    apply hranks.imp_of_mem
    intro k l hk hl hle
    exact (le_iff_rank_le (hdepth k hk) (hdepth l hl)).mpr hle
  . intro height hheight
    apply hranks.imp_of_mem
    intro k l hk hl hle
    rw [lt_iff, rank_zero] at hheight
    have hrows : 0 ≤ rank (rowsBetween page height k l) := by
      apply rank_round_nonneg
      exact rank_div_of_nonneg (rank_sub_of_le (hdepth k hk) (hdepth l hl) hle) hheight.2.2
    obtain ⟨hcast, hless⟩ := toInt64_of_nonneg hrows
    refine ⟨not_lt_zero_of_rank hrows, hcast, hless, ?_⟩
    intro grid
    rw [hless]
    rfl

/-- Words so far apart that no double is as large as the distance of their baselines. -/
def farApart : Pool Float :=
  let w : Word Float :=
    ⟨"a", [], ⟨0.0, 7.0, 5.0, 19.0⟩, 10.0, 12.0, .right, .horizontal, [0.0, 5.0], 0⟩
  [w, { w with base := -1.7e308, order := 1 }, { w with base := 1.7e308, order := 2 }].foldl
    Pool.add (.empty .right 2.0)

theorem depth_lines_farApart
    : let page : Box Float := ⟨0.0, 0.0, 612.0, 792.0⟩
      let lines := farApart.lines ⟨0.5, 0.25, 0.25⟩
      (0.0 : Float) < 5e-324 ∧
        (lines.map fun l => depth l.direction page l.base).Pairwise (· ≤ ·) ∧
        lines.Pairwise fun k l => 0 ≤ Scalar.toInt64 (rowsBetween page 5e-324 k l) := by
  obtain ⟨hdepths, hrows, _⟩ := depth_lines ⟨0.5, 0.25, 0.25⟩ farApart ⟨0.0, 0.0, 612.0, 792.0⟩
    (by decide +kernel) (by decide +kernel)
  have hheight : (0.0 : Float) < 5e-324 := by decide +kernel
  exact ⟨hheight, hdepths, (hrows 5e-324 hheight).imp fun h => h.2.1⟩

end Rendering
end Galley
