import Mathlib.Data.List.Forall2
import Mathlib.Data.List.Perm.Basic
import Galley.Proofs.Line.Baseline
import Galley.Proofs.Line.Repeats
import Galley.Proofs.Pool

/-!
This module contains what the lines of a pool are: each word belongs to one line, the lines follow
one another, and each of them keeps its words in order and without repetitions.
-/

namespace Galley

open Binary64

namespace Line

/-- Whether `a` stands before `b`, or at the same place and was drawn no later. -/
def InOrder (a b : Word Float) : Prop :=
  Scalar.order a.start b.start = .lt ∨
    (Scalar.order a.start b.start = .eq ∧ a.order ≤ b.order)

theorem inOrder_of_standsBefore {a b : Word Float} (h : standsBefore a b = true)
    : InOrder a b := by
  unfold standsBefore at h
  unfold InOrder
  split at h
  next horder => exact .inl horder
  next horder => exact .inr ⟨horder, of_decide_eq_true h⟩
  next horder => contradiction

/-- A line and the words it was made of, those that it dropped included. -/
structure Gathers (options : LineOptions Float) (direction : Direction)
    (assigned : List (Word Float)) (l : Line Float) : Prop where
  words_ne_nil : l.words ≠ []
  direction : l.direction = direction
  base : ∃ w ∈ assigned, w.base = l.base
  distance : ∃ v ∈ assigned, (∀ w ∈ assigned, w.size ≤ v.size) ∧
    ∀ w ∈ assigned, Scalar.abs (w.base - l.base) ≤ options.tolerance * v.size
  assigned_sorted : assigned.Pairwise InOrder
  words_sorted : l.words.Pairwise InOrder
  drops : DropsRepeats options assigned l.words

theorem Group.Tight.exists_largest {tolerance : Float} (ht : tolerance.isFinite = true)
    (hpos : 0 < rank tolerance) {g : Group Float} (h : g.Tight tolerance)
    : ∃ v ∈ g.words, (∀ w ∈ g.words, w.size ≤ v.size) ∧
        ∀ w ∈ g.words, Scalar.abs (w.base - g.base) ≤ tolerance * v.size := by
  obtain ⟨v, hv, hnumber, hrank⟩ := h.exists_size
  have hnonneg := h.size_nonneg
  refine ⟨v, hv, ?_, ?_⟩
  . intro w hw
    have hle := (le_iff _ _).mp (h.size_le w hw)
    rw [le_iff]
    exact ⟨hle.1, hnumber, by omega⟩
  . intro w hw
    have hle := (le_iff _ _).mp (h.distance w hw)
    have hproduct := isNumber_mul_of_nonneg ht hpos hnumber (by omega)
    have hgrows := rank_mul_le_mul_of_nonneg ht hpos h.isNumber_size hnonneg hnumber (by omega)
    rw [le_iff]
    exact ⟨hle.1, hproduct, Int.le_trans hle.2.2 hgrows⟩

theorem gathers_ofGroup? {options : LineOptions Float} {direction : Direction} {g : Group Float}
    {l : Line Float} (ht : options.tolerance.isFinite = true) (hpos : 0 < rank options.tolerance)
    (hg : g.Tight options.tolerance) (hedges : ∀ w ∈ g.words, ∀ e ∈ w.edges, e.isFinite = true)
    (h : ofGroup? options direction g = some l) : Gathers options direction g.sorted l := by
  rw [ofGroup?_eq] at h
  obtain ⟨hwords, hbase, hdirection, hne⟩ := words_of_ofWords? h
  have hmem : ∀ w, w ∈ g.sorted ↔ w ∈ g.words := fun w => g.sorted_perm.mem_iff
  have hsorted : g.sorted.Pairwise InOrder :=
    g.pairwise_sorted.imp fun h => inOrder_of_standsBefore h
  constructor
  . rw [hwords]
    exact hne
  . exact hdirection
  . obtain ⟨w, hw, hwbase⟩ := hg.exists_base
    exact ⟨w, (hmem w).mpr hw, by rw [hwbase, hbase]⟩
  . obtain ⟨v, hv, hlargest, hdistance⟩ := hg.exists_largest ht hpos
    refine ⟨v, (hmem v).mpr hv, ?_, ?_⟩
    . exact fun w hw => hlargest w ((hmem w).mp hw)
    . intro w hw
      rw [hbase]
      exact hdistance w ((hmem w).mp hw)
  . exact hsorted
  . rw [hwords]
    exact hsorted.sublist (dropRepeats_sublist options g.sorted)
  . rw [hwords]
    apply dropRepeats_dropsRepeats
    . exact fun w hw => hedges w ((hmem w).mp hw)
    . exact g.pairwise_sorted

theorem flatMap_sorted_perm (groups : List (Group Float))
    : (groups.flatMap Group.sorted).Perm (groups.flatMap Group.words) := by
  apply List.Perm.flatMap_left
  exact fun g _ => g.sorted_perm

theorem filterMap_ofGroup? {options : LineOptions Float} {direction : Direction}
    {groups : List (Group Float)} (hne : ∀ g ∈ groups, g.words ≠ [])
    : (groups.filterMap (ofGroup? options direction)).map Line.base = groups.map Group.base ∧
        List.Forall₂ (fun g l => ofGroup? options direction g = some l) groups
          (groups.filterMap (ofGroup? options direction)) := by
  induction groups with
  | nil => exact ⟨rfl, .nil⟩
  | cons g rest ih =>
    obtain ⟨l, hl⟩ := exists_ofGroup? options direction (hne g (by simp))
    obtain ⟨hbases, hall⟩ := ih fun h hh => hne h (by simp [hh])
    rw [List.filterMap_cons_some hl]
    constructor
    . have hbase := hl
      rw [ofGroup?_eq] at hbase
      rw [List.map_cons, List.map_cons, hbases, (words_of_ofWords? hbase).2.1]
    . exact .cons hl hall

section OfPool

variable {options : LineOptions Float} {words : List (Word Float)}
variable (ht : options.tolerance.isFinite = true) (hpos : 0 < rank options.tolerance)
variable (hplaced : ∀ w ∈ words, Placed w)
include ht hpos hplaced

theorem pairwise_base_ofPool (direction : Direction)
    : ((ofPool options direction words).map Line.base).Pairwise (Precedes direction) := by
  unfold ofPool
  have hsorted := List.pairwise_mergeSort (baseBefore_trans direction)
    (baseBefore_total direction) words
  rw [(filterMap_ofGroup? fun g hg => words_ne_nil_of_mem_groups hg).1, List.pairwise_map]
  apply pairwise_groups ht hpos
  . intro w hw
    exact hplaced w ((List.mergeSort_perm words _).mem_iff.mp hw)
  . exact hsorted.imp fun h => reaches_of_baseBefore h

theorem exists_gathers_ofPool (direction : Direction)
    (hedges : ∀ w ∈ words, ∀ e ∈ w.edges, e.isFinite = true)
    : ∃ assigned : List (List (Word Float)), assigned.flatten.Perm words ∧
        List.Forall₂ (Gathers options direction) assigned (ofPool options direction words) := by
  unfold ofPool
  generalize hgroups : groups options.tolerance (words.mergeSort (baseBefore direction)) = gs
  have hflat := flatMap_words_groups options.tolerance (words.mergeSort (baseBefore direction))
  rw [hgroups] at hflat
  have hmem : ∀ g ∈ gs, ∀ w ∈ g.words, w ∈ words := by
    intro g hg w hw
    rw [← (List.mergeSort_perm words (baseBefore direction)).mem_iff, ← hflat]
    exact List.mem_flatMap.mpr ⟨g, hg, hw⟩
  have hne : ∀ g ∈ gs, g.words ≠ [] := by
    rw [← hgroups]
    exact fun g hg => words_ne_nil_of_mem_groups hg
  refine ⟨gs.map Group.sorted, ?_, ?_⟩
  . rw [← List.flatMap_def]
    apply (flatMap_sorted_perm gs).trans
    rw [hflat]
    apply List.mergeSort_perm
  . have hgood : ∀ g ∈ gs, g.Tight options.tolerance ∧
        ∀ w ∈ g.words, ∀ e ∈ w.edges, e.isFinite = true := by
      intro g hg
      constructor
      . rw [← hgroups] at hg
        apply tight_of_mem_groups ht hpos _ hg
        intro w hw
        exact hplaced w ((List.mergeSort_perm words _).mem_iff.mp hw)
      . exact fun w hw => hedges w (hmem g hg w hw)
    have hlines := (@filterMap_ofGroup? options direction gs hne).2
    rw [List.forall₂_map_left_iff]
    apply ((List.forall₂_and_left _ _).mpr ⟨hgood, hlines⟩).imp
    rintro g l ⟨⟨htight, hfinite⟩, hline⟩
    exact gathers_ofGroup? ht hpos htight hfinite hline

end OfPool

end Line

namespace Pool

theorem lines_eq (options : LineOptions Float) (p : Pool Float)
    : ∃ words, words.Perm p.words ∧ p.lines options = Line.ofPool options p.direction words := by
  refine ⟨_, ?_, rfl⟩
  unfold words
  split
  . apply List.Perm.flatMap_right
    apply List.reverse_perm
  . exact .refl _

theorem lines_gather_words (direction : Direction) (bucketHeight : Float)
    (added : List (Word Float)) (options : LineOptions Float)
    (hbase : ∀ w ∈ added, w.base.isFinite = true)
    (hedges : ∀ w ∈ added, ∀ e ∈ w.edges, e.isFinite = true)
    (hsize : ∀ w ∈ added, 0.0 ≤ w.size)
    (htolerance : Scalar.isPositive options.tolerance = true)
    : let lines := (added.foldl add (empty direction bucketHeight)).lines options
      (lines.map Line.base).Pairwise (Line.Precedes direction) ∧
        ∃ assigned : List (List (Word Float)), assigned.flatten.Perm added ∧
          List.Forall₂ (Line.Gathers options direction) assigned lines := by
  intro lines
  obtain ⟨words, hperm, hlines⟩ := lines_eq options (added.foldl add (empty direction bucketHeight))
  have hadded : words.Perm added := by
    have hfold := words_foldl_add_perm (empty direction bucketHeight) added
    rw [show (empty direction bucketHeight).words = [] from rfl, List.append_nil] at hfold
    exact hperm.trans hfold
  have hmem : ∀ w ∈ words, w ∈ added := fun w hw => hadded.mem_iff.mp hw
  rw [direction_foldl_add] at hlines
  change lines = Line.ofPool options direction words at hlines
  obtain ⟨ht, hpos⟩ := (isPositive_iff _).mp htolerance
  have hplaced : ∀ w ∈ words, Line.Placed w := by
    intro w hw
    have hle := (le_iff _ _).mp (hsize w (hmem w hw))
    rw [rank_zero] at hle
    exact ⟨hbase w (hmem w hw), hle.2.1, hle.2.2⟩
  rw [hlines]
  constructor
  . exact Line.pairwise_base_ofPool ht hpos hplaced direction
  . obtain ⟨assigned, hflat, hall⟩ := Line.exists_gathers_ofPool ht hpos hplaced direction
      fun w hw => hedges w (hmem w hw)
    exact ⟨assigned, hflat.trans hadded, hall⟩

/-- A word in bold, which is a word that is drawn twice. -/
def drawnTwice : List (Word Float) :=
  let w : Word Float :=
    ⟨"a", [], ⟨0.0, 7.0, 5.0, 19.0⟩, 10.0, 12.0, .right, .horizontal, [0.0, 5.0], 0⟩
  [w, { w with edges := [0.5, 5.5], order := 1 }]

theorem lines_gather_drawnTwice
    : let lines := (drawnTwice.foldl add (empty .right 2.0)).lines ⟨0.5, 0.25, 0.25⟩
      (lines.map Line.base).Pairwise (Line.Precedes .right) ∧
        ∃ assigned : List (List (Word Float)), assigned.flatten.Perm drawnTwice ∧
          List.Forall₂ (Line.Gathers ⟨0.5, 0.25, 0.25⟩ .right) assigned lines :=
  lines_gather_words .right 2.0 drawnTwice ⟨0.5, 0.25, 0.25⟩ (by decide +kernel)
    (by decide +kernel) (by decide +kernel) (by decide +kernel)

end Pool
end Galley
