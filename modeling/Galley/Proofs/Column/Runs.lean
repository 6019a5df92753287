import Mathlib.Order.Interval.Set.OrdConnected
import Galley.Proofs.Real.Scalar
import Galley.Column

/-!
This module contains the runs that sorted spans are united to. The runs cover what the spans cover,
and the openings in what is covered are exactly the bands between neighbouring runs.
-/

namespace Galley

/-- What spans cover, ends included. -/
def coverage (spans : List (ℝ × ℝ)) : Set ℝ := {x | ∃ s ∈ spans, s.1 ≤ x ∧ x ≤ s.2}

/-- An interval that a set does not meet. -/
def IsClear (covered J : Set ℝ) : Prop := J.OrdConnected ∧ ∀ x ∈ J, x ∉ covered

/-- A bounded interval that a set does not meet and that no longer one contains. -/
structure IsOpening (covered J : Set ℝ) : Prop where
  nonempty : J.Nonempty
  below : BddBelow J
  above : BddAbove J
  maximal : Maximal (IsClear covered) J

section Clear

variable {covered J K : Set ℝ} {x a b : ℝ}

theorem ordConnected_union (hJ : J.OrdConnected) (hK : K.OrdConnected) (hxJ : x ∈ J) (hxK : x ∈ K)
    : (J ∪ K).OrdConnected := by
  refine ⟨?_⟩
  rintro y hy z hz t ⟨hyt, htz⟩
  rcases le_total t x with htx | hxt
  . rcases hy with hy | hy
    . exact .inl (hJ.out hy hxJ ⟨hyt, htx⟩)
    . exact .inr (hK.out hy hxK ⟨hyt, htx⟩)
  . rcases hz with hz | hz
    . exact .inl (hJ.out hxJ hz ⟨hxt, htz⟩)
    . exact .inr (hK.out hxK hz ⟨hxt, htz⟩)

theorem IsClear.union (hJ : IsClear covered J) (hK : IsClear covered K) (hxJ : x ∈ J)
    (hxK : x ∈ K) : IsClear covered (J ∪ K) :=
  ⟨ordConnected_union hJ.1 hK.1 hxJ hxK, fun y hy => hy.elim (hJ.2 y) (hK.2 y)⟩

theorem IsOpening.subset_of_isClear (hJ : IsOpening covered J) (hK : IsClear covered K)
    (hxJ : x ∈ J) (hxK : x ∈ K) : K ⊆ J := by
  have hunion := hJ.maximal.2 (hJ.maximal.1.union hK hxJ hxK) Set.subset_union_left
  exact Set.subset_union_right.trans hunion

/-- An interval cannot get past a covered point. -/
theorem IsClear.subset_Ioo (hJ : IsClear covered J) (ha : a ∈ covered) (hb : b ∈ covered)
    (hx : x ∈ J) (hax : a < x) (hxb : x < b) : J ⊆ Set.Ioo a b := by
  intro y hy
  constructor
  . by_contra hle
    exact hJ.2 a (hJ.1.out hy hx ⟨not_lt.mp hle, hax.le⟩) ha
  . by_contra hle
    exact hJ.2 b (hJ.1.out hx hy ⟨hxb.le, not_lt.mp hle⟩) hb

theorem isOpening_Ioo (hab : a < b) (ha : a ∈ covered) (hb : b ∈ covered)
    (hclear : IsClear covered (Set.Ioo a b)) : IsOpening covered (Set.Ioo a b) where
  nonempty := Set.nonempty_Ioo.mpr hab
  below := bddBelow_Ioo
  above := bddAbove_Ioo
  maximal := by
    refine ⟨hclear, ?_⟩
    intro J hJ hsubset
    obtain ⟨x, hx⟩ := Set.nonempty_Ioo.mpr hab
    exact hJ.subset_Ioo ha hb (hsubset hx) hx.1 hx.2

end Clear

/-- Spans in order that do not touch one another, and which cover what other spans do. -/
structure Unites (spans runs : List (ℝ × ℝ)) : Prop where
  apart : runs.Pairwise fun a b => a.2 < b.1
  proper : ∀ r ∈ runs, r.1 ≤ r.2
  covers : coverage runs = coverage spans
  starts : ∀ r ∈ runs, ∃ s ∈ spans, s.1 = r.1
  stops : ∀ r ∈ runs, ∃ s ∈ spans, s.2 = r.2

theorem mem_coverage {spans : List (ℝ × ℝ)} {x : ℝ}
    : x ∈ coverage spans ↔ ∃ s ∈ spans, s.1 ≤ x ∧ x ≤ s.2 := by
  rfl

theorem coverage_cons (s : ℝ × ℝ) (spans : List (ℝ × ℝ))
    : coverage (s :: spans) = Set.Icc s.1 s.2 ∪ coverage spans := by
  ext x
  simp [coverage]

/-- Two spans of which the second begins within the first are one longer span. -/
theorem Icc_union_of_touching {r s : ℝ × ℝ} (hr : r.1 ≤ s.1) (htouch : s.1 ≤ r.2)
    : Set.Icc r.1 (max r.2 s.2) = Set.Icc r.1 r.2 ∪ Set.Icc s.1 s.2 := by
  ext x
  simp only [Set.mem_Icc, Set.mem_union, le_max_iff]
  constructor
  . rintro ⟨hlow, hhigh | hhigh⟩
    . exact .inl ⟨hlow, hhigh⟩
    . rcases le_total x r.2 with hle | hle
      . exact .inl ⟨hlow, hle⟩
      . exact .inr ⟨htouch.trans hle, hhigh⟩
  . rintro (⟨hlow, hhigh⟩ | ⟨hlow, hhigh⟩)
    . exact ⟨hlow, .inl hhigh⟩
    . exact ⟨hr.trans hlow, .inr hhigh⟩

namespace Unites

variable {r s : ℝ × ℝ} {rest runs : List (ℝ × ℝ)}

theorem nil : Unites [] [] where
  apart := .nil
  proper := by simp
  covers := rfl
  starts := by simp
  stops := by simp

theorem singleton (hproper : r.1 ≤ r.2) : Unites [r] [r] where
  apart := List.pairwise_singleton ..
  proper := by simpa using hproper
  covers := rfl
  starts := fun r hr => ⟨r, hr, rfl⟩
  stops := fun r hr => ⟨r, hr, rfl⟩

theorem of_touching (h : Unites ((r.1, max r.2 s.2) :: rest) runs) (hr : r.1 ≤ s.1)
    (htouch : s.1 ≤ r.2) : Unites (r :: s :: rest) runs where
  apart := h.apart
  proper := h.proper
  covers := by
    rw [h.covers, coverage_cons, coverage_cons, coverage_cons, ← Set.union_assoc,
      ← Icc_union_of_touching hr htouch]
  starts := by
    intro run hrun
    obtain ⟨t, ht, heq⟩ := h.starts run hrun
    rcases List.mem_cons.mp ht with ht | ht
    . exact ⟨r, by simp, by rw [← heq, ht]⟩
    . exact ⟨t, by simp [ht], heq⟩
  stops := by
    intro run hrun
    obtain ⟨t, ht, heq⟩ := h.stops run hrun
    rcases List.mem_cons.mp ht with ht | ht
    . rcases max_choice r.2 s.2 with hmax | hmax
      . exact ⟨r, by simp, by rw [← heq, ht, hmax]⟩
      . exact ⟨s, by simp, by rw [← heq, ht, hmax]⟩
    . exact ⟨t, by simp [ht], heq⟩

theorem of_apart (h : Unites (s :: rest) runs) (hproper : r.1 ≤ r.2)
    (hbefore : ∀ t ∈ s :: rest, r.2 < t.1) : Unites (r :: s :: rest) (r :: runs) where
  apart := by
    refine List.pairwise_cons.mpr ⟨?_, h.apart⟩
    intro run hrun
    obtain ⟨t, ht, heq⟩ := h.starts run hrun
    rw [← heq]
    exact hbefore t ht
  proper := List.forall_mem_cons.mpr ⟨hproper, h.proper⟩
  covers := by rw [coverage_cons, coverage_cons r, h.covers]
  starts := by
    intro run hrun
    rcases List.mem_cons.mp hrun with hrun | hrun
    . exact ⟨r, by simp, by rw [hrun]⟩
    . obtain ⟨t, ht, heq⟩ := h.starts run hrun
      exact ⟨t, List.mem_cons_of_mem r ht, heq⟩
  stops := by
    intro run hrun
    rcases List.mem_cons.mp hrun with hrun | hrun
    . exact ⟨r, by simp, by rw [hrun]⟩
    . obtain ⟨t, ht, heq⟩ := h.stops run hrun
      exact ⟨t, List.mem_cons_of_mem r ht, heq⟩

end Unites

theorem unites_go {run : ℝ × ℝ} {rest : List (ℝ × ℝ)} (hproper : ∀ s ∈ run :: rest, s.1 ≤ s.2)
    (hsorted : (run :: rest).Pairwise fun a b => a.1 ≤ b.1)
    : Unites (run :: rest) (ColumnOptions.runs.go run rest) := by
  induction rest generalizing run with
  | nil => exact .singleton (hproper run (by simp))
  | cons s rest ih =>
    obtain ⟨hrun, hrest⟩ := List.pairwise_cons.mp hsorted
    rw [List.forall_mem_cons] at hproper
    unfold ColumnOptions.runs.go
    by_cases htouch : s.1 ≤ run.2
    . rw [if_pos htouch, Scalar.greatest_real]
      apply Unites.of_touching _ (hrun s (by simp)) htouch
      apply ih
      . refine List.forall_mem_cons.mpr ⟨le_max_of_le_left hproper.1, ?_⟩
        exact fun t ht => hproper.2 t (by simp [ht])
      . refine List.pairwise_cons.mpr ⟨?_, (List.pairwise_cons.mp hrest).2⟩
        exact fun t ht => hrun t (by simp [ht])
    . rw [if_neg htouch]
      apply (ih hproper.2 hrest).of_apart hproper.1
      intro t ht
      apply (not_le.mp htouch).trans_le
      rcases List.mem_cons.mp ht with ht | ht
      . rw [ht]
      . exact (List.pairwise_cons.mp hrest).1 t ht

theorem unites_runs {spans : List (ℝ × ℝ)} (hproper : ∀ s ∈ spans, s.1 ≤ s.2)
    (hsorted : spans.Pairwise fun a b => a.1 ≤ b.1) : Unites spans (ColumnOptions.runs spans) := by
  cases spans with
  | nil => exact .nil
  | cons s rest => exact unites_go hproper hsorted

theorem pairwise_mergeSort_spanBefore (spans : List (ℝ × ℝ))
    : (spans.mergeSort ColumnOptions.spanBefore).Pairwise fun a b => a.1 ≤ b.1 := by
  have hsorted := Scalar.pairwise_mergeSort_of_key toLex Scalar.order_lexicographic spans
  apply hsorted.imp
  intro a b hab
  rcases Prod.Lex.toLex_le_toLex.mp hab with hlt | ⟨heq, _⟩
  . exact hlt.le
  . exact heq.le

theorem Unites.of_perm {spans spans' runs : List (ℝ × ℝ)} (h : Unites spans runs)
    (hperm : spans.Perm spans') : Unites spans' runs where
  apart := h.apart
  proper := h.proper
  covers := by
    rw [h.covers]
    ext x
    simp only [mem_coverage, hperm.mem_iff]
  starts := by simpa only [hperm.mem_iff] using h.starts
  stops := by simpa only [hperm.mem_iff] using h.stops

theorem unites_runs_mergeSort {spans : List (ℝ × ℝ)} (hproper : ∀ s ∈ spans, s.1 ≤ s.2)
    : Unites spans (ColumnOptions.runs (spans.mergeSort ColumnOptions.spanBefore)) := by
  have hperm := List.mergeSort_perm spans ColumnOptions.spanBefore
  apply (unites_runs _ (pairwise_mergeSort_spanBefore spans)).of_perm hperm
  intro s hs
  exact hproper s (hperm.mem_iff.mp hs)

namespace Unites

variable {spans runs : List (ℝ × ℝ)} (h : Unites spans runs)
include h

theorem fst_mem_coverage {r : ℝ × ℝ} (hr : r ∈ runs) : r.1 ∈ coverage spans := by
  rw [← h.covers]
  exact ⟨r, hr, le_rfl, h.proper r hr⟩

theorem snd_mem_coverage {r : ℝ × ℝ} (hr : r ∈ runs) : r.2 ∈ coverage spans := by
  rw [← h.covers]
  exact ⟨r, hr, h.proper r hr, le_rfl⟩

theorem lt_of_infix {a b : ℝ × ℝ} (hab : [a, b] <:+: runs) : a.2 < b.1 := by
  have hapart := h.apart.sublist hab.sublist
  exact (List.pairwise_cons.mp hapart).1 b (by simp)

theorem outside_of_infix {a b r : ℝ × ℝ} (hab : [a, b] <:+: runs) (hr : r ∈ runs)
    : r.2 ≤ a.2 ∨ b.1 ≤ r.1 := by
  have ha := h.proper a (hab.subset (by simp))
  have hb := h.proper b (hab.subset (by simp))
  obtain ⟨before, behind, rfl⟩ := hab
  obtain ⟨hpair, _, hbehind⟩ := List.pairwise_append.mp h.apart
  obtain ⟨_, _, hbefore⟩ := List.pairwise_append.mp hpair
  simp only [List.mem_append, List.mem_cons, List.not_mem_nil, or_false] at hr
  rcases hr with (hr | rfl | rfl) | hr
  . exact .inl ((hbefore r hr a (by simp)).le.trans ha)
  . exact .inl le_rfl
  . exact .inr le_rfl
  . exact .inr (hb.trans (hbehind b (by simp) r hr).le)

theorem isClear_iff {J : Set ℝ}
    : IsClear (coverage spans) J ↔ J.OrdConnected ∧ ∀ x ∈ J, ∀ r ∈ runs, ¬ (r.1 ≤ x ∧ x ≤ r.2) := by
  unfold IsClear
  rw [← h.covers]
  simp only [mem_coverage, not_exists, not_and]

theorem isOpening_of_infix {a b : ℝ × ℝ} (hab : [a, b] <:+: runs)
    : IsOpening (coverage spans) (Set.Ioo a.2 b.1) := by
  have ha := h.snd_mem_coverage (hab.subset (List.mem_cons_self ..))
  have hb := h.fst_mem_coverage (hab.subset (List.mem_cons_of_mem a (List.mem_cons_self ..)))
  apply isOpening_Ioo (h.lt_of_infix hab) ha hb
  rw [h.isClear_iff]
  refine ⟨Set.ordConnected_Ioo, ?_⟩
  rintro x ⟨hax, hxb⟩ r hr ⟨hlow, hhigh⟩
  rcases h.outside_of_infix hab hr with hout | hout
  . exact absurd (hhigh.trans hout) hax.not_ge
  . exact absurd (hout.trans hlow) hxb.not_ge

/-- A point that no run covers is to the left of all, to the right of all, or between two. -/
theorem locate {x : ℝ} (hx : x ∉ coverage runs)
    : (∀ r ∈ runs, x < r.1) ∨ (∀ r ∈ runs, r.2 < x) ∨
        ∃ a b, [a, b] <:+: runs ∧ a.2 < x ∧ x < b.1 := by
  have hapart := h.apart
  have hproper := h.proper
  clear h
  induction runs with
  | nil => exact .inl (by simp)
  | cons r rest ih =>
    rw [coverage_cons, Set.mem_union, not_or, Set.mem_Icc, not_and_or, not_le, not_le] at hx
    obtain ⟨hr, hrest⟩ := hx
    obtain ⟨hbefore, hapart⟩ := List.pairwise_cons.mp hapart
    rw [List.forall_mem_cons] at hproper
    rcases hr with hr | hr
    . left
      refine List.forall_mem_cons.mpr ⟨hr, ?_⟩
      exact fun t ht => hr.trans_le (hproper.1.trans (hbefore t ht).le)
    . right
      rcases ih hrest hapart hproper.2 with hleft | hright | ⟨a, b, hab, hax, hxb⟩
      . cases rest with
        | nil => exact .inl (by simpa using hr)
        | cons t rest => exact .inr ⟨r, t, ⟨[], rest, rfl⟩, hr, hleft t (by simp)⟩
      . exact .inl (List.forall_mem_cons.mpr ⟨hr, hright⟩)
      . exact .inr ⟨a, b, List.infix_cons hab, hax, hxb⟩

theorem exists_infix_of_isOpening {J : Set ℝ} (hJ : IsOpening (coverage spans) J)
    : ∃ a b, [a, b] <:+: runs ∧ J = Set.Ioo a.2 b.1 := by
  obtain ⟨x, hx⟩ := hJ.nonempty
  have hclear : x ∉ coverage runs := by
    rw [h.covers]
    exact hJ.maximal.1.2 x hx
  rcases h.locate hclear with hleft | hright | ⟨a, b, hab, hax, hxb⟩
  . -- nothing to the left of the point is covered, so the interval has no bound there
    have hfree : IsClear (coverage spans) (Set.Iic x) := by
      rw [h.isClear_iff]
      refine ⟨Set.ordConnected_Iic, ?_⟩
      rintro y hy r hr ⟨hlow, _⟩
      exact absurd (hlow.trans hy) (hleft r hr).not_ge
    have hsubset := hJ.subset_of_isClear hfree hx Set.self_mem_Iic
    exact absurd (hJ.below.mono hsubset) (not_bddBelow_Iic x)
  . have hfree : IsClear (coverage spans) (Set.Ici x) := by
      rw [h.isClear_iff]
      refine ⟨Set.ordConnected_Ici, ?_⟩
      rintro y hy r hr ⟨_, hhigh⟩
      exact absurd (le_trans hy hhigh) (hright r hr).not_ge
    have hsubset := hJ.subset_of_isClear hfree hx Set.self_mem_Ici
    exact absurd (hJ.above.mono hsubset) (not_bddAbove_Ici x)
  . refine ⟨a, b, hab, ?_⟩
    have hopening := h.isOpening_of_infix hab
    apply Set.Subset.antisymm
    . exact hopening.subset_of_isClear hJ.maximal.1 ⟨hax, hxb⟩ hx
    . exact hJ.subset_of_isClear hopening.maximal.1 hx ⟨hax, hxb⟩

end Unites

end Galley
