import Galley.Regex.Pattern

/-!
This module contains where matches may lie: a match ends within the text and not before it begins,
and all matches of a pattern follow one another from left to right.
-/

namespace Galley.Regex

theorem Found.mem_add {f : Found} {pos q : Nat} (h : q ∈ (f.add pos).positions)
    : q = pos ∨ q ∈ f.positions := by
  unfold add at h
  split at h
  . exact .inr h
  . exact List.mem_cons.mp h

/-- All positions that were found lie between these two. -/
def Found.Within (low high : Nat) (f : Found) : Prop := ∀ q ∈ f.positions, low ≤ q ∧ q ≤ high

section Within

variable {low high : Nat}

theorem Found.within_empty : Found.empty.Within low high := by
  intro q h
  contradiction

theorem Found.Within.add {f : Found} (h : f.Within low high) {pos : Nat} (hlow : low ≤ pos)
    (hhigh : pos ≤ high) : (f.add pos).Within low high := by
  intro q hq
  rcases Found.mem_add hq with rfl | hq
  . exact ⟨hlow, hhigh⟩
  . exact h q hq

theorem Found.Within.list {f : Found} (h : f.Within low high) {q : Nat} (hq : q ∈ f.list)
    : low ≤ q ∧ q ≤ high := by
  apply h
  unfold Found.list at hq
  rw [List.mem_reverse] at hq
  exact hq

theorem mem_of_mem_keepFirst {positions : List Nat} {q : Nat} (h : q ∈ keepFirst positions)
    : q ∈ positions := by
  have hfold : ∀ f : Found, q ∈ (positions.foldl Found.add f).positions →
      q ∈ f.positions ∨ q ∈ positions := by
    clear h
    induction positions with
    | nil => exact fun f h => .inl h
    | cons pos rest ih =>
      intro f h
      rw [List.mem_cons]
      rcases ih _ h with hadd | hrest
      . rcases Found.mem_add hadd with rfl | hq
        . exact .inr (.inl rfl)
        . exact .inl hq
      . exact .inr (.inr hrest)
  unfold keepFirst Found.list at h
  rw [List.mem_reverse] at h
  rcases hfold _ h with hq | hq
  . contradiction
  . exact hq

variable {step : Nat → List Nat}

/-- A step from a position leads no further back and not beyond the end. -/
def Advances (high : Nat) (step : Nat → List Nat) : Prop :=
  ∀ pos ≤ high, ∀ next ∈ step pos, pos ≤ next ∧ next ≤ high

variable (hstep : Advances high step)
include hstep

theorem within_iterate (greedy : Bool) (fuel : Nat) {pos : Nat} {found : Found}
    (hlow : low ≤ pos) (hhigh : pos ≤ high) (h : found.Within low high)
    : (iterate step greedy fuel pos found).Within low high := by
  induction fuel generalizing pos found with
  | zero => exact h.add hlow hhigh
  | succ fuel ih =>
    have honward : ∀ f : Found, f.Within low high → Found.Within low high
        ((step pos).foldl (fun found next =>
          if next ≤ pos then found else iterate step greedy fuel next found) f) := by
      intro f hf
      refine List.foldlRecOn (step pos) _ hf ?_
      intro f hf next hnext
      split
      . exact hf
      . have hbounds := hstep pos hhigh next hnext
        exact ih (Nat.le_trans hlow hbounds.1) hbounds.2 hf
    unfold iterate
    split
    . exact h
    . split
      . exact (honward found h).add hlow hhigh
      . exact honward _ (h.add hlow hhigh)

theorem advances_atLeastOnce (greedy : Bool) (fuel : Nat)
    : Advances high (atLeastOnce step greedy fuel) := by
  intro pos hpos q hq
  refine Found.Within.list ?_ hq
  refine List.foldlRecOn (step pos) _ Found.within_empty ?_
  intro f hf next hnext
  split
  . exact hf.add (Nat.le_refl pos) hpos
  . have hbounds := hstep pos hpos next hnext
    exact within_iterate hstep greedy fuel hbounds.1 hbounds.2 hf

omit hstep in
theorem Advances.flatMap {first second : Nat → List Nat} (hfirst : Advances high first)
    (hsecond : Advances high second)
    : Advances high fun pos => (first pos).flatMap second := by
  intro pos hpos q hq
  obtain ⟨next, hnext, hq⟩ := List.mem_flatMap.mp hq
  have hfirst := hfirst pos hpos next hnext
  have hsecond := hsecond next hfirst.2 q hq
  exact ⟨Nat.le_trans hfirst.1 hsecond.1, hsecond.2⟩

omit hstep in
theorem Advances.keepFirst (hstep : Advances high step)
    : Advances high fun pos => Regex.keepFirst (step pos) := by
  intro pos hpos q hq
  exact hstep pos hpos q (mem_of_mem_keepFirst hq)

omit hstep in
theorem advances_stay : Advances high fun pos => [pos] := by
  intro pos hpos q hq
  rw [List.mem_singleton.mp hq]
  exact ⟨Nat.le_refl pos, hpos⟩

omit hstep in
theorem Advances.append {first second : Nat → List Nat} (hfirst : Advances high first)
    (hsecond : Advances high second) : Advances high fun pos => first pos ++ second pos := by
  intro pos hpos q hq
  rcases List.mem_append.mp hq with hq | hq
  . exact hfirst pos hpos q hq
  . exact hsecond pos hpos q hq

theorem advances_times (n : Nat) : Advances high (times step n) := by
  induction n with
  | zero => exact advances_stay
  | succ n ih => exact (hstep.flatMap ih).keepFirst

theorem advances_atMost (greedy : Bool) (n : Nat) : Advances high (atMost step greedy n) := by
  induction n with
  | zero => exact advances_stay
  | succ n ih =>
    have hmore := hstep.flatMap ih
    cases greedy with
    | true => exact (hmore.append advances_stay).keepFirst
    | false => exact (advances_stay.append hmore).keepFirst

end Within

namespace Pattern

/-- A match ends within the text and not before it begins. -/
theorem advances_ends (text : Array Char) (p : Pattern) : Advances text.size (p.ends text) := by
  induction p with
  | empty => exact advances_stay
  | set s =>
    intro pos hpos q hq
    unfold ends at hq
    split at hq
    . next c hc =>
      split at hq
      . obtain ⟨hlt, _⟩ := Array.getElem?_eq_some_iff.mp hc
        rw [List.mem_singleton.mp hq]
        exact ⟨Nat.le_succ pos, hlt⟩
      . contradiction
    . contradiction
  | assert a =>
    intro pos hpos q hq
    unfold ends at hq
    split at hq
    . exact advances_stay pos hpos q hq
    . contradiction
  | cat p q hp hq => exact (hp.flatMap hq).keepFirst
  | alt p q hp hq => exact (hp.append hq).keepFirst
  | repeated p min max greedy hp =>
    have hmore := advances_atLeastOnce hp greedy (text.size + 1)
    cases max with
    | some max =>
      exact ((advances_times hp min).flatMap (advances_atMost hp greedy (max - min))).keepFirst
    | none =>
      cases min with
      | zero =>
        cases greedy with
        | true => exact (hmore.append advances_stay).keepFirst
        | false => exact (advances_stay.append hmore).keepFirst
      | succ before => exact ((advances_times hp before).flatMap hmore).keepFirst

section Find

variable {text : Array Char} {p : Pattern} {start first stop : Nat}

theorem find?_eq_none_iff
    : p.find? text start = none ↔ ∀ pos, start ≤ pos → pos ≤ text.size → p.ends text pos = [] := by
  unfold find?
  simp only [List.findSome?_eq_none_iff, List.mem_range'_1, Option.map_eq_none_iff,
    List.head?_eq_none_iff]
  constructor
  . intro h pos hstart hsize
    exact h pos (by omega)
  . intro h pos hpos
    exact h pos (by omega) (by omega)

theorem find?_of_ends_eq_nil (h : p.ends text start = []) (hstart : start ≤ text.size)
    : p.find? text start = p.find? text (start + 1) := by
  unfold find?
  rw [show text.size + 1 - start = text.size - start + 1 by omega,
    show text.size + 1 - (start + 1) = text.size - start by omega, List.range'_succ,
    List.findSome?_cons, h]
  rfl

theorem find?_of_head?_ends (h : (p.ends text start).head? = some stop)
    (hstart : start ≤ text.size) : p.find? text start = some (start, stop) := by
  unfold find?
  rw [show text.size + 1 - start = text.size - start + 1 by omega, List.range'_succ,
    List.findSome?_cons, h]
  rfl

theorem bounds_of_find? (h : p.find? text start = some (first, stop))
    : start ≤ first ∧ first ≤ stop ∧ stop ≤ text.size ∧ (p.ends text first).head? = some stop := by
  unfold find? at h
  obtain ⟨pos, hpos, hfound⟩ := List.exists_of_findSome?_eq_some h
  obtain ⟨_, hhead, hpair⟩ := Option.map_eq_some_iff.mp hfound
  obtain ⟨rfl, rfl⟩ := Prod.mk.inj hpair
  rw [List.mem_range'_1] at hpos
  have hends := advances_ends text p pos (by omega) _ (List.mem_of_head? hhead)
  exact ⟨hpos.1, hends.1, hends.2, hhead⟩

end Find

/-- Matches from left to right, none of which overlaps another. -/
structure InOrder (size : Nat) (spans : List (Nat × Nat)) : Prop where
  bounded : ∀ s ∈ spans, s.1 ≤ s.2 ∧ s.2 ≤ size
  increasing : spans.Pairwise fun s t => s.2 ≤ t.1 ∧ s.1 < t.1

namespace findAll

variable (p : Pattern) (text : Array Char)

theorem bounds_of_mem_go {fuel start : Nat} {last : Option Nat} {s : Nat × Nat}
    (h : s ∈ go p text fuel start last) : start ≤ s.1 ∧ s.1 ≤ s.2 ∧ s.2 ≤ text.size := by
  induction fuel generalizing start last with
  | zero => contradiction
  | succ fuel ih =>
    unfold go at h
    split at h
    . contradiction
    . next first stop hfind =>
      have hbounds := bounds_of_find? hfind
      split at h
      . have hs := ih h
        omega
      . rcases List.mem_cons.mp h with rfl | h
        . exact ⟨hbounds.1, hbounds.2.1, hbounds.2.2.1⟩
        . have hs := ih h
          omega

/-- Behind an empty match the next one begins further on. -/
theorem lt_of_mem_go {fuel start : Nat} (hends : (p.ends text start).head? = some start)
    {s : Nat × Nat} (h : s ∈ go p text fuel start (some start)) : start < s.1 := by
  cases fuel with
  | zero => contradiction
  | succ fuel =>
    unfold go at h
    split at h
    . contradiction
    . next first stop hfind =>
      obtain ⟨hfirst, hstop, _, hhead⟩ := bounds_of_find? hfind
      split at h
      . have hs := bounds_of_mem_go p text h
        omega
      . next hmoved =>
        have hlt : start < first := by
          apply Nat.lt_of_le_of_ne hfirst
          rintro rfl
          rw [hends, Option.some_inj] at hhead
          exact hmoved ⟨hhead, congrArg some hhead⟩
        rcases List.mem_cons.mp h with rfl | h
        . exact hlt
        . have hs := bounds_of_mem_go p text h
          omega

theorem pairwise_go (fuel start : Nat) (last : Option Nat)
    : (go p text fuel start last).Pairwise fun s t => s.2 ≤ t.1 ∧ s.1 < t.1 := by
  induction fuel generalizing start last with
  | zero => exact .nil
  | succ fuel ih =>
    unfold go
    split
    . exact .nil
    . next first stop hfind =>
      obtain ⟨_, hstop, _, hhead⟩ := bounds_of_find? hfind
      split
      . apply ih
      . refine List.pairwise_cons.mpr ⟨?_, ih _ _⟩
        intro t ht
        have hbounds := bounds_of_mem_go p text ht
        refine ⟨hbounds.1, ?_⟩
        by_cases hempty : first = stop
        . subst hempty
          exact lt_of_mem_go p text hhead ht
        . dsimp only
          omega

end findAll

theorem inOrder_findAll (p : Pattern) (text : Array Char)
    : InOrder text.size (p.findAll text) where
  bounded _ h := (findAll.bounds_of_mem_go p text h).2
  increasing := findAll.pairwise_go p text _ _ _

end Pattern
end Galley.Regex
