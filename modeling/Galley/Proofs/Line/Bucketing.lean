import Mathlib.Data.List.Sort
import Galley.Proofs.Binary64.Negation
import Galley.Proofs.Line.Baseline
import Galley.Proofs.Pool

/-!
This module contains the lines of a pool without its buckets: words at one baseline share a bucket,
where they stay as they were added, and the sort by baselines that makes the lines is stable.
-/

namespace Galley

section Stable

variable {β : Type} {key : β → Int}

/-- Whether the key of `a` is no larger than that of `b`. -/
def atMost (key : β → Int) (a b : β) : Bool := decide (key a ≤ key b)

theorem atMost_trans (key : β → Int) (a b c : β) (hab : atMost key a b = true)
    (hbc : atMost key b c = true) : atMost key a c = true := by
  unfold atMost at *
  rw [decide_eq_true_iff] at *
  omega

theorem atMost_total (key : β → Int) (a b : β) : (atMost key a b || atMost key b a) = true := by
  unfold atMost
  rw [Bool.or_eq_true, decide_eq_true_iff, decide_eq_true_iff]
  omega

theorem filter_mergeSort (key : β → Int) (xs : List β) (k : Int)
    : (xs.mergeSort (atMost key)).filter (fun a => decide (key a = k)) =
        xs.filter fun a => decide (key a = k) := by
  have hties : (xs.filter fun a => decide (key a = k)).Pairwise
      (fun a b => atMost key a b = true) := by
    unfold atMost
    simp only [List.pairwise_filter, decide_eq_true_iff]
    apply List.pairwise_of_forall
    intro a b ha hb
    omega
  have hsub := (List.sublist_mergeSort (atMost_trans key) (atMost_total key) hties
    List.filter_sublist).filter fun a => decide (key a = k)
  rw [List.filter_filter] at hsub
  simp only [Bool.and_self] at hsub
  have hperm := (List.mergeSort_perm xs (atMost key)).filter fun a => decide (key a = k)
  exact (hsub.eq_of_length hperm.length_eq.symm).symm

theorem key_head_le {x y : β} {xs ys : List β} (hx : ∀ a ∈ xs, key x ≤ key a)
    (h : (y :: ys).filter (fun a => decide (key a = key y)) =
      (x :: xs).filter fun a => decide (key a = key y)) : key x ≤ key y := by
  have hmem : y ∈ (x :: xs).filter fun a => decide (key a = key y) := by
    rw [← h]
    simp
  rw [List.mem_filter, List.mem_cons] at hmem
  rcases hmem.1 with heq | hrest
  . rw [heq]
  . exact hx y hrest

/-- A sorted list is known by the elements that it has for each key, in their order. -/
theorem eq_of_filter_key {xs ys : List β} (hx : xs.Pairwise fun a b => key a ≤ key b)
    (hy : ys.Pairwise fun a b => key a ≤ key b)
    (h : ∀ k, xs.filter (fun a => decide (key a = k)) = ys.filter fun a => decide (key a = k))
    : xs = ys := by
  -- the heads share the least key, so both stand first among the elements of that key
  induction xs generalizing ys with
  | nil =>
    cases ys with
    | nil => rfl
    | cons y ys => simpa using h (key y)
  | cons x xs ih =>
    cases ys with
    | nil => simpa using h (key x)
    | cons y ys =>
      rw [List.pairwise_cons] at hx hy
      have hle := key_head_le hx.1 (h (key y)).symm
      have hge := key_head_le hy.1 (h (key x))
      have hkey : key y = key x := by omega
      have hhead := h (key x)
      rw [List.filter_cons_of_pos (by simp), List.filter_cons_of_pos (by simpa using hkey)] at hhead
      injection hhead with hxy htail
      subst hxy
      congr 1
      apply ih hx.2 hy.2
      intro k
      by_cases hk : key x = k
      . rw [← hk, htail]
      . have hrest := h k
        rw [List.filter_cons_of_neg (by simpa using hk),
          List.filter_cons_of_neg (by simpa using hk)] at hrest
        exact hrest

theorem mergeSort_eq_of_filter_key {xs ys : List β}
    (h : ∀ k, xs.filter (fun a => decide (key a = k)) = ys.filter fun a => decide (key a = k))
    : xs.mergeSort (atMost key) = ys.mergeSort (atMost key) := by
  have hsorted : ∀ zs : List β, (zs.mergeSort (atMost key)).Pairwise fun a b => key a ≤ key b := by
    intro zs
    have hpairwise := List.pairwise_mergeSort (atMost_trans key) (atMost_total key) zs
    exact hpairwise.imp of_decide_eq_true
  apply eq_of_filter_key (hsorted xs) (hsorted ys)
  intro k
  rw [filter_mergeSort, filter_mergeSort, h]

end Stable

namespace Line

/-- What the words of a pool are sorted by. -/
def lineKey (direction : Direction) (w : Word Float) : Int :=
  if direction.linesDescend then -orderKey w.base else orderKey w.base

theorem baseBefore_eq_atMost (direction : Direction)
    : baseBefore direction = atMost (lineKey direction) := by
  funext a b
  rw [Bool.eq_iff_iff, baseBefore_iff]
  unfold atMost lineKey
  rw [decide_eq_true_iff]
  split <;> omega

theorem base_eq_of_lineKey_eq {direction : Direction} {v w : Word Float}
    (h : lineKey direction v = lineKey direction w) : v.base = w.base := by
  unfold lineKey at h
  apply Binary64.orderKey_inj
  split at h <;> omega

end Line

namespace Pool

section Buckets

variable {α : Type} {place : Word α → Int} {buckets : List (Int × List (Word α))}

/-- Buckets in order that hold each word in its place. -/
structure Filed (place : Word α → Int) (buckets : List (Int × List (Word α))) : Prop where
  increasing : buckets.Pairwise fun a b => a.1 < b.1
  own : ∀ b ∈ buckets, ∀ w ∈ b.2, place w = b.1

theorem Filed.cons_iff {bucket : Int × List (Word α)}
    : Filed place (bucket :: buckets) ↔
        (∀ b ∈ buckets, bucket.1 < b.1) ∧ (∀ w ∈ bucket.2, place w = bucket.1) ∧
          Filed place buckets := by
  constructor
  . rintro ⟨hincreasing, hown⟩
    rw [List.pairwise_cons] at hincreasing
    rw [List.forall_mem_cons] at hown
    exact ⟨hincreasing.1, hown.1, hincreasing.2, hown.2⟩
  . rintro ⟨hlt, hown, hincreasing, hrest⟩
    exact ⟨List.pairwise_cons.mpr ⟨hlt, hincreasing⟩, List.forall_mem_cons.mpr ⟨hown, hrest⟩⟩

theorem forall_mem_insertAt {P : Int → Prop} {index : Int} (w : Word α) (hindex : P index)
    (h : ∀ b ∈ buckets, P b.1) : ∀ b ∈ insertAt index w buckets, P b.1 := by
  induction buckets with
  | nil => simpa [insertAt] using hindex
  | cons bucket rest ih =>
    obtain ⟨i, words⟩ := bucket
    rw [List.forall_mem_cons] at h
    unfold insertAt
    split
    . rw [List.forall_mem_cons, List.forall_mem_cons]
      exact ⟨hindex, h⟩
    . split
      . rw [List.forall_mem_cons]
        exact h
      . rw [List.forall_mem_cons]
        exact ⟨h.1, ih h.2⟩

theorem Filed.insertAt (h : Filed place buckets) (w : Word α)
    : Filed place (insertAt (place w) w buckets) := by
  induction buckets with
  | nil => exact ⟨by simp [Pool.insertAt], by simp [Pool.insertAt]⟩
  | cons bucket rest ih =>
    have hfiled := h
    obtain ⟨i, words⟩ := bucket
    obtain ⟨hlt, hown, hrest⟩ := cons_iff.mp h
    unfold Pool.insertAt
    split
    next hbefore =>
      rw [cons_iff, List.forall_mem_cons]
      refine ⟨⟨hbefore, ?_⟩, by simp, hfiled⟩
      intro b hb
      exact Int.lt_trans hbefore (hlt b hb)
    next hbefore =>
      split
      next hhere =>
        rw [cons_iff, List.forall_mem_append, List.forall_mem_singleton]
        exact ⟨hlt, ⟨hown, hhere⟩, hrest⟩
      next hhere =>
        rw [cons_iff]
        exact ⟨forall_mem_insertAt w (by omega) hlt, hown, ih hrest⟩

section Class

variable {p : Word α → Bool} (hp : ∀ v w, p v = true → p w = true → place v = place w)
include hp

theorem Filed.filter_eq_nil_of_lt (h : Filed place buckets) {w : Word α} (hw : p w = true)
    (hlt : ∀ b ∈ buckets, place w < b.1) : (buckets.flatMap (·.2)).filter p = [] := by
  rw [List.filter_eq_nil_iff]
  intro v hv hpv
  obtain ⟨b, hb, hvb⟩ := List.mem_flatMap.mp hv
  have hplace := h.own b hb v hvb
  have hsame := hp v w hpv hw
  have hless := hlt b hb
  omega

/-- Words of one place come out in the order in which they were added. -/
theorem Filed.filter_insertAt (h : Filed place buckets) (w : Word α)
    : ((Pool.insertAt (place w) w buckets).flatMap (·.2)).filter p =
        (buckets.flatMap (·.2)).filter p ++ [w].filter p := by
  induction buckets with
  | nil => rfl
  | cons bucket rest ih =>
    have hfiled := h
    obtain ⟨i, words⟩ := bucket
    obtain ⟨hlt, hown, hrest⟩ := cons_iff.mp h
    unfold Pool.insertAt
    split
    next hbefore =>
      rw [List.flatMap_cons, List.filter_append]
      by_cases hw : p w = true
      . have hnone := hfiled.filter_eq_nil_of_lt hp hw (by
          rw [List.forall_mem_cons]
          exact ⟨hbefore, fun b hb => Int.lt_trans hbefore (hlt b hb)⟩)
        rw [hnone, List.append_nil, List.nil_append]
      . rw [List.filter_cons_of_neg hw, List.filter_nil, List.nil_append, List.append_nil]
    next hbefore =>
      split
      next hhere =>
        simp only [List.flatMap_cons, List.filter_append, List.append_assoc]
        by_cases hw : p w = true
        . have hnone := hrest.filter_eq_nil_of_lt hp hw (by rw [hhere]; exact hlt)
          rw [hnone, List.append_nil, List.nil_append]
        . rw [List.filter_cons_of_neg hw, List.filter_nil, List.nil_append, List.append_nil]
      next hhere =>
        simp only [List.flatMap_cons, List.filter_append, List.append_assoc]
        rw [ih hrest]

theorem Filed.filter_reverse (h : Filed place buckets)
    : (buckets.reverse.flatMap (·.2)).filter p = (buckets.flatMap (·.2)).filter p := by
  induction buckets with
  | nil => rfl
  | cons bucket rest ih =>
    obtain ⟨hlt, hown, hrest⟩ := cons_iff.mp h
    rw [List.reverse_cons, List.flatMap_append, List.flatMap_singleton, List.flatMap_cons,
      List.filter_append, List.filter_append, ih hrest]
    by_cases hnone : bucket.2.filter p = []
    . rw [hnone, List.append_nil, List.nil_append]
    . obtain ⟨w, hw⟩ := List.exists_mem_of_ne_nil _ hnone
      rw [List.mem_filter] at hw
      rw [hrest.filter_eq_nil_of_lt hp hw.2 (by rw [hown w hw.1]; exact hlt), List.append_nil,
        List.nil_append]

end Class

end Buckets

section Added

variable {α : Type} [Scalar α] (p : Pool α)

/-- The words from the bucket where the first line stands to that of the last one. -/
def linewise : List (Word α) :=
  (if p.direction.linesDescend then p.buckets.reverse else p.buckets).flatMap (·.2)

def placeOf (w : Word α) : Int := p.bucketOf w.base

variable {p}

theorem filed_foldl_add (h : Filed p.placeOf p.buckets) (added : List (Word α))
    : Filed (added.foldl add p).placeOf (added.foldl add p).buckets := by
  induction added generalizing p with
  | nil => exact h
  | cons w rest ih =>
    rw [List.foldl_cons]
    exact ih (h.insertAt w)

theorem filter_foldl_add (h : Filed p.placeOf p.buckets) {q : Word α → Bool}
    (hq : ∀ v w, q v = true → q w = true → p.placeOf v = p.placeOf w) (added : List (Word α))
    : (added.foldl add p).words.filter q = p.words.filter q ++ added.filter q := by
  induction added generalizing p with
  | nil => simp
  | cons w rest ih =>
    have hadd : (p.add w).words.filter q = p.words.filter q ++ [w].filter q :=
      h.filter_insertAt hq w
    have hrest := @ih (p.add w) (h.insertAt w) hq
    rw [List.foldl_cons, hrest, hadd, List.append_assoc, ← List.filter_append,
      List.singleton_append]

theorem filter_linewise (h : Filed p.placeOf p.buckets) {q : Word α → Bool}
    (hq : ∀ v w, q v = true → q w = true → p.placeOf v = p.placeOf w)
    : p.linewise.filter q = p.words.filter q := by
  unfold linewise words
  split
  . exact h.filter_reverse hq
  . rfl

end Added

theorem placeOf_eq_of_lineKey {direction : Direction} {k : Int} (p : Pool Float)
    (v w : Word Float) (hv : decide (Line.lineKey direction v = k) = true)
    (hw : decide (Line.lineKey direction w = k) = true) : p.placeOf v = p.placeOf w := by
  rw [decide_eq_true_iff] at hv hw
  unfold placeOf
  rw [Line.base_eq_of_lineKey_eq (hv.trans hw.symm)]

/-- The lines of a pool are those of its words as they were added, whatever its buckets. -/
theorem lines_foldl_add (options : LineOptions Float) (direction : Direction)
    (bucketHeight : Float) (added : List (Word Float))
    : (added.foldl add (empty direction bucketHeight)).lines options =
        Line.ofPool options direction added := by
  generalize hp : empty direction bucketHeight = p
  have hwords : p.words = [] := by rw [← hp]; rfl
  have hdirection : p.direction = direction := by rw [← hp]; rfl
  have hfiled : Filed p.placeOf p.buckets := by
    rw [← hp]
    exact ⟨by simp [empty], by simp [empty]⟩
  have hkeys : ∀ k,
      (added.foldl add p).linewise.filter (fun w => decide (Line.lineKey direction w = k)) =
        added.filter fun w => decide (Line.lineKey direction w = k) := by
    intro k
    rw [filter_linewise (filed_foldl_add hfiled added) (placeOf_eq_of_lineKey _),
      filter_foldl_add hfiled (placeOf_eq_of_lineKey p), hwords]
    rfl
  have hlines : (added.foldl add p).lines options =
      Line.ofPool options (added.foldl add p).direction (added.foldl add p).linewise := rfl
  rw [hlines, direction_foldl_add, hdirection]
  unfold Line.ofPool
  rw [Line.baseBefore_eq_atMost, mergeSort_eq_of_filter_key hkeys]

end Pool

end Galley
