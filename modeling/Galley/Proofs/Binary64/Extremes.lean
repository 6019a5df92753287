import Galley.Proofs.Binary64.Arithmetic

/-!
This module contains the least and the greatest of some doubles: each is one of them, and the others
are on its far side.
-/

namespace Galley

open Binary64

theorem lt_iff_rank_lt {x y : Float} (hx : IsNumber x) (hy : IsNumber y)
    : x < y ↔ rank x < rank y := by
  rw [lt_iff]
  simp [hx, hy]

theorem le_iff_rank_le {x y : Float} (hx : IsNumber x) (hy : IsNumber y)
    : x ≤ y ↔ rank x ≤ rank y := by
  rw [le_iff]
  simp [hx, hy]

theorem not_lt_iff_le {x y : Float} (hx : IsNumber x) (hy : IsNumber y) : ¬ x < y ↔ y ≤ x := by
  rw [lt_iff_rank_lt hx hy, le_iff_rank_le hy hx]
  omega

theorem number_le_trans {x y z : Float} (hxy : x ≤ y) (hyz : y ≤ z) : x ≤ z := by
  rw [le_iff] at *
  exact ⟨hxy.1, hyz.2.1, Int.le_trans hxy.2.2 hyz.2.2⟩

section Pair

variable {a b : Float} (ha : IsNumber a) (hb : IsNumber b)
include ha hb

theorem greatest_cases
    : (rank a < rank b ∧ Scalar.greatest a b = b) ∨
        (rank b ≤ rank a ∧ Scalar.greatest a b = a) := by
  have hnan : ¬ Scalar.isNaN a = true := by
    rw [isNaN_iff]
    exact fun h => h ha
  unfold Scalar.greatest
  by_cases hlt : rank a < rank b
  . left
    rw [if_pos (.inl ((lt_iff_rank_lt ha hb).mpr hlt))]
    exact ⟨hlt, rfl⟩
  . right
    rw [if_neg]
    . exact ⟨by omega, rfl⟩
    . rintro (h | h)
      . exact hlt ((lt_iff_rank_lt ha hb).mp h)
      . exact hnan h

theorem least_cases
    : (rank b < rank a ∧ Scalar.least a b = b) ∨
        (rank a ≤ rank b ∧ Scalar.least a b = a) := by
  have hnan : ¬ Scalar.isNaN a = true := by
    rw [isNaN_iff]
    exact fun h => h ha
  unfold Scalar.least
  by_cases hlt : rank b < rank a
  . left
    rw [if_pos (.inl ((lt_iff_rank_lt hb ha).mpr hlt))]
    exact ⟨hlt, rfl⟩
  . right
    rw [if_neg]
    . exact ⟨by omega, rfl⟩
    . rintro (h | h)
      . exact hlt ((lt_iff_rank_lt hb ha).mp h)
      . exact hnan h

theorem isNumber_greatest : IsNumber (Scalar.greatest a b) := by
  rcases greatest_cases ha hb with ⟨_, h⟩ | ⟨_, h⟩
  . rw [h]
    exact hb
  . rw [h]
    exact ha

theorem rank_greatest : rank (Scalar.greatest a b) = max (rank a) (rank b) := by
  rcases greatest_cases ha hb with ⟨hlt, h⟩ | ⟨hle, h⟩
  . rw [h]
    omega
  . rw [h]
    omega

theorem least_eq_left (h : rank a ≤ rank b) : Scalar.least a b = a := by
  rcases least_cases ha hb with ⟨hlt, _⟩ | ⟨_, hleast⟩
  . omega
  . exact hleast

end Pair

/-- Choosing again and again gives an element that all others stand in `r` to. -/
theorem foldl_choice (op : Float → Float → Float) (r : Float → Float → Prop)
    (hrefl : ∀ a, r a a) (htrans : ∀ {a b c}, r a b → r b c → r a c)
    (hop : ∀ {a b}, IsNumber a → IsNumber b →
      (op a b = a ∨ op a b = b) ∧ r a (op a b) ∧ r b (op a b))
    {x : Float} {xs : List Float} (h : ∀ y ∈ x :: xs, IsNumber y)
    : xs.foldl op x ∈ x :: xs ∧ ∀ y ∈ x :: xs, r y (xs.foldl op x) := by
  induction xs generalizing x with
  | nil => exact ⟨by simp, by simpa using hrefl x⟩
  | cons y rest ih =>
    rw [List.forall_mem_cons, List.forall_mem_cons] at h
    obtain ⟨hx, hy, hrest⟩ := h
    obtain ⟨hchosen, hleft, hright⟩ := hop hx hy
    have hnumber : IsNumber (op x y) := by
      rcases hchosen with hchosen | hchosen
      . rwa [hchosen]
      . rwa [hchosen]
    obtain ⟨hmem, hbound⟩ := ih (List.forall_mem_cons.mpr ⟨hnumber, hrest⟩)
    rw [List.forall_mem_cons] at hbound
    rw [List.foldl_cons, List.forall_mem_cons, List.forall_mem_cons]
    refine ⟨?_, htrans hleft hbound.1, htrans hright hbound.1, hbound.2⟩
    rw [List.mem_cons] at hmem
    rcases hmem with hmem | hmem
    . rw [hmem]
      rcases hchosen with hchosen | hchosen
      . simp [hchosen]
      . simp [hchosen]
    . simp [hmem]

section Fold

variable {x : Float} {xs : List Float} (h : ∀ y ∈ x :: xs, IsNumber y)
include h

theorem foldl_greatest
    : xs.foldl Scalar.greatest x ∈ x :: xs ∧
        ∀ y ∈ x :: xs, rank y ≤ rank (xs.foldl Scalar.greatest x) := by
  apply foldl_choice _ (fun a b => rank a ≤ rank b) (fun a => Int.le_refl _) Int.le_trans _ h
  intro a b ha hb
  rcases greatest_cases ha hb with ⟨hlt, hchosen⟩ | ⟨hle, hchosen⟩
  . rw [hchosen]
    exact ⟨.inr rfl, by omega, Int.le_refl _⟩
  . rw [hchosen]
    exact ⟨.inl rfl, Int.le_refl _, hle⟩

theorem foldl_least
    : xs.foldl Scalar.least x ∈ x :: xs ∧
        ∀ y ∈ x :: xs, rank (xs.foldl Scalar.least x) ≤ rank y := by
  apply foldl_choice _ (fun a b => rank b ≤ rank a) (fun a => Int.le_refl _)
    (fun hab hbc => Int.le_trans hbc hab) _ h
  intro a b ha hb
  rcases least_cases ha hb with ⟨hlt, hchosen⟩ | ⟨hle, hchosen⟩
  . rw [hchosen]
    exact ⟨.inr rfl, by omega, Int.le_refl _⟩
  . rw [hchosen]
    exact ⟨.inl rfl, Int.le_refl _, hle⟩

end Fold

section List

variable {xs : List Float} (h : ∀ x ∈ xs, IsNumber x)
include h

theorem filter_isNumber : xs.filter (fun x => !Scalar.isNaN x) = xs := by
  rw [List.filter_eq_self]
  intro x hx
  have hnan : ¬ Scalar.isNaN x = true := by
    rw [isNaN_iff]
    exact fun hnan => hnan (h x hx)
  simpa using hnan

theorem greatestOf_mem (hne : xs ≠ []) : Scalar.greatestOf xs ∈ xs := by
  unfold Scalar.greatestOf
  rw [filter_isNumber h]
  cases xs with
  | nil => contradiction
  | cons x rest => exact (foldl_greatest h).1

theorem leastOf_mem (hne : xs ≠ []) : Scalar.leastOf xs ∈ xs := by
  unfold Scalar.leastOf
  rw [filter_isNumber h]
  cases xs with
  | nil => contradiction
  | cons x rest => exact (foldl_least h).1

theorem le_greatestOf {x : Float} (hx : x ∈ xs) : x ≤ Scalar.greatestOf xs := by
  have hnumber := h _ (greatestOf_mem h (List.ne_nil_of_mem hx))
  rw [le_iff_rank_le (h x hx) hnumber]
  unfold Scalar.greatestOf
  rw [filter_isNumber h]
  cases xs with
  | nil => contradiction
  | cons y rest => exact (foldl_greatest h).2 x hx

theorem leastOf_le {x : Float} (hx : x ∈ xs) : Scalar.leastOf xs ≤ x := by
  have hnumber := h _ (leastOf_mem h (List.ne_nil_of_mem hx))
  rw [le_iff_rank_le hnumber (h x hx)]
  unfold Scalar.leastOf
  rw [filter_isNumber h]
  cases xs with
  | nil => contradiction
  | cons y rest => exact (foldl_least h).2 x hx

end List

section Cons

variable {x : Float} {xs : List Float} (h : ∀ y ∈ x :: xs, IsNumber y)
include h

theorem greatestOf_cons : Scalar.greatestOf (x :: xs) = xs.foldl Scalar.greatest x := by
  unfold Scalar.greatestOf
  rw [filter_isNumber h]

theorem leastOf_cons : Scalar.leastOf (x :: xs) = xs.foldl Scalar.least x := by
  unfold Scalar.leastOf
  rw [filter_isNumber h]

theorem greatestOf_append {ys : List Float} (hy : ∀ y ∈ ys, IsNumber y)
    : Scalar.greatestOf (x :: xs ++ ys) =
        ys.foldl Scalar.greatest (Scalar.greatestOf (x :: xs)) := by
  have hall : ∀ z ∈ x :: (xs ++ ys), IsNumber z := by
    rw [← List.cons_append, List.forall_mem_append]
    exact ⟨h, hy⟩
  rw [greatestOf_cons h, List.cons_append, greatestOf_cons hall, List.foldl_append]

end Cons

end Galley
