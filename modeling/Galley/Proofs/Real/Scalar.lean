import Mathlib.Algebra.Order.Archimedean.Real.Basic
import Mathlib.Analysis.Real.Sqrt
import Mathlib.Data.Prod.Lex
import Mathlib.Tactic.NormNum
import Galley.Scalar

/-!
This module contains exact arithmetic: the real numbers as a scalar. Every value is a finite number,
the order is the usual one and nothing is rounded, so the definitions of the library mean what they
would mean on paper.
-/

namespace Galley

namespace Scalar

/-- The integer part, toward zero. -/
noncomputable def integerPart (x : ℝ) : ℤ := if 0 ≤ x then ⌊x⌋ else ⌈x⌉

end Scalar

/-- There is no infinite real number; `0` stands for it where a list holds no number at all. -/
noncomputable instance : Scalar ℝ where
  decidableLT := Classical.decRel _
  decidableLE := Classical.decRel _
  order := compare
  isFinite _ := true
  infinity := 0
  abs x := |x|
  floor x := ⌊x⌋
  ceil x := ⌈x⌉
  round x := if 0 ≤ x then ⌊x + 1 / 2⌋ else ⌈x - 1 / 2⌉
  hypot x y := √(x ^ 2 + y ^ 2)
  toInt64 x := max Int64.minValue.toInt (min Int64.maxValue.toInt (Scalar.integerPart x))
  toNat64 x := (max 0 (min (UInt64.size - 1 : ℤ) (Scalar.integerPart x))).toNat

namespace Scalar

@[simp]
theorem zero_real : (0.0 : ℝ) = 0 := by
  norm_num

@[simp]
theorem one_real : (1.0 : ℝ) = 1 := by
  norm_num

@[simp]
theorem two_real : (2.0 : ℝ) = 2 := by
  norm_num

@[simp]
theorem ofNat_real (n : Nat) : (ofNat n : ℝ) = n := by
  unfold ofNat
  rw [show (OfScientific.ofScientific n false 0 : ℝ) = (Rat.ofScientific n false 0 : ℚ) from rfl]
  simp [Rat.ofScientific_false_def]

section Operations

variable (x y : ℝ)

@[simp]
theorem abs_real : abs x = |x| := by
  rfl

@[simp]
theorem isFinite_real : isFinite x = true := by
  rfl

@[simp]
theorem isNaN_real : isNaN x = false := by
  simp [isNaN]

@[simp]
theorem least_real : least x y = min x y := by
  unfold least
  rw [isNaN_real, min_comm]
  simp [min_def_lt]

@[simp]
theorem greatest_real : greatest x y = max x y := by
  unfold greatest
  rw [isNaN_real]
  simp [max_def_lt]

theorem isPositive_real : isPositive x = true ↔ 0 < x := by
  unfold isPositive
  norm_num

theorem order_bne_gt : (order x y != .gt) = true ↔ x ≤ y := by
  rw [show order x y = compare x y from rfl, bne_iff_ne, ne_eq, compare_gt_iff_gt, not_lt]

end Operations

section Extremes

variable {x : ℝ} {xs : List ℝ}

theorem filter_isNumber (xs : List ℝ) : xs.filter (fun x => !isNaN x) = xs := by
  simp

theorem min?_eq_leastOf (h : xs ≠ []) : xs.min? = some (leastOf xs) := by
  unfold leastOf
  rw [filter_isNumber]
  cases xs with
  | nil => contradiction
  | cons x rest =>
    rw [List.min?_cons', show (least : ℝ → ℝ → ℝ) = min from funext₂ least_real]

theorem max?_eq_greatestOf (h : xs ≠ []) : xs.max? = some (greatestOf xs) := by
  unfold greatestOf
  rw [filter_isNumber]
  cases xs with
  | nil => contradiction
  | cons x rest =>
    rw [List.max?_cons', show (greatest : ℝ → ℝ → ℝ) = max from funext₂ greatest_real]

theorem leastOf_le (h : x ∈ xs) : leastOf xs ≤ x :=
  (List.min?_eq_some_iff.mp (min?_eq_leastOf (List.ne_nil_of_mem h))).2 x h

theorem le_greatestOf (h : x ∈ xs) : x ≤ greatestOf xs :=
  (List.max?_eq_some_iff.mp (max?_eq_greatestOf (List.ne_nil_of_mem h))).2 x h

end Extremes

/-- Comparing by one number and, where that leaves two equal, by another one. -/
theorem order_lexicographic (x y : ℝ × ℝ)
    : (match order x.1 y.1 with
        | .lt => true
        | .eq => order x.2 y.2 != .gt
        | .gt => false) = true ↔ toLex x ≤ toLex y := by
  rw [Prod.Lex.toLex_le_toLex, show order x.1 y.1 = compare x.1 y.1 from rfl]
  rcases lt_trichotomy x.1 y.1 with hlt | heq | hgt
  . rw [compare_lt_iff_lt.mpr hlt]
    simp [hlt]
  . rw [compare_eq_iff_eq.mpr heq]
    simp only [order_bne_gt, heq, lt_irrefl, true_and, false_or]
  . rw [compare_gt_iff_gt.mpr hgt]
    simp [hgt.not_gt, hgt.ne']

/-- A sort by a key with a total order sorts the keys. -/
theorem pairwise_mergeSort_of_key {β γ : Type} [LinearOrder γ] {le : β → β → Bool} (key : β → γ)
    (h : ∀ a b, le a b = true ↔ key a ≤ key b) (l : List β)
    : (l.mergeSort le).Pairwise fun a b => key a ≤ key b := by
  apply List.Pairwise.imp fun hab => (h _ _).mp hab
  apply List.pairwise_mergeSort
  . intro a b c hab hbc
    rw [h] at *
    exact hab.trans hbc
  . intro a b
    rw [Bool.or_eq_true, h, h]
    exact le_total (key a) (key b)

end Scalar
end Galley
