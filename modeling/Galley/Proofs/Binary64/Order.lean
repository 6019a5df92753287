import Galley.Proofs.Binary64.Packing

/-!
This module contains comparisons of doubles as comparisons of their ranks, both those in which
values that are not numbers take no part and the order of all bit patterns.
-/

open Float.Model Float.Model.UnpackedFloat

namespace Galley.Binary64

theorem unitRank_lt_topRank {m : Nat} {e : Int} (h : Canonical m e) (he : e ≤ 971)
    : unitRank m e < topRank := by
  obtain ⟨hleast, hbounded, _⟩ := h
  unfold unitRank topRank
  omega

theorem unitRank_pos {m : Nat} (e : Int) (hm : 0 < m) : 0 < unitRank m e := by
  unfold unitRank
  omega

theorem compare_unitRank {m n : Nat} {e f : Int} (hm : Canonical m e) (hn : Canonical n f)
    : (compare e f).then (compare m n) = compare (unitRank m e) (unitRank n f) := by
  obtain ⟨heleast, hmbounded, hmleading⟩ := hm
  obtain ⟨hfleast, hnbounded, hnleading⟩ := hn
  rcases Int.lt_trichotomy e f with hlt | heq | hgt
  . have hrank : unitRank m e < unitRank n f := by
      unfold unitRank
      omega
    rw [Int.compare_eq_lt.mpr hlt, Nat.compare_eq_lt.mpr hrank]
    rfl
  . subst heq
    rw [Int.compare_eq_eq.mpr rfl, Ordering.then]
    rcases Nat.lt_trichotomy m n with hlt | heq | hgt
    . rw [Nat.compare_eq_lt.mpr hlt]
      symm
      rw [Nat.compare_eq_lt]
      unfold unitRank
      omega
    . rw [heq, Nat.compare_eq_eq.mpr rfl, Nat.compare_eq_eq.mpr rfl]
    . rw [Nat.compare_eq_gt.mpr hgt]
      symm
      rw [Nat.compare_eq_gt]
      unfold unitRank
      omega
  . have hrank : unitRank n f < unitRank m e := by
      unfold unitRank
      omega
    rw [Int.compare_eq_gt.mpr hgt, Nat.compare_eq_gt.mpr hrank]
    rfl

theorem compare_natCast (m n : Nat) : compare (m : Int) (n : Int) = compare m n := by
  rw [Int.compare_eq_ite_lt, Nat.compare_eq_ite_lt]
  simp only [Int.ofNat_lt]

theorem compare_neg_natCast (m n : Nat)
    : compare (-(m : Int)) (-(n : Int)) = (compare m n).swap := by
  rw [Nat.compare_swap, Int.compare_eq_ite_lt, Nat.compare_eq_ite_lt]
  simp only [Int.neg_lt_neg_iff, Int.ofNat_lt]

theorem topRank_pos : 0 < topRank := by
  unfold topRank
  omega

theorem compare_apply_of_lt (s t : Sign) {r q : Nat} (h : r < q)
    : compare (s.apply r) (t.apply q) = match t with | .negative => .gt | .positive => .lt := by
  cases t with
  | negative =>
    show compare (s.apply r) (-(q : Int)) = .gt
    rw [Int.compare_eq_gt]
    cases s <;> simp only [Sign.apply] <;> omega
  | positive =>
    show compare (s.apply r) (q : Int) = .lt
    rw [Int.compare_eq_lt]
    cases s <;> simp only [Sign.apply] <;> omega

theorem compare_apply_of_gt (s t : Sign) {r q : Nat} (h : q < r)
    : compare (s.apply r) (t.apply q) = match s with | .negative => .lt | .positive => .gt := by
  rw [← Int.compare_swap, compare_apply_of_lt t s h]
  cases s <;> rfl

theorem compare_finite {m n : Nat} {e f : Int} (hm : 0 < m) (hn : 0 < n) (s t : Sign)
    (hmc : Canonical m e) (hnc : Canonical n f)
    : UnpackedFloat.compare (.finite s m e hm) (.finite t n f hn) =
        some (compare (s.apply (unitRank m e : Nat)) (t.apply (unitRank n f : Nat))) := by
  have hmpos := unitRank_pos e hm
  have hnpos := unitRank_pos f hn
  cases s with
  | negative =>
    cases t with
    | negative =>
      show some ((compare e f).then (compare m n)).swap = _
      rw [compare_unitRank hmc hnc, ← compare_neg_natCast]
      rfl
    | positive =>
      have hlt : -(unitRank m e : Int) < unitRank n f := by omega
      rw [Sign.apply, Sign.apply, Int.compare_eq_lt.mpr hlt]
      rfl
  | positive =>
    cases t with
    | negative =>
      have hlt : -(unitRank n f : Int) < unitRank m e := by omega
      rw [Sign.apply, Sign.apply, Int.compare_eq_gt.mpr hlt]
      rfl
    | positive =>
      show some ((compare e f).then (compare m n)) = _
      rw [compare_unitRank hmc hnc, ← compare_natCast]
      rfl

theorem compare_of_shaped {u v : UnpackedFloat} {s t : Sign} {r q : Nat} (hu : Shaped u s r)
    (hv : Shaped v t q) (hr : r ≤ topRank) (hq : q ≤ topRank)
    : u.compare v = some (compare (s.apply r) (t.apply q)) := by
  have htop := topRank_pos
  cases hu with
  | notANumber _ _ h => omega
  | infinity s =>
    cases hv with
    | notANumber _ _ h => omega
    | infinity t => cases s <;> cases t <;> decide
    | zero t =>
      rw [compare_apply_of_gt s t htop]
      cases s <;> rfl
    | finite t n f hn hcanonical hrange =>
      rw [compare_apply_of_gt s t (unitRank_lt_topRank hcanonical hrange)]
      cases s <;> rfl
  | zero s =>
    cases hv with
    | notANumber _ _ h => omega
    | infinity t =>
      rw [compare_apply_of_lt s t htop]
      cases t <;> rfl
    | zero t => cases s <;> cases t <;> rfl
    | finite t n f hn =>
      rw [compare_apply_of_lt s t (unitRank_pos f hn)]
      cases t <;> rfl
  | finite s m e hm hcanonical hrange =>
    cases hv with
    | notANumber _ _ h => omega
    | infinity t =>
      rw [compare_apply_of_lt s t (unitRank_lt_topRank hcanonical hrange)]
      cases t <;> rfl
    | zero t =>
      rw [compare_apply_of_gt s t (unitRank_pos e hm)]
      cases s <;> rfl
    | finite t n f hn hcanonical' => exact compare_finite hm hn s t hcanonical hcanonical'

theorem Shaped.eq_notANumber {u : UnpackedFloat} {s : Sign} {r : Nat} (h : Shaped u s r)
    (hr : topRank < r) : u = .notANumber := by
  cases h with
  | notANumber => rfl
  | infinity => omega
  | zero => omega
  | finite _ m e _ hcanonical hrange =>
    have hlt := unitRank_lt_topRank hcanonical hrange
    omega

/-- Whether a double is a number or infinite. -/
def IsNumber (x : Float) : Prop := (rank x).natAbs ≤ topRank

theorem natAbs_apply (s : Sign) (r : Nat) : (s.apply r).natAbs = r := by
  cases s <;> simp [Sign.apply]

theorem compare_unpack {x y : Float} (hx : IsNumber x) (hy : IsNumber y)
    : x.toModel.unpack.compare y.toModel.unpack = some (compare (rank x) (rank y)) := by
  obtain ⟨s, r, hu, hr⟩ := exists_shaped_unpack x
  obtain ⟨t, q, hv, hq⟩ := exists_shaped_unpack y
  unfold IsNumber at hx hy
  rw [hr, natAbs_apply] at hx
  rw [hq, natAbs_apply] at hy
  rw [hr, hq]
  exact compare_of_shaped hu hv hx hy

theorem compare_unpack_eq_none {x y : Float} (h : ¬ (IsNumber x ∧ IsNumber y))
    : x.toModel.unpack.compare y.toModel.unpack = none := by
  obtain ⟨s, r, hu, hr⟩ := exists_shaped_unpack x
  obtain ⟨t, q, hv, hq⟩ := exists_shaped_unpack y
  unfold IsNumber at h
  rw [hr, hq, natAbs_apply, natAbs_apply] at h
  by_cases hx : r ≤ topRank
  . rw [hv.eq_notANumber (by omega)]
    cases x.toModel.unpack <;> rfl
  . rw [hu.eq_notANumber (by omega)]
    rfl

theorem lt_iff (x y : Float) : x < y ↔ IsNumber x ∧ IsNumber y ∧ rank x < rank y := by
  have hlt : x < y ↔ x.toModel.unpack.compare y.toModel.unpack = some .lt := by
    show decide ((x.toModel.unpack.compare y.toModel.unpack == some .lt) = true) = true ↔ _
    rw [decide_eq_true_iff, beq_iff_eq]
  rw [hlt]
  by_cases h : IsNumber x ∧ IsNumber y
  . rw [compare_unpack h.1 h.2, Option.some_inj, Int.compare_eq_lt]
    simp [h]
  . rw [compare_unpack_eq_none h, ← and_assoc]
    simp [h]

theorem le_iff (x y : Float) : x ≤ y ↔ IsNumber x ∧ IsNumber y ∧ rank x ≤ rank y := by
  have hle : x ≤ y ↔ (x.toModel.unpack.compare y.toModel.unpack).any (·.isLE) = true := by
    show decide ((x.toModel.unpack.compare y.toModel.unpack).any (·.isLE) = true) = true ↔ _
    rw [decide_eq_true_iff]
  rw [hle]
  by_cases h : IsNumber x ∧ IsNumber y
  . rw [compare_unpack h.1 h.2, Option.any_some, Int.isLE_compare]
    simp [h]
  . rw [compare_unpack_eq_none h, ← and_assoc]
    simp [h]

theorem beq_iff (x y : Float) : (x == y) = true ↔ IsNumber x ∧ IsNumber y ∧ rank x = rank y := by
  have hbeq : (x == y) = true ↔ x.toModel.unpack.compare y.toModel.unpack = some .eq := by
    show (x.toModel.unpack.compare y.toModel.unpack == some .eq) = true ↔ _
    rw [beq_iff_eq]
  rw [hbeq]
  by_cases h : IsNumber x ∧ IsNumber y
  . rw [compare_unpack h.1 h.2, Option.some_inj, Int.compare_eq_eq]
    simp [h]
  . rw [compare_unpack_eq_none h, ← and_assoc]
    simp [h]

theorem isNaN_iff (x : Float) : Scalar.isNaN x = true ↔ ¬ IsNumber x := by
  unfold Scalar.isNaN
  rw [Bool.not_eq_true', ← Bool.not_eq_true, beq_iff]
  simp

theorem isFinite_iff (x : Float) : x.isFinite = true ↔ (rank x).natAbs < topRank := by
  have hfinite : x.isFinite = x.toModel.unpack.isFinite := rfl
  obtain ⟨s, r, hu, hr⟩ := exists_shaped_unpack x
  rw [hfinite, hr, natAbs_apply]
  generalize x.toModel.unpack = u at hu
  have htop := topRank_pos
  cases hu with
  | notANumber _ _ h => exact iff_of_false Bool.false_ne_true (by omega)
  | infinity => exact iff_of_false Bool.false_ne_true (by omega)
  | zero => exact iff_of_true rfl htop
  | finite _ m e hm hcanonical hrange =>
    exact iff_of_true rfl (unitRank_lt_topRank hcanonical hrange)

theorem isNumber_of_isFinite {x : Float} (h : x.isFinite = true) : IsNumber x := by
  rw [isFinite_iff] at h
  unfold IsNumber
  omega

theorem orderKey_eq (x : Float)
    : orderKey x = if x.toBits.toNat < signBit then rank x else rank x - 1 := by
  unfold orderKey rank
  simp only
  split <;> omega

theorem rank_le_of_orderKey_le {x y : Float} (h : orderKey x ≤ orderKey y) : rank x ≤ rank y := by
  rw [orderKey_eq, orderKey_eq] at h
  unfold rank at h ⊢
  split at h
  . split at h <;> omega
  . split at h <;> omega

end Galley.Binary64
