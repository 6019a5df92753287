import Galley.Proofs.Binary64.Shifting

/-!
This module contains the operations on doubles as operations on exact integers followed by one
rounding, and from that their monotonicity.
-/

open Float.Model Float.Model.UnpackedFloat

namespace Galley.Binary64

theorem rankOf_apply (s : Sign) (n : Nat) : rankOf (s.apply n) = s.apply (magnitude n : Nat) := by
  cases s with
  | negative =>
    show rankOf (-(n : Int)) = -(magnitude n : Int)
    unfold rankOf
    split
    . rw [Int.natAbs_neg, Int.natAbs_natCast]
    . have hzero : n = 0 := by omega
      rw [hzero, Int.natCast_zero, Int.neg_zero, Int.natAbs_zero, magnitude_zero]
      rfl
  | positive =>
    show rankOf (n : Int) = (magnitude n : Int)
    unfold rankOf
    rw [if_neg (by omega), Int.natAbs_natCast]

theorem rankOf_zero : rankOf 0 = 0 := by
  have h := rankOf_apply .positive 0
  rw [magnitude_zero] at h
  exact h

theorem magnitude_le (n : Nat) : magnitude n ≤ topRank := by
  unfold magnitude
  apply Nat.min_le_right

theorem natAbs_rankOf_le (n : Int) : (rankOf n).natAbs ≤ topRank := by
  have hle := magnitude_le n.natAbs
  unfold rankOf
  split <;> omega

theorem apply_mul_natCast (s : Sign) (n k : Nat)
    : s.apply n * (k : Int) = s.apply (n * k : Nat) := by
  cases s with
  | negative =>
    show -(n : Int) * k = -((n * k : Nat) : Int)
    rw [Int.neg_mul, Int.natCast_mul]
  | positive => exact (Int.natCast_mul n k).symm

theorem apply_mul_apply (s t : Sign) (m n : Nat)
    : s.apply m * t.apply n = (s * t).apply (m * n : Nat) := by
  rw [Int.natCast_mul]
  cases s with
  | negative =>
    cases t with
    | negative => exact Int.neg_mul_neg m n
    | positive => exact Int.neg_mul m n
  | positive =>
    cases t with
    | negative => exact Int.mul_neg m n
    | positive => rfl

theorem neg_apply (s : Sign) (n : Int) : (-s).apply n = -(s.apply n) := by
  cases s
  . exact (Int.neg_neg n).symm
  . rfl

theorem ranked_normalize (n : Int) {e : Int} (he : -2148 ≤ e) (zeroSign : Sign)
    : Ranked (UnpackedFloat.normalize Format.binary64 n e zeroSign)
        (rankOf (n * (2 ^ (e + 2148).toNat : Nat))) := by
  unfold UnpackedFloat.normalize
  rcases Int.lt_trichotomy n 0 with hlt | heq | hgt
  . rw [Int.compare_eq_lt.mpr hlt]
    obtain ⟨k, hk⟩ : ∃ k : Nat, n = Sign.negative.apply k :=
      ⟨(-n).toNat, by simp only [Sign.apply]; omega⟩
    have hkn : (-n).toNat = k := by
      simp only [Sign.apply] at hk
      omega
    simp only [hkn]
    rw [hk, apply_mul_natCast, rankOf_apply]
    apply ranked_round _ (by omega) he
  . rw [heq, Int.compare_eq_eq.mpr rfl, Int.zero_mul, rankOf_zero]
    apply Ranked.zero
  . rw [Int.compare_eq_gt.mpr hgt]
    obtain ⟨k, hk⟩ : ∃ k : Nat, n = Sign.positive.apply k :=
      ⟨n.toNat, by simp only [Sign.apply]; omega⟩
    have hkn : n.toNat = k := by
      simp only [Sign.apply] at hk
      omega
    simp only [hkn]
    rw [hk, apply_mul_natCast, rankOf_apply]
    apply ranked_round _ (by omega) he

/-- The smallest positive double is `2 ^ -fineness`. -/
def fineness : Nat := 1074

/-- A finite double as a multiple of the smallest positive one. -/
def units : UnpackedFloat → Int
  | .finite s m e _ => s.apply (m * 2 ^ (e + 1074).toNat : Nat)
  | _ => 0

theorem magnitude_canonical {m : Nat} {e : Int} (hm : 0 < m) (h : Canonical m e)
    : magnitude (m * 2 ^ (e + 1074).toNat * 2 ^ fineness) = min (unitRank m e) topRank := by
  obtain ⟨hleast, hbounded, hleading⟩ := h
  obtain ⟨j, hj⟩ : ∃ j : Nat, (e + 1074).toNat = j := ⟨_, rfl⟩
  have hspare : spareBits (m * 2 ^ (j + fineness)) = j + fineness := by
    have hlog := (Nat.log2_lt (Nat.ne_of_gt hm)).mpr hbounded
    have hlog' := Nat.le_log2 (Nat.ne_of_gt hm) (k := 52)
    unfold spareBits fineness
    rw [log2_mul_two_pow hm]
    omega
  rw [hj, Nat.mul_assoc, ← Nat.pow_add]
  unfold magnitude unitRank
  rw [hspare, roundedShift_mul_two_pow_self, hj]
  unfold fineness
  rw [Nat.add_sub_cancel]

theorem ranked_canonical (s : Sign) {m : Nat} {e : Int} (hm : 0 < m) (h : Canonical m e)
    : Ranked (.finite s m e hm) (rankOf (units (.finite s m e hm) * (2 ^ fineness : Nat))) := by
  unfold units
  rw [apply_mul_natCast, rankOf_apply, magnitude_canonical hm h]
  exact .finite s m e hm h

theorem units_neg (s : Sign) {m : Nat} (e : Int) (hm : 0 < m)
    : units (.finite (-s) m e hm) = -units (.finite s m e hm) := by
  exact neg_apply s _

theorem apply_decreaseExponent (s : Sign) {m : Nat} {e f : Int} (hm : 0 < m) (hf : -1074 ≤ f)
    (hfe : f ≤ e)
    : s.apply (m <<< (e - f).toNat : Nat) * (2 ^ (f + 2148).toNat : Nat) =
        units (.finite s m e hm) * (2 ^ fineness : Nat) := by
  have hpow : (e - f).toNat + (f + 2148).toNat = (e + 1074).toNat + fineness := by
    unfold fineness
    omega
  unfold units
  rw [apply_mul_natCast, apply_mul_natCast, Nat.shiftLeft_eq, Nat.mul_assoc, Nat.mul_assoc,
    ← Nat.pow_add, ← Nat.pow_add, hpow]

theorem ranked_sub {u v : UnpackedFloat} {s t : Sign} {r q : Nat} (hu : Shaped u s r)
    (hv : Shaped v t q) (hr : r < topRank) (hq : q < topRank)
    : Ranked (UnpackedFloat.sub Format.binary64 u v)
        (rankOf ((units u - units v) * (2 ^ fineness : Nat))) := by
  cases hu with
  | notANumber _ _ h => omega
  | infinity => omega
  | zero s =>
    cases hv with
    | notANumber _ _ h => omega
    | infinity => omega
    | zero t =>
      have hzero : rankOf ((units (.zero s) - units (.zero t)) * (2 ^ fineness : Nat)) = 0 := by
        show rankOf ((0 - 0) * _) = 0
        rw [Int.sub_zero, Int.zero_mul, rankOf_zero]
      rw [hzero]
      unfold UnpackedFloat.sub
      simp only
      split
      . apply Ranked.zero
      . apply Ranked.zero
    | finite t n f hn hcanonical =>
      have hneg : units (.zero s) - units (.finite t n f hn) = units (.finite (-t) n f hn) := by
        rw [units_neg]
        exact Int.zero_sub _
      rw [hneg]
      exact ranked_canonical (-t) hn hcanonical
  | finite s m e hm hcanonical =>
    cases hv with
    | notANumber _ _ h => omega
    | infinity => omega
    | zero t =>
      have hsame : units (.finite s m e hm) - units (.zero t) = units (.finite s m e hm) :=
        Int.sub_zero _
      rw [hsame]
      exact ranked_canonical s hm hcanonical
    | finite t n f hn hcanonical' =>
      have hleast : -1074 ≤ min e f := by
        have he := hcanonical.least_exponent
        have hf := hcanonical'.least_exponent
        omega
      rw [Int.sub_mul, ← apply_decreaseExponent s hm hleast (by omega),
        ← apply_decreaseExponent t hn hleast (by omega), ← Int.sub_mul]
      apply ranked_normalize
      omega

theorem le_unitExponent_mul {m n : Nat} {e f : Int} (hm : 0 < m) (hn : 0 < n)
    (hmc : Canonical m e) (hnc : Canonical n f) : e + f ≤ unitExponent (m * n) (e + f) := by
  have hmn := Nat.mul_pos hm hn
  unfold unitExponent
  rcases hmc.leading with he | hlead
  . rcases hnc.leading with hf | hlead
    . omega
    . have hlong : 2 ^ 52 ≤ m * n := Nat.le_trans hlead (Nat.le_mul_of_pos_left n hm)
      have hlog := (Nat.le_log2 (Nat.ne_of_gt hmn)).mpr hlong
      omega
  . have hlong : 2 ^ 52 ≤ m * n := Nat.le_trans hlead (Nat.le_mul_of_pos_right m hn)
    have hlog := (Nat.le_log2 (Nat.ne_of_gt hmn)).mpr hlong
    omega

theorem ranked_mul {u v : UnpackedFloat} {s t : Sign} {r q : Nat} (hu : Shaped u s r)
    (hv : Shaped v t q) (hr : r < topRank) (hq : q < topRank)
    : Ranked (UnpackedFloat.mul Format.binary64 u v) (rankOf (units u * units v)) := by
  cases hu with
  | notANumber _ _ h => omega
  | infinity => omega
  | zero s =>
    have hzero : rankOf (units (.zero s) * units v) = 0 := by
      show rankOf (0 * _) = 0
      rw [Int.zero_mul, rankOf_zero]
    rw [hzero]
    cases hv with
    | notANumber _ _ h => omega
    | infinity => omega
    | zero t => exact .zero (s * t)
    | finite t n f hn => exact .zero (s * t)
  | finite s m e hm hcanonical =>
    cases hv with
    | notANumber _ _ h => omega
    | infinity => omega
    | zero t =>
      have hzero : rankOf (units (.finite s m e hm) * units (.zero t)) = 0 := by
        show rankOf (_ * 0) = 0
        rw [Int.mul_zero, rankOf_zero]
      rw [hzero]
      exact .zero (s * t)
    | finite t n f hn hcanonical' =>
      have he := hcanonical.least_exponent
      have hf := hcanonical'.least_exponent
      have hunits : units (.finite s m e hm) * units (.finite t n f hn) =
          (s * t).apply (m * n * 2 ^ (e + f + 2148).toNat : Nat) := by
        have hpow : (e + 1074).toNat + (f + 1074).toNat = (e + f + 2148).toNat := by omega
        unfold units
        rw [apply_mul_apply, Nat.mul_mul_mul_comm, ← Nat.pow_add, hpow]
      rw [hunits, rankOf_apply]
      apply ranked_roundWithAccuracy
      . exact Nat.mul_pos hm hn
      . omega
      . exact le_unitExponent_mul hm hn hcanonical hcanonical'

/-- A finite double as a multiple of the smallest positive one. -/
def unitsOf (x : Float) : Int := units x.toModel.unpack

theorem exists_finite_shape {x : Float} (h : x.isFinite = true)
    : ∃ s r, Shaped x.toModel.unpack s r ∧ rank x = s.apply r ∧ r < topRank := by
  obtain ⟨s, r, hu, hr⟩ := exists_shaped_unpack x
  rw [isFinite_iff, hr, natAbs_apply] at h
  exact ⟨s, r, hu, hr, h⟩

theorem rank_sub {x y : Float} (hx : x.isFinite = true) (hy : y.isFinite = true)
    : rank (x - y) = rankOf ((unitsOf x - unitsOf y) * (2 ^ fineness : Nat)) := by
  obtain ⟨s, r, hu, _, hr⟩ := exists_finite_shape hx
  obtain ⟨t, q, hv, _, hq⟩ := exists_finite_shape hy
  exact rank_pack (ranked_sub hu hv hr hq)

theorem rank_mul {x y : Float} (hx : x.isFinite = true) (hy : y.isFinite = true)
    : rank (x * y) = rankOf (unitsOf x * unitsOf y) := by
  obtain ⟨s, r, hu, _, hr⟩ := exists_finite_shape hx
  obtain ⟨t, q, hv, _, hq⟩ := exists_finite_shape hy
  exact rank_pack (ranked_mul hu hv hr hq)

theorem rankOf_unitsOf {x : Float} (h : x.isFinite = true)
    : rankOf (unitsOf x * (2 ^ fineness : Nat)) = rank x := by
  obtain ⟨s, r, hu, hrank, hr⟩ := exists_finite_shape h
  unfold unitsOf
  rw [hrank]
  generalize x.toModel.unpack = u at hu
  cases hu with
  | notANumber _ _ h => omega
  | infinity => omega
  | zero s =>
    show rankOf (0 * _) = _
    rw [Int.zero_mul, rankOf_zero]
    cases s <;> rfl
  | finite s m e hm hcanonical hrange =>
    unfold units
    rw [apply_mul_natCast, rankOf_apply, magnitude_canonical hm hcanonical,
      Nat.min_eq_left (Nat.le_of_lt hr)]

theorem unitRank_inj {m n : Nat} {e f : Int} (hm : Canonical m e) (hn : Canonical n f)
    (h : unitRank m e = unitRank n f) : m = n ∧ e = f := by
  obtain ⟨heleast, hmbounded, hmleading⟩ := hm
  obtain ⟨hfleast, hnbounded, hnleading⟩ := hn
  unfold unitRank at h
  omega

theorem apply_inj {s t : Sign} {r q : Nat} (hr : 0 < r) (h : s.apply r = t.apply q)
    : s = t ∧ r = q := by
  cases s <;> cases t <;> simp only [Sign.apply] at h
  . exact ⟨rfl, by omega⟩
  . omega
  . omega
  . exact ⟨rfl, by omega⟩

theorem unitsOf_eq_of_rank_eq {x y : Float} (hx : x.isFinite = true) (hy : y.isFinite = true)
    (h : rank x = rank y) : unitsOf x = unitsOf y := by
  obtain ⟨s, r, hu, hrx, hr⟩ := exists_finite_shape hx
  obtain ⟨t, q, hv, hqy, hq⟩ := exists_finite_shape hy
  rw [hrx, hqy] at h
  have hrq : r = q := by
    have hnat := congrArg Int.natAbs h
    rw [natAbs_apply, natAbs_apply] at hnat
    exact hnat
  unfold unitsOf
  generalize x.toModel.unpack = u at hu
  generalize y.toModel.unpack = v at hv
  cases hu with
  | notANumber _ _ h => omega
  | infinity => omega
  | zero s =>
    cases hv with
    | notANumber _ _ h => omega
    | infinity => omega
    | zero t => rfl
    | finite t n f hn =>
      have hpos := unitRank_pos f hn
      omega
  | finite s m e hm hcanonical =>
    have hpos := unitRank_pos e hm
    cases hv with
    | notANumber _ _ h => omega
    | infinity => omega
    | zero t => omega
    | finite t n f hn hcanonical' =>
      obtain ⟨hst, hranks⟩ := apply_inj hpos h
      obtain ⟨hmn, hef⟩ := unitRank_inj hcanonical hcanonical' hranks
      subst hst hmn hef
      rfl

theorem unitsOf_mono {x y : Float} (hx : x.isFinite = true) (hy : y.isFinite = true)
    (h : rank x ≤ rank y) : unitsOf x ≤ unitsOf y := by
  by_cases hlt : unitsOf y < unitsOf x
  . have hpos : (0 : Int) ≤ (2 ^ fineness : Nat) := Int.natCast_nonneg _
    have hscaled : unitsOf y * (2 ^ fineness : Nat) ≤ unitsOf x * (2 ^ fineness : Nat) :=
      Int.mul_le_mul_of_nonneg_right (by omega) hpos
    have hrank := rankOf_mono hscaled
    rw [rankOf_unitsOf hx, rankOf_unitsOf hy] at hrank
    have heq := unitsOf_eq_of_rank_eq hx hy (by omega)
    omega
  . exact Int.not_lt.mp hlt

theorem unitsOf_nonneg {x : Float} (hx : x.isFinite = true) (h : 0 ≤ rank x) : 0 ≤ unitsOf x := by
  obtain ⟨s, r, hu, hrx, hr⟩ := exists_finite_shape hx
  rw [hrx] at h
  unfold unitsOf
  generalize x.toModel.unpack = u at hu
  cases hu with
  | notANumber _ _ h => omega
  | infinity => omega
  | zero s => exact Int.le_refl 0
  | finite s m e hm =>
    have hpos := unitRank_pos e hm
    cases s with
    | negative =>
      simp only [Sign.apply] at h
      omega
    | positive => exact Int.natCast_nonneg _

theorem isNumber_sub {x y : Float} (hx : x.isFinite = true) (hy : y.isFinite = true)
    : IsNumber (x - y) := by
  unfold IsNumber
  rw [rank_sub hx hy]
  apply natAbs_rankOf_le

theorem rank_sub_eq_zero {x y : Float} (hx : x.isFinite = true) (hy : y.isFinite = true)
    (h : rank x = rank y) : rank (x - y) = 0 := by
  rw [rank_sub hx hy, unitsOf_eq_of_rank_eq hx hy h, Int.sub_self, Int.zero_mul, rankOf_zero]

theorem rank_sub_le_sub {x y z : Float} (hx : x.isFinite = true) (hy : y.isFinite = true)
    (hz : z.isFinite = true) (h : rank y ≤ rank z) : rank (x - z) ≤ rank (x - y) := by
  -- what is subtracted grows, so the difference does not
  have hunits := unitsOf_mono hy hz h
  rw [rank_sub hx hz, rank_sub hx hy]
  apply rankOf_mono
  apply Int.mul_le_mul_of_nonneg_right
  . omega
  . exact Int.natCast_nonneg _

theorem isNumber_mul {x y : Float} (hx : x.isFinite = true) (hy : y.isFinite = true)
    : IsNumber (x * y) := by
  unfold IsNumber
  rw [rank_mul hx hy]
  apply natAbs_rankOf_le

theorem rank_mul_nonneg {x y : Float} (hx : x.isFinite = true) (hy : y.isFinite = true)
    (hxpos : 0 ≤ rank x) (hypos : 0 ≤ rank y) : 0 ≤ rank (x * y) := by
  have hproduct := Int.mul_nonneg (unitsOf_nonneg hx hxpos) (unitsOf_nonneg hy hypos)
  have hrank := rankOf_mono hproduct
  rw [rankOf_zero] at hrank
  rw [rank_mul hx hy]
  exact hrank

theorem rank_mul_le_mul {x y z : Float} (hx : x.isFinite = true) (hy : y.isFinite = true)
    (hz : z.isFinite = true) (hxpos : 0 ≤ rank x) (h : rank y ≤ rank z)
    : rank (x * y) ≤ rank (x * z) := by
  rw [rank_mul hx hy, rank_mul hx hz]
  apply rankOf_mono
  apply Int.mul_le_mul_of_nonneg_left
  . exact unitsOf_mono hy hz h
  . exact unitsOf_nonneg hx hxpos

theorem apply_natAbs_positive (s : Sign) (r : Nat)
    : Sign.positive.apply r = ((s.apply r).natAbs : Int) := by
  rw [natAbs_apply]
  rfl

theorem ranked_abs {u : UnpackedFloat} {s : Sign} {r : Nat} (hu : Shaped u s r)
    (hr : r ≤ topRank) : Ranked u.abs (s.apply r).natAbs := by
  rw [← apply_natAbs_positive]
  cases hu with
  | notANumber _ _ h => omega
  | infinity s => exact .infinity .positive
  | zero s => exact .zero .positive
  | finite s m e hm hcanonical hrange =>
    rw [← Nat.min_eq_left hr]
    exact .finite .positive m e hm hcanonical

theorem ranked_neg {u : UnpackedFloat} {s : Sign} {r : Nat} (hu : Shaped u s r)
    (hr : r ≤ topRank) : Ranked u.neg (-(s.apply r)) := by
  rw [← neg_apply]
  cases hu with
  | notANumber _ _ h => omega
  | infinity s => exact .infinity (-s)
  | zero s =>
    have hzero : (-s).apply (0 : Nat) = 0 := by cases s <;> rfl
    rw [hzero]
    exact .zero (-s)
  | finite s m e hm hcanonical hrange =>
    rw [← Nat.min_eq_left hr]
    exact .finite (-s) m e hm hcanonical

theorem rank_abs {x : Float} (h : IsNumber x) : rank x.abs = (rank x).natAbs := by
  obtain ⟨s, r, hu, hr⟩ := exists_shaped_unpack x
  unfold IsNumber at h
  rw [hr, natAbs_apply] at h
  rw [hr]
  exact rank_pack (ranked_abs hu h)

theorem rank_neg {x : Float} (h : IsNumber x) : rank (-x) = -(rank x) := by
  obtain ⟨s, r, hu, hr⟩ := exists_shaped_unpack x
  unfold IsNumber at h
  rw [hr, natAbs_apply] at h
  rw [hr]
  exact rank_pack (ranked_neg hu h)

theorem isFinite_neg {x : Float} (h : x.isFinite = true) : (-x).isFinite = true := by
  rw [isFinite_iff, rank_neg (isNumber_of_isFinite h), Int.natAbs_neg, ← isFinite_iff]
  exact h

theorem isNumber_abs {x : Float} (h : IsNumber x) : IsNumber x.abs := by
  unfold IsNumber
  rw [rank_abs h, Int.natAbs_natCast]
  exact h

theorem Shaped.eq_infinity {u : UnpackedFloat} {s : Sign} (h : Shaped u s topRank)
    : u = .infinity s := by
  generalize hr : topRank = r at h
  have htop := topRank_pos
  cases h with
  | notANumber => omega
  | infinity => rfl
  | zero => omega
  | finite _ m e _ hcanonical hrange =>
    have hlt := unitRank_lt_topRank hcanonical hrange
    omega

theorem unpack_of_rank_eq_topRank {x : Float} (h : rank x = topRank)
    : x.toModel.unpack = .infinity .positive := by
  obtain ⟨s, r, hu, hr⟩ := exists_shaped_unpack x
  have htop := topRank_pos
  rw [hr] at h
  obtain ⟨rfl, rfl⟩ : s = .positive ∧ r = topRank := by
    cases s <;> simp only [Sign.apply] at h
    . omega
    . exact ⟨rfl, by omega⟩
  exact hu.eq_infinity

theorem rank_mul_infinity {x y : Float} (hx : x.isFinite = true) (hpos : 0 < rank x)
    (hy : rank y = topRank) : rank (x * y) = topRank := by
  obtain ⟨s, r, hu, hr, hlt⟩ := exists_finite_shape hx
  have hv := unpack_of_rank_eq_topRank hy
  rw [hr] at hpos
  have hranked : Ranked (UnpackedFloat.mul Format.binary64 x.toModel.unpack y.toModel.unpack)
      topRank := by
    rw [hv]
    generalize x.toModel.unpack = u at hu
    cases hu with
    | notANumber _ _ h => omega
    | infinity => omega
    | zero s =>
      cases s <;> contradiction
    | finite s m e hm =>
      cases s with
      | negative =>
        simp only [Sign.apply] at hpos
        omega
      | positive => exact .infinity .positive
  exact rank_pack hranked

theorem not_isNumber_notANumber : ¬ IsNumber (.ofModel (.pack .notANumber)) := by
  unfold IsNumber
  decide +kernel

theorem infinity_sub_cases (v : UnpackedFloat)
    : UnpackedFloat.sub Format.binary64 (.infinity .positive) v = .infinity .positive ∨
        UnpackedFloat.sub Format.binary64 (.infinity .positive) v = .notANumber := by
  cases v with
  | notANumber => exact .inr rfl
  | infinity t =>
    cases t with
    | negative => exact .inl rfl
    | positive => exact .inr rfl
  | zero t => exact .inl rfl
  | finite => exact .inl rfl

theorem not_infinity_sub_lt {x : Float} (hx : rank x = topRank) (y z : Float)
    : ¬ x - y < z := by
  -- what is subtracted from infinity leaves it or leaves no number
  have hu := unpack_of_rank_eq_topRank hx
  have hsub : x - y = .ofModel (.pack
      (UnpackedFloat.sub Format.binary64 (.infinity .positive) y.toModel.unpack)) := by
    rw [← hu]
    rfl
  rw [lt_iff, hsub]
  intro hlt
  obtain ⟨hnumber, hz, hrank⟩ := hlt
  rcases infinity_sub_cases y.toModel.unpack with hinfinity | hnan
  . rw [hinfinity, rank_pack (.infinity .positive)] at hrank
    unfold IsNumber at hz
    simp only [Sign.apply] at hrank
    omega
  . rw [hnan] at hnumber
    exact not_isNumber_notANumber hnumber

theorem rank_zero : rank 0.0 = 0 := by
  decide +kernel

theorem rank_infinity : rank Scalar.infinity = topRank := by
  decide +kernel

end Galley.Binary64
