import Galley.Proofs.Binary64.Arithmetic

/-!
This module contains negation of doubles, which changes the sign bit alone: packing what was
unpacked gives the same double back, so that negating twice does, and negation turns the order
around.
-/

open Float.Model Float.Model.UnpackedFloat

namespace Galley.Binary64

theorem eq_of_toNat_toBits {x y : Float} (h : x.toBits.toNat = y.toBits.toNat) : x = y := by
  obtain ⟨⟨a, ha⟩⟩ := x
  obtain ⟨⟨b, hb⟩⟩ := y
  have hbits : a = b := UInt64.toNat_inj.mp h
  subst hbits
  rfl

theorem eq_of_rank_eq {x y : Float} (h : rank x = rank y) (h0 : rank x ≠ 0) : x = y := by
  apply eq_of_toNat_toBits
  unfold rank at h h0
  split at h
  . split at h <;> omega
  . split at h <;> omega

theorem eq_zero_of_rank_eq_zero {x : Float} (h : rank x = 0) : x = 0.0 ∨ x = -0.0 := by
  have hpositive : (0.0 : Float).toBits.toNat = 0 := by decide +kernel
  have hnegative : (-0.0 : Float).toBits.toNat = signBit := by decide +kernel
  unfold rank at h
  split at h
  . left
    apply eq_of_toNat_toBits
    omega
  . right
    apply eq_of_toNat_toBits
    omega

theorem orderKey_inj {x y : Float} (h : orderKey x = orderKey y) : x = y := by
  apply eq_of_toNat_toBits
  unfold orderKey at h
  simp only at h
  split at h
  . split at h <;> omega
  . split at h <;> omega

theorem orderKey_of_rank_ne_zero {x : Float} (h : rank x ≠ 0)
    : orderKey x = if 0 < rank x then rank x else rank x - 1 := by
  rw [orderKey_eq]
  unfold rank at h ⊢
  split
  next hlt =>
    rw [if_pos hlt] at h
    rw [if_pos (by omega)]
  next hlt =>
    rw [if_neg hlt] at h
    rw [if_neg (by omega)]

theorem Shaped.unique {u v : UnpackedFloat} {s : Sign} {r : Nat} (hu : Shaped u s r)
    (hv : Shaped v s r) : u = v := by
  have htop := topRank_pos
  cases hu with
  | notANumber _ _ h => exact (hv.eq_notANumber h).symm
  | infinity => exact hv.eq_infinity.symm
  | zero =>
    generalize hr : (0 : Nat) = r at hv
    cases hv with
    | notANumber => omega
    | infinity => omega
    | zero => rfl
    | finite _ n f hn =>
      have hpos := unitRank_pos f hn
      omega
  | finite _ m e hm hcanonical hrange =>
    have hpos := unitRank_pos e hm
    have hlt := unitRank_lt_topRank hcanonical hrange
    generalize hr : unitRank m e = r at hv
    cases hv with
    | notANumber => omega
    | infinity => omega
    | zero => omega
    | finite _ n f hn hcanonical' =>
      obtain ⟨hmn, hef⟩ := unitRank_inj hcanonical hcanonical' hr
      subst hmn hef
      rfl

theorem Shaped.ranked {u : UnpackedFloat} {s : Sign} {r : Nat} (h : Shaped u s r)
    (hr : r ≤ topRank) : Ranked u (s.apply r) := by
  cases h with
  | notANumber _ _ h => omega
  | infinity => exact .infinity s
  | zero =>
    have hzero : s.apply (0 : Nat) = 0 := by cases s <;> rfl
    rw [hzero]
    exact .zero s
  | finite _ m e hm hcanonical =>
    rw [← Nat.min_eq_left hr]
    exact .finite s m e hm hcanonical

theorem unpack_pack_zero (s : Sign) : (Float.Model.pack (.zero s)).unpack = .zero s := by
  cases s <;> rfl

theorem unpack_pack_notANumber : (Float.Model.pack .notANumber).unpack = .notANumber := by
  rfl

theorem Shaped.unpack_pack {u : UnpackedFloat} {s : Sign} {r : Nat} (h : Shaped u s r)
    : (Float.Model.pack u).unpack = u := by
  by_cases htop : topRank < r
  . rw [h.eq_notANumber htop]
    exact unpack_pack_notANumber
  by_cases hzero : r = 0
  . have hu : u = .zero s := by
      rw [hzero] at h
      exact h.unique (.zero s)
    rw [hu]
    exact unpack_pack_zero s
  . obtain ⟨t, q, hv, hq⟩ := exists_shaped_unpack (.ofModel (.pack u))
    rw [rank_pack (h.ranked (by omega))] at hq
    obtain ⟨rfl, rfl⟩ := apply_inj (by omega) hq
    exact hv.unique h

theorem exists_shaped (x : Float) : ∃ s r, Shaped x.toModel.unpack s r := by
  obtain ⟨s, r, h, _⟩ := exists_shaped_unpack x
  exact ⟨s, r, h⟩

theorem eq_pack_notANumber {x : Float} (h : ¬ IsNumber x) : x = .ofModel (.pack .notANumber) := by
  obtain ⟨⟨⟨b⟩, hvalid⟩⟩ := x
  have hb := b.isLt
  have hm := toNat_unpackMantissa b
  have he := toNat_unpackExponent b
  have hbits : (Float.toBits (.ofModel ⟨⟨b⟩, hvalid⟩)).toNat = b.toNat := rfl
  unfold IsNumber rank signBit topRank at h
  rw [hbits] at h
  have hexponent : @unpackExponent Format.binary64 b = -1#11 := by
    have hones : (-1#11).toNat = 2047 := by decide
    apply BitVec.eq_of_toNat_eq
    rw [he, hones]
    split at h <;> omega
  have hmantissa : @unpackMantissa Format.binary64 b ≠ 0#52 := by
    intro hzero
    rw [hzero] at hm
    change 0 = _ at hm
    split at h <;> omega
  have hnan : b = packedNaN Format.binary64 := hvalid.eq_packedNaN hexponent hmantissa
  subst hnan
  rfl

theorem pack_unpack (x : Float) : Float.ofModel (.pack x.toModel.unpack) = x := by
  obtain ⟨s, r, hu, hr⟩ := exists_shaped_unpack x
  by_cases htop : topRank < r
  . have hnan : ¬ IsNumber x := by
      unfold IsNumber
      rw [hr, natAbs_apply]
      omega
    rw [hu.eq_notANumber htop]
    exact (eq_pack_notANumber hnan).symm
  . have hrank : rank (.ofModel (.pack x.toModel.unpack)) = rank x := by
      rw [hr]
      exact rank_pack (hu.ranked (by omega))
    by_cases hzero : rank x = 0
    . rcases eq_zero_of_rank_eq_zero hzero with h | h
      . rw [h]
        rfl
      . rw [h]
        rfl
    . exact eq_of_rank_eq hrank (by omega)

theorem unpack_of_rank_eq_zero {x : Float} (h : rank x = 0) : ∃ s, x.toModel.unpack = .zero s := by
  obtain ⟨s, r, hu, hr⟩ := exists_shaped_unpack x
  have hzero : r = 0 := by
    rw [← natAbs_apply s r, ← hr, h]
    rfl
  rw [hzero] at hu
  exact ⟨s, hu.unique (.zero s)⟩

/-- A number that is not finite is one of the two infinities. -/
theorem unpack_of_isNumber {x : Float} (h : IsNumber x)
    : x.isFinite = true ∨ ∃ s, x.toModel.unpack = .infinity s := by
  obtain ⟨s, r, hu, hr⟩ := exists_shaped_unpack x
  unfold IsNumber at h
  rw [hr, natAbs_apply] at h
  by_cases htop : r = topRank
  . right
    rw [htop] at hu
    exact ⟨s, hu.eq_infinity⟩
  . left
    rw [isFinite_iff, hr, natAbs_apply]
    omega

theorem unpack_of_not_isFinite {x : Float} (h : ¬ x.isFinite = true)
    : x.toModel.unpack = .notANumber ∨ ∃ s, x.toModel.unpack = .infinity s := by
  by_cases hnumber : IsNumber x
  . exact .inr ((unpack_of_isNumber hnumber).resolve_left h)
  . left
    rw [eq_pack_notANumber hnumber]
    rfl

theorem rank_of_unpack_infinity {x : Float} {s : Sign} (h : x.toModel.unpack = .infinity s)
    : rank x = s.apply topRank := by
  rw [← pack_unpack x, h]
  exact rank_pack (.infinity s)

theorem Shaped.neg {u : UnpackedFloat} {s : Sign} {r : Nat} (h : Shaped u s r)
    : Shaped u.neg (-s) r := by
  cases h with
  | notANumber _ _ h => exact .notANumber _ _ h
  | infinity => exact .infinity _
  | zero => exact .zero _
  | finite _ m e hm hcanonical hrange => exact .finite _ m e hm hcanonical hrange

theorem unpack_neg (x : Float) : (-x).toModel.unpack = x.toModel.unpack.neg := by
  obtain ⟨s, r, hu⟩ := exists_shaped x
  exact hu.neg.unpack_pack

theorem unpacked_neg_neg (u : UnpackedFloat) : u.neg.neg = u := by
  cases u with
  | notANumber => rfl
  | infinity s => cases s <;> rfl
  | zero s => cases s <;> rfl
  | finite s => cases s <;> rfl

theorem neg_neg (x : Float) : - -x = x := by
  have hneg : - -x = .ofModel (.pack (-x).toModel.unpack.neg) := rfl
  rw [hneg, unpack_neg, unpacked_neg_neg, pack_unpack]

theorem isNumber_neg {x : Float} (h : IsNumber x) : IsNumber (-x) := by
  unfold IsNumber
  rw [rank_neg h, Int.natAbs_neg]
  exact h

theorem rank_neg_congr {x x' : Float} (h : rank x = rank x') : rank (-x) = rank (-x') := by
  by_cases h0 : rank x = 0
  . have hzero : ∀ {y : Float}, rank y = 0 → rank (-y) = 0 := by
      intro y hy
      have hnumber : IsNumber y := by
        unfold IsNumber
        rw [hy]
        exact Nat.zero_le _
      rw [rank_neg hnumber, hy]
      rfl
    rw [hzero h0, hzero (h ▸ h0)]
  . rw [eq_of_rank_eq h h0]

theorem orderKey_neg {x : Float} (h : IsNumber x) : orderKey (-x) = -1 - orderKey x := by
  by_cases h0 : rank x = 0
  . rcases eq_zero_of_rank_eq_zero h0 with hx | hx
    . rw [hx]
      decide +kernel
    . rw [hx]
      decide +kernel
  . have hrank := rank_neg h
    rw [orderKey_of_rank_ne_zero h0, orderKey_of_rank_ne_zero (by omega), hrank]
    split <;> split <;> omega

theorem unitsOf_neg (x : Float) : unitsOf (-x) = -unitsOf x := by
  unfold unitsOf
  rw [unpack_neg]
  cases x.toModel.unpack with
  | finite s m e hm => exact units_neg s e hm
  | _ => rfl

theorem rankOf_neg (n : Int) : rankOf (-n) = -rankOf n := by
  rcases Int.lt_trichotomy n 0 with hlt | heq | hgt
  . unfold rankOf
    rw [if_neg (by omega), if_pos hlt, Int.natAbs_neg]
    omega
  . rw [heq, Int.neg_zero, rankOf_zero]
    rfl
  . unfold rankOf
    rw [if_pos (by omega), if_neg (by omega), Int.natAbs_neg]

end Galley.Binary64
