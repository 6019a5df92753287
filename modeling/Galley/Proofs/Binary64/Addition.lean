import Galley.Proofs.Binary64.Negation

/-!
This module contains sums of doubles as differences, their monotonicity, and that a sum depends on
the ranks of its terms alone, which is how far the sign of a zero reaches.
-/

open Float.Model Float.Model.UnpackedFloat

namespace Galley.Binary64

theorem unpacked_sub_neg (u v : UnpackedFloat)
    : UnpackedFloat.sub .binary64 u v.neg = UnpackedFloat.add .binary64 u v := by
  cases v with
  | notANumber => cases u <;> rfl
  | infinity t => cases u <;> cases t <;> rfl
  | zero t => cases u <;> cases t <;> rfl
  | finite t n f hn =>
    cases u with
    | finite s m e hm =>
      dsimp only [UnpackedFloat.neg, UnpackedFloat.sub, UnpackedFloat.add]
      rw [neg_apply, Int.sub_neg]
    | _ => cases t <;> rfl

theorem sub_neg_eq_add (x y : Float) : x - -y = x + y := by
  have hsub : x - -y = .ofModel (.pack
      (UnpackedFloat.sub .binary64 x.toModel.unpack (-y).toModel.unpack)) := rfl
  rw [hsub, unpack_neg, unpacked_sub_neg]
  rfl

theorem sub_eq_add_neg (x y : Float) : x - y = x + -y := by
  rw [← sub_neg_eq_add, neg_neg]

theorem add_comm (x y : Float) : x + y = y + x := by
  have hadd : UnpackedFloat.add .binary64 x.toModel.unpack y.toModel.unpack =
      UnpackedFloat.add .binary64 y.toModel.unpack x.toModel.unpack := by
    generalize x.toModel.unpack = u
    generalize y.toModel.unpack = v
    cases u with
    | infinity s =>
      cases v with
      | infinity t => cases s <;> cases t <;> rfl
      | _ => rfl
    | zero s =>
      cases v with
      | zero t => cases s <;> cases t <;> rfl
      | _ => rfl
    | finite s m e hm =>
      cases v with
      | finite t n f hn =>
        dsimp only [UnpackedFloat.add]
        rw [Int.min_comm, Int.add_comm]
      | _ => rfl
    | notANumber => cases v <;> rfl
  have hsum : x + y = .ofModel (.pack
      (UnpackedFloat.add .binary64 x.toModel.unpack y.toModel.unpack)) := rfl
  rw [hsum, hadd]
  rfl

theorem neg_sub_neg (x y : Float) : -x - -y = y - x := by
  rw [sub_neg_eq_add, add_comm, sub_eq_add_neg]

theorem rank_add {x y : Float} (hx : x.isFinite = true) (hy : y.isFinite = true)
    : rank (x + y) = rankOf ((unitsOf x + unitsOf y) * (2 ^ fineness : Nat)) := by
  rw [← sub_neg_eq_add, rank_sub hx (isFinite_neg hy), unitsOf_neg, Int.sub_neg]

theorem isNumber_add {x y : Float} (hx : x.isFinite = true) (hy : y.isFinite = true)
    : IsNumber (x + y) := by
  unfold IsNumber
  rw [rank_add hx hy]
  apply natAbs_rankOf_le

theorem rank_add_le_add {x y z w : Float} (hx : x.isFinite = true) (hy : y.isFinite = true)
    (hz : z.isFinite = true) (hw : w.isFinite = true) (hxz : rank x ≤ rank z)
    (hyw : rank y ≤ rank w) : rank (x + y) ≤ rank (z + w) := by
  have hleft := unitsOf_mono hx hz hxz
  have hright := unitsOf_mono hy hw hyw
  rw [rank_add hx hy, rank_add hz hw]
  apply rankOf_mono
  apply Int.mul_le_mul_of_nonneg_right
  . omega
  . exact Int.natCast_nonneg _

theorem rank_le_add {x y : Float} (hx : x.isFinite = true) (hy : y.isFinite = true)
    (h : 0 ≤ rank y) : rank x ≤ rank (x + y) := by
  have hunits := unitsOf_nonneg hy h
  rw [rank_add hx hy, ← rankOf_unitsOf hx]
  apply rankOf_mono
  apply Int.mul_le_mul_of_nonneg_right
  . omega
  . exact Int.natCast_nonneg _

theorem add_infinity {x y : Float} (hy : y.isFinite = true) {s : Sign}
    (hx : x.toModel.unpack = .infinity s) : x + y = x := by
  have hadd : x + y = .ofModel (.pack
      (UnpackedFloat.add .binary64 (.infinity s) y.toModel.unpack)) := by
    rw [← hx]
    rfl
  obtain ⟨t, q, hv, _, hq⟩ := exists_finite_shape hy
  have hsum : UnpackedFloat.add .binary64 (.infinity s) y.toModel.unpack = .infinity s := by
    generalize y.toModel.unpack = v at hv
    cases hv with
    | notANumber _ _ h => omega
    | infinity => omega
    | zero => rfl
    | finite => rfl
  rw [hadd, hsum, ← hx, pack_unpack]

theorem isNumber_add_of_isNumber {x y : Float} (hx : IsNumber x) (hy : y.isFinite = true)
    : IsNumber (x + y) := by
  rcases unpack_of_isNumber hx with hfinite | ⟨s, hs⟩
  . exact isNumber_add hfinite hy
  . rw [add_infinity hy hs]
    exact hx

theorem rank_le_add_of_isNumber {x y : Float} (hx : IsNumber x) (hy : y.isFinite = true)
    (h : 0 ≤ rank y) : rank x ≤ rank (x + y) := by
  rcases unpack_of_isNumber hx with hfinite | ⟨s, hs⟩
  . exact rank_le_add hfinite hy h
  . exact Int.le_of_eq (by rw [add_infinity hy hs])

theorem isNumber_sub_of_isNumber {x y : Float} (hx : x.isFinite = true) (hy : IsNumber y)
    : IsNumber (x - y) := by
  rw [sub_eq_add_neg, add_comm]
  exact isNumber_add_of_isNumber (isNumber_neg hy) hx

theorem rank_sub_le_sub_right {x y z : Float} (hx : x.isFinite = true) (hy : y.isFinite = true)
    (hz : IsNumber z) (h : rank x ≤ rank y) : rank (x - z) ≤ rank (y - z) := by
  rw [sub_eq_add_neg, sub_eq_add_neg]
  rcases unpack_of_isNumber (isNumber_neg hz) with hfinite | ⟨s, hs⟩
  . exact rank_add_le_add hx hfinite hy hfinite h (Int.le_refl _)
  . exact Int.le_of_eq (by rw [add_comm, add_infinity hx hs, add_comm, add_infinity hy hs])

theorem not_sub_lt_of_le {x y z t : Float} (hx : x.isFinite = true) (hy : IsNumber y)
    (hz : IsNumber z) (h : rank x ≤ rank y) (hlt : ¬ x - z < t) : ¬ y - z < t := by
  by_cases hfinite : y.isFinite = true
  . have hle := rank_sub_le_sub_right hx hfinite hz h
    intro hyz
    rw [lt_iff] at hlt hyz
    exact hlt ⟨isNumber_sub_of_isNumber hx hz, hyz.2.1, by omega⟩
  . apply not_infinity_sub_lt
    rw [isFinite_iff] at hx hfinite
    unfold IsNumber at hy
    omega

theorem rank_add_of_rank_eq_zero {x : Float} (h : rank x = 0) (y : Float)
    : rank (x + y) = rank y := by
  obtain ⟨s, hs⟩ := unpack_of_rank_eq_zero h
  have hadd
      : x + y = .ofModel (.pack (UnpackedFloat.add .binary64 (.zero s) y.toModel.unpack)) := by
    rw [← hs]
    rfl
  have hy := pack_unpack y
  rw [hadd]
  generalize y.toModel.unpack = v at hy
  rw [← hy]
  cases v with
  | zero t => cases s <;> cases t <;> decide +kernel
  | _ => rfl

theorem rank_add_congr {x x' y y' : Float} (hx : rank x = rank x') (hy : rank y = rank y')
    : rank (x + y) = rank (x' + y') := by
  -- doubles of one rank are the same or both zero, and a zero adds nothing
  have hleft : ∀ {a a' : Float}, rank a = rank a' → ∀ b, rank (a + b) = rank (a' + b) := by
    intro a a' h b
    by_cases h0 : rank a = 0
    . rw [rank_add_of_rank_eq_zero h0, rank_add_of_rank_eq_zero (h ▸ h0)]
    . rw [eq_of_rank_eq h h0]
  rw [hleft hx y, add_comm, hleft hy x', add_comm]

theorem rank_sub_congr {x x' y y' : Float} (hx : rank x = rank x') (hy : rank y = rank y')
    : rank (x - y) = rank (x' - y') := by
  rw [sub_eq_add_neg, sub_eq_add_neg]
  exact rank_add_congr hx (rank_neg_congr hy)

theorem neg_add_neg_of_not_isFinite {x : Float} (h : ¬ x.isFinite = true) (y : Float)
    : -x + -y = -(x + y) := by
  have hsum : -x + -y = .ofModel (.pack
      (UnpackedFloat.add .binary64 (-x).toModel.unpack (-y).toModel.unpack)) := rfl
  have hneg : -(x + y) = .ofModel (.pack (Float.Model.pack
      (UnpackedFloat.add .binary64 x.toModel.unpack y.toModel.unpack)).unpack.neg) := rfl
  have hinfinity : ∀ s : Sign, (Float.Model.pack (.infinity s)).unpack = .infinity s := by
    intro s
    cases s <;> rfl
  rw [hsum, hneg, unpack_neg, unpack_neg]
  generalize y.toModel.unpack = v
  rcases unpack_of_not_isFinite h with hnan | ⟨s, hs⟩
  . have hadd : ∀ w, UnpackedFloat.add .binary64 .notANumber w = .notANumber := by
      intro w
      cases w <;> rfl
    have hnone : UnpackedFloat.neg .notANumber = .notANumber := rfl
    rw [hnan, hadd, hnone, hadd, unpack_pack_notANumber, hnone]
  . rw [hs]
    cases v with
    | infinity t => cases s <;> cases t <;> rfl
    | notANumber =>
      dsimp only [UnpackedFloat.add, UnpackedFloat.neg]
      rw [unpack_pack_notANumber]
    | zero t =>
      dsimp only [UnpackedFloat.add, UnpackedFloat.neg]
      rw [hinfinity]
    | finite t n f hn =>
      dsimp only [UnpackedFloat.add, UnpackedFloat.neg]
      rw [hinfinity]

theorem rank_neg_add_neg (x y : Float) : rank (-x + -y) = rank (-(x + y)) := by
  by_cases hx : x.isFinite = true
  . by_cases hy : y.isFinite = true
    . rw [rank_neg (isNumber_add hx hy), rank_add (isFinite_neg hx) (isFinite_neg hy),
        rank_add hx hy, unitsOf_neg, unitsOf_neg, ← Int.neg_add, Int.neg_mul, rankOf_neg]
    . rw [add_comm, neg_add_neg_of_not_isFinite hy, add_comm]
  . rw [neg_add_neg_of_not_isFinite hx]

end Galley.Binary64
