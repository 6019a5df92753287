import Mathlib.Data.Set.Function
import Mathlib.Tactic.Linarith
import Galley.Proofs.Real.Scalar
import Galley.Geometry.Direction
import Galley.Geometry.Sheet

/-!
This module contains the quarter turns with which a sheet is displayed: they move the sheet onto its
displayed bounds, and the direction of all text with it.
-/

namespace Galley

/-- The points of a box, edges included. -/
def Box.region (b : Box ℝ) : Set (Point ℝ) := {p | b.contains p.x p.y = true}

theorem Box.mem_region {b : Box ℝ} {p : Point ℝ}
    : p ∈ b.region ↔ (b.x0 ≤ p.x ∧ p.x ≤ b.x1) ∧ b.y0 ≤ p.y ∧ p.y ≤ b.y1 := by
  simp [Box.region, Box.contains, and_assoc]

/-- A motion with an inverse that takes exactly the points of one box into another. -/
theorem Box.bijOn_region {f g : Point ℝ → Point ℝ} {b c : Box ℝ} (hgf : ∀ p, g (f p) = p)
    (hfg : ∀ p, f (g p) = p) (hregion : ∀ p, f p ∈ c.region ↔ p ∈ b.region)
    : Set.BijOn f b.region c.region := by
  refine ⟨fun p hp => (hregion p).mpr hp, ?_, ?_⟩
  . intro p _ q _ heq
    rw [← hgf p, heq, hgf q]
  . intro p hp
    refine ⟨g p, ?_, hfg p⟩
    rw [← hregion, hfg p]
    exact hp

namespace Transform

/-- The map and then a quarter turn clockwise about the origin. -/
def clockwise (m : Transform ℝ) : Transform ℝ := ⟨m.b, -m.a, m.d, -m.c, m.f, -m.e⟩

/-- Whether text drawn through a map that does not mirror it leads in a direction: the entries on
the larger diagonal have the signs of the direction. -/
def Leads (m : Transform ℝ) : Direction → Prop
  | .right => |m.b * m.c| < |m.a * m.d| ∧ 0 < m.a ∧ 0 < m.d
  | .up => |m.a * m.d| < |m.b * m.c| ∧ 0 < m.b ∧ m.c < 0
  | .left => |m.b * m.c| < |m.a * m.d| ∧ m.a < 0 ∧ m.d < 0
  | .down => |m.a * m.d| < |m.b * m.c| ∧ m.b < 0 ∧ 0 < m.c

variable {m : Transform ℝ}

theorem exists_leads (hdet : 0 < m.a * m.d - m.b * m.c) (hne : |m.a * m.d| ≠ |m.b * m.c|)
    : ∃ r, m.Leads r := by
  rcases lt_or_gt_of_ne hne with hlt | hlt
  . have hneg : m.b * m.c < 0 := by
      by_contra hnonneg
      rw [abs_of_nonneg (not_lt.mp hnonneg)] at hlt
      have := le_abs_self (m.a * m.d)
      linarith
    rcases mul_neg_iff.mp hneg with ⟨hb, hc⟩ | ⟨hb, hc⟩
    . exact ⟨.up, hlt, hb, hc⟩
    . exact ⟨.down, hlt, hb, hc⟩
  . have hpos : 0 < m.a * m.d := by
      by_contra hnonpos
      rw [abs_of_nonpos (not_lt.mp hnonpos)] at hlt
      have := neg_abs_le (m.b * m.c)
      linarith
    rcases mul_pos_iff.mp hpos with ⟨ha, hd⟩ | ⟨ha, hd⟩
    . exact ⟨.right, hlt, ha, hd⟩
    . exact ⟨.left, hlt, ha, hd⟩

theorem ofTransform_real (m : Transform ℝ)
    : Direction.ofTransform m =
        if |m.b * m.c| ≤ |m.a * m.d| then if 0 < m.a ∨ 0 < m.d then .right else .left
        else if 0 < m.b ∨ m.c < 0 then .up
        else .down := by
  unfold Direction.ofTransform
  simp only [Scalar.zero_real, Scalar.abs_real]

theorem Leads.ofTransform {r : Direction} (h : m.Leads r) : Direction.ofTransform m = r := by
  rw [ofTransform_real]
  cases r with
  | right =>
    obtain ⟨hlt, ha, hd⟩ := h
    rw [if_pos hlt.le, if_pos (.inl ha)]
  | up =>
    obtain ⟨hlt, hb, hc⟩ := h
    rw [if_neg hlt.not_ge, if_pos (.inl hb)]
  | left =>
    obtain ⟨hlt, ha, hd⟩ := h
    rw [if_pos hlt.le, if_neg (by simp [ha.le, hd.le])]
  | down =>
    obtain ⟨hlt, hb, hc⟩ := h
    rw [if_neg hlt.not_ge, if_neg (by simp [hb.le, hc.le])]

theorem Leads.clockwise {r : Direction} (h : m.Leads r) : m.clockwise.Leads (r.turned 3) := by
  have hbc : |-m.a * m.d| = |m.a * m.d| := by rw [neg_mul, abs_neg]
  have had : |m.b * -m.c| = |m.b * m.c| := by rw [mul_neg, abs_neg]
  cases r with
  | right =>
    obtain ⟨hlt, ha, hd⟩ := h
    show |m.b * -m.c| < |-m.a * m.d| ∧ -m.a < 0 ∧ 0 < m.d
    rw [had, hbc]
    exact ⟨hlt, neg_neg_of_pos ha, hd⟩
  | up =>
    obtain ⟨hlt, hb, hc⟩ := h
    show |-m.a * m.d| < |m.b * -m.c| ∧ 0 < m.b ∧ 0 < -m.c
    rw [had, hbc]
    exact ⟨hlt, hb, neg_pos_of_neg hc⟩
  | left =>
    obtain ⟨hlt, ha, hd⟩ := h
    show |m.b * -m.c| < |-m.a * m.d| ∧ 0 < -m.a ∧ m.d < 0
    rw [had, hbc]
    exact ⟨hlt, neg_pos_of_neg ha, hd⟩
  | down =>
    obtain ⟨hlt, hb, hc⟩ := h
    show |-m.a * m.d| < |m.b * -m.c| ∧ m.b < 0 ∧ -m.c < 0
    rw [had, hbc]
    exact ⟨hlt, hb, neg_neg_of_pos hc⟩

/-- Only the first four entries of a map tell where text drawn through it leads. -/
theorem Leads.of_linear {n : Transform ℝ} {r : Direction} (h : m.Leads r) (ha : n.a = m.a)
    (hb : n.b = m.b) (hc : n.c = m.c) (hd : n.d = m.d) : n.Leads r := by
  cases r <;> simpa only [Leads, ha, hb, hc, hd] using h

end Transform

namespace Sheet

variable (s : Sheet ℝ)

/-- The number of clockwise quarter turns with which the sheet is displayed. -/
def quarters : ℕ := (s.normalizedTurn / 90).toNat

theorem normalizedTurn_cases
    : s.normalizedTurn = 0 ∨ s.normalizedTurn = 90 ∨ s.normalizedTurn = 180 ∨
        s.normalizedTurn = 270 := by
  unfold normalizedTurn
  omega

theorem bijOn_transform
    : Set.BijOn (fun p => s.transform.apply p.x p.y) (⟨0, 0, s.width, s.height⟩ : Box ℝ).region
        s.bounds.region := by
  rcases s.normalizedTurn_cases with h | h | h | h
  . have happly : (fun p : Point ℝ => s.transform.apply p.x p.y) = fun p => p := by
      simp [transform, h, Transform.apply, Transform.identity]
    have hbounds : s.bounds = ⟨0, 0, s.width, s.height⟩ := by simp [bounds, displaySize, h]
    rw [happly, hbounds]
    exact Set.bijOn_id _
  . have happly : (fun p : Point ℝ => s.transform.apply p.x p.y) =
        fun p => ⟨p.y, s.width - p.x⟩ := by
      simp [transform, h, Transform.apply, neg_add_eq_sub]
    have hbounds : s.bounds = ⟨0, 0, s.height, s.width⟩ := by simp [bounds, displaySize, h]
    rw [happly, hbounds]
    apply Box.bijOn_region (g := fun p => ⟨s.width - p.y, p.x⟩)
    . simp
    . simp
    . intro p
      simp [Box.mem_region, and_comm]
  . have happly : (fun p : Point ℝ => s.transform.apply p.x p.y) =
        fun p => ⟨s.width - p.x, s.height - p.y⟩ := by
      simp [transform, h, Transform.apply, neg_add_eq_sub]
    have hbounds : s.bounds = ⟨0, 0, s.width, s.height⟩ := by simp [bounds, displaySize, h]
    rw [happly, hbounds]
    apply Box.bijOn_region (g := fun p => ⟨s.width - p.x, s.height - p.y⟩)
    . simp
    . simp
    . intro p
      simp [Box.mem_region, and_comm]
  . have happly : (fun p : Point ℝ => s.transform.apply p.x p.y) =
        fun p => ⟨s.height - p.y, p.x⟩ := by
      simp [transform, h, Transform.apply, neg_add_eq_sub]
    have hbounds : s.bounds = ⟨0, 0, s.height, s.width⟩ := by simp [bounds, displaySize, h]
    rw [happly, hbounds]
    apply Box.bijOn_region (g := fun p => ⟨p.y, s.height - p.x⟩)
    . simp
    . simp
    . intro p
      simp [Box.mem_region, and_comm]

theorem leads_concat_transform {m : Transform ℝ} {r : Direction} (h : m.Leads r)
    : (m.concat s.transform).Leads (r.turned ((4 - s.quarters) % 4)) := by
  unfold quarters
  rcases s.normalizedTurn_cases with hturn | hturn | hturn | hturn
  . have hlead : m.Leads (r.turned 0) := by cases r <;> exact h
    rw [hturn]
    apply hlead.of_linear <;> simp [transform, hturn, Transform.concat, Transform.identity]
  . rw [hturn]
    apply h.clockwise.of_linear <;> simp [transform, hturn, Transform.concat, Transform.clockwise]
  . have hlead : m.clockwise.clockwise.Leads (r.turned 2) := by
      cases r <;> exact h.clockwise.clockwise
    rw [hturn]
    apply hlead.of_linear <;> simp [transform, hturn, Transform.concat, Transform.clockwise]
  . have hlead : m.clockwise.clockwise.clockwise.Leads (r.turned 1) := by
      cases r <;> exact h.clockwise.clockwise.clockwise
    rw [hturn]
    apply hlead.of_linear <;> simp [transform, hturn, Transform.concat, Transform.clockwise]

theorem transform_turns_text (s : Sheet ℝ)
    : Set.BijOn (fun p => s.transform.apply p.x p.y) (⟨0, 0, s.width, s.height⟩ : Box ℝ).region
        s.bounds.region ∧
      ∀ m : Transform ℝ, 0 < m.a * m.d - m.b * m.c → |m.a * m.d| ≠ |m.b * m.c| →
        Direction.ofTransform (m.concat s.transform) =
          (Direction.ofTransform m).turned ((4 - s.quarters) % 4) := by
  refine ⟨s.bijOn_transform, ?_⟩
  intro m hdet hne
  obtain ⟨r, hleads⟩ := Transform.exists_leads hdet hne
  rw [hleads.ofTransform, (s.leads_concat_transform hleads).ofTransform]

/-- A map that scales, leans and shifts. -/
def leaning {α : Type} [Scalar α] : Transform α := ⟨2.0, 1.0, -1.0, 3.0, 5.0, 7.0⟩

theorem transform_turns_text_leaning
    : let s : Sheet ℝ := ⟨612, 792, -50⟩
      let m : Transform ℝ := leaning
      s.quarters = 3 ∧ 0 < m.a * m.d - m.b * m.c ∧ |m.a * m.d| ≠ |m.b * m.c| ∧
        Direction.ofTransform (m.concat s.transform) =
          (Direction.ofTransform m).turned ((4 - s.quarters) % 4) := by
  intro s m
  have hdet : 0 < m.a * m.d - m.b * m.c := by norm_num [m, leaning]
  have hne : |m.a * m.d| ≠ |m.b * m.c| := by norm_num [m, leaning]
  exact ⟨rfl, hdet, hne, s.transform_turns_text.2 m hdet hne⟩

end Sheet
end Galley
