import Galley.Proofs.Binary64.Extremes
import Galley.Proofs.Line.Group

/-!
This module contains the baselines of lines: every word of a group is close to the baseline of the
group, and the baselines of successive groups are apart.
-/

namespace Galley

open Binary64

theorem isFinite_or_of_isNumber {x : Float} (h : IsNumber x) (hpos : 0 ≤ rank x)
    : x.isFinite = true ∨ rank x = topRank := by
  unfold IsNumber at h
  rw [isFinite_iff]
  omega

theorem isNumber_zero : IsNumber 0.0 := by
  unfold IsNumber
  rw [rank_zero]
  exact Nat.zero_le _

theorem isPositive_iff (x : Float)
    : Scalar.isPositive x = true ↔ x.isFinite = true ∧ 0 < rank x := by
  have hfinite : Scalar.isFinite x = x.isFinite := rfl
  unfold Scalar.isPositive
  rw [Bool.and_eq_true, decide_eq_true_iff, hfinite]
  constructor
  . rintro ⟨hx, hlt⟩
    rw [lt_iff_rank_lt isNumber_zero (isNumber_of_isFinite hx), rank_zero] at hlt
    exact ⟨hx, hlt⟩
  . rintro ⟨hx, hlt⟩
    rw [lt_iff_rank_lt isNumber_zero (isNumber_of_isFinite hx), rank_zero]
    exact ⟨hx, hlt⟩

section Product

variable {t x y : Float} (ht : t.isFinite = true) (hpos : 0 < rank t)
include ht hpos

theorem isNumber_mul_of_nonneg (hx : IsNumber x) (hx0 : 0 ≤ rank x) : IsNumber (t * x) := by
  rcases isFinite_or_of_isNumber hx hx0 with hfinite | htop
  . exact isNumber_mul ht hfinite
  . unfold IsNumber
    rw [rank_mul_infinity ht hpos htop]
    omega

theorem rank_mul_nonneg_of_nonneg (hx : IsNumber x) (hx0 : 0 ≤ rank x) : 0 ≤ rank (t * x) := by
  rcases isFinite_or_of_isNumber hx hx0 with hfinite | htop
  . exact rank_mul_nonneg ht hfinite (by omega) hx0
  . rw [rank_mul_infinity ht hpos htop]
    omega

theorem rank_mul_le_mul_of_nonneg (hx : IsNumber x) (hx0 : 0 ≤ rank x) (hy : IsNumber y)
    (hxy : rank x ≤ rank y) : rank (t * x) ≤ rank (t * y) := by
  rcases isFinite_or_of_isNumber hy (by omega) with hfinite | htop
  . rcases isFinite_or_of_isNumber hx hx0 with hfinite' | htop'
    . exact rank_mul_le_mul ht hfinite' hfinite (by omega) hxy
    . rw [isFinite_iff] at hfinite
      omega
  . have hnumber := isNumber_mul_of_nonneg ht hpos hx hx0
    unfold IsNumber at hnumber
    rw [rank_mul_infinity ht hpos htop]
    omega

end Product

namespace Line

/-- A word whose place and size lines can be made of. -/
structure Placed (w : Word Float) : Prop where
  base : w.base.isFinite = true
  isNumber_size : IsNumber w.size
  size_nonneg : 0 ≤ rank w.size

/-- A group in which every word is close to the baseline, by the size of the largest one. -/
structure Group.Tight (tolerance : Float) (g : Group Float) : Prop where
  base : g.base.isFinite = true
  isNumber_size : IsNumber g.size
  size_nonneg : 0 ≤ rank g.size
  exists_size : ∃ w ∈ g.words, IsNumber w.size ∧ rank w.size = rank g.size
  size_le : ∀ w ∈ g.words, w.size ≤ g.size
  exists_base : ∃ w ∈ g.words, w.base = g.base
  distance : ∀ w ∈ g.words, Scalar.abs (w.base - g.base) ≤ tolerance * g.size

section Tight

variable {tolerance : Float} (ht : tolerance.isFinite = true) (hpos : 0 < rank tolerance)
include ht hpos

theorem abs_sub_le_of_rank_eq {x y s : Float} (hx : x.isFinite = true) (hy : y.isFinite = true)
    (h : rank x = rank y) (hs : IsNumber s) (hs0 : 0 ≤ rank s)
    : Scalar.abs (x - y) ≤ tolerance * s := by
  -- words on the same baseline are close, whatever their sizes
  have hsub := isNumber_sub hx hy
  have hproduct := isNumber_mul_of_nonneg ht hpos hs hs0
  have hproduct0 := rank_mul_nonneg_of_nonneg ht hpos hs hs0
  show (x - y).abs ≤ tolerance * s
  rw [le_iff_rank_le (isNumber_abs hsub) hproduct, rank_abs hsub, rank_sub_eq_zero hx hy h]
  exact hproduct0

theorem Group.Tight.ofWord {w : Word Float} (hw : Placed w)
    : (Group.ofWord w).Tight tolerance := by
  have hnumber : IsNumber (Group.ofWord w).size :=
    isNumber_greatest isNumber_zero hw.isNumber_size
  have hrank : rank (Group.ofWord w).size = rank w.size := by
    have hgreatest := rank_greatest isNumber_zero hw.isNumber_size
    rw [rank_zero] at hgreatest
    show rank (Scalar.greatest 0.0 w.size) = _
    have hnonneg := hw.size_nonneg
    omega
  constructor
  . exact hw.base
  . exact hnumber
  . rw [hrank]
    exact hw.size_nonneg
  . exact ⟨w, by simp, hw.isNumber_size, hrank.symm⟩
  . intro v hv
    rw [Group.words_ofWord, List.mem_singleton] at hv
    rw [hv]
    exact (le_iff_rank_le hw.isNumber_size hnumber).mpr (Int.le_of_eq hrank.symm)
  . exact ⟨w, by simp, rfl⟩
  . intro v hv
    rw [Group.words_ofWord, List.mem_singleton] at hv
    rw [hv]
    apply abs_sub_le_of_rank_eq ht hpos hw.base hw.base rfl hnumber
    rw [hrank]
    exact hw.size_nonneg

theorem Group.Tight.push {g : Group Float} {w : Word Float} (hg : g.Tight tolerance)
    (hw : Placed w) (hadmits : g.admits tolerance w = true) : (g.push w).Tight tolerance := by
  have hnumber : IsNumber (g.push w).size := isNumber_greatest hg.isNumber_size hw.isNumber_size
  have hrank : rank (g.push w).size = max (rank g.size) (rank w.size) :=
    rank_greatest hg.isNumber_size hw.isNumber_size
  have hgnonneg := hg.size_nonneg
  have hgrows : rank (tolerance * g.size) ≤ rank (tolerance * (g.push w).size) :=
    rank_mul_le_mul_of_nonneg ht hpos hg.isNumber_size hgnonneg hnumber (by omega)
  have hproduct : IsNumber (tolerance * (g.push w).size) :=
    isNumber_mul_of_nonneg ht hpos hnumber (by omega)
  constructor
  . exact hg.base
  . exact hnumber
  . omega
  . by_cases hlt : rank g.size < rank w.size
    . exact ⟨w, by simp, hw.isNumber_size, by omega⟩
    . obtain ⟨v, hv, hvnumber, hvrank⟩ := hg.exists_size
      exact ⟨v, by simp [hv], hvnumber, by omega⟩
  . intro v hv
    rw [Group.words_push, List.mem_append, List.mem_singleton] at hv
    rcases hv with hv | hv
    . have hle := (le_iff _ _).mp (hg.size_le v hv)
      rw [le_iff]
      exact ⟨hle.1, hnumber, by omega⟩
    . rw [hv, le_iff_rank_le hw.isNumber_size hnumber]
      omega
  . obtain ⟨v, hv, hbase⟩ := hg.exists_base
    exact ⟨v, by simp [hv], hbase⟩
  . intro v hv
    rw [Group.words_push, List.mem_append, List.mem_singleton] at hv
    rcases hv with hv | hv
    . have hle := (le_iff _ _).mp (hg.distance v hv)
      rw [le_iff]
      exact ⟨hle.1, hproduct, Int.le_trans hle.2.2 hgrows⟩
    . rw [hv]
      exact of_decide_eq_true hadmits

theorem groups.tight_of_mem_go {g h : Group Float} {rest : List (Word Float)}
    (hg : g.Tight tolerance) (hrest : ∀ w ∈ rest, Placed w) (hmem : h ∈ groups.go tolerance g rest)
    : h.Tight tolerance := by
  induction rest generalizing g with
  | nil =>
    simp only [groups.go, List.mem_singleton] at hmem
    rw [hmem]
    exact hg
  | cons w rest ih =>
    have hw := hrest w (by simp)
    have hrest' : ∀ v ∈ rest, Placed v := fun v hv => hrest v (by simp [hv])
    unfold groups.go at hmem
    split at hmem
    next hadmits => exact ih (hg.push ht hpos hw hadmits) hrest' hmem
    next hadmits =>
      cases hmem with
      | head => exact hg
      | tail _ hmem => exact ih (.ofWord ht hpos hw) hrest' hmem

theorem tight_of_mem_groups {g : Group Float} {words : List (Word Float)}
    (hwords : ∀ w ∈ words, Placed w) (hmem : g ∈ groups tolerance words) : g.Tight tolerance := by
  unfold groups at hmem
  split at hmem
  . contradiction
  next w rest =>
    apply groups.tight_of_mem_go ht hpos _ _ hmem
    . exact .ofWord ht hpos (hwords w (by simp))
    . exact fun v hv => hwords v (by simp [hv])

end Tight

/-- Whether a baseline lies before another one in the order of lines. -/
def Precedes (direction : Direction) (a b : Float) : Prop :=
  match direction with
  | .right | .down => b < a
  | .up | .left => a < b

theorem precedes_iff (direction : Direction) (a b : Float)
    : Precedes direction a b ↔ if direction.linesDescend then b < a else a < b := by
  cases direction <;> rfl

/-- The same where the baselines may also be equal. -/
def Reaches (direction : Direction) (a b : Float) : Prop :=
  if direction.linesDescend then rank b ≤ rank a else rank a ≤ rank b

theorem baseBefore_iff (direction : Direction) (a b : Word Float)
    : baseBefore direction a b = true ↔
        if direction.linesDescend then orderKey b.base ≤ orderKey a.base
          else orderKey a.base ≤ orderKey b.base := by
  have horder : ∀ x y : Float, (Scalar.order x y != .gt) = true ↔ orderKey x ≤ orderKey y := by
    intro x y
    rw [bne_iff_ne]
    exact Int.compare_ne_gt
  unfold baseBefore
  split
  . exact horder b.base a.base
  . exact horder a.base b.base

theorem baseBefore_trans (direction : Direction) (a b c : Word Float)
    (hab : baseBefore direction a b = true) (hbc : baseBefore direction b c = true)
    : baseBefore direction a c = true := by
  rw [baseBefore_iff] at hab hbc ⊢
  split at hab
  next hdescend =>
    rw [if_pos hdescend] at hbc ⊢
    omega
  next hdescend =>
    rw [if_neg hdescend] at hbc ⊢
    omega

theorem baseBefore_total (direction : Direction) (a b : Word Float)
    : (baseBefore direction a b || baseBefore direction b a) = true := by
  rw [Bool.or_eq_true, baseBefore_iff, baseBefore_iff]
  split <;> omega

theorem reaches_of_baseBefore {direction : Direction} {a b : Word Float}
    (h : baseBefore direction a b = true) : Reaches direction a.base b.base := by
  rw [baseBefore_iff] at h
  unfold Reaches
  split
  next hdescend =>
    rw [if_pos hdescend] at h
    exact rank_le_of_orderKey_le h
  next hdescend =>
    rw [if_neg hdescend] at h
    exact rank_le_of_orderKey_le h

theorem groups.base_of_mem_go {tolerance : Float} {g h : Group Float} {rest : List (Word Float)}
    (hmem : h ∈ groups.go tolerance g rest) : h.base = g.base ∨ ∃ w ∈ rest, h.base = w.base := by
  induction rest generalizing g with
  | nil =>
    simp only [groups.go, List.mem_singleton] at hmem
    rw [hmem]
    exact .inl rfl
  | cons w rest ih =>
    unfold groups.go at hmem
    split at hmem
    . rcases ih hmem with hbase | ⟨v, hv, hbase⟩
      . exact .inl hbase
      . exact .inr ⟨v, by simp [hv], hbase⟩
    . cases hmem with
      | head => exact .inl rfl
      | tail _ hmem =>
        rcases ih hmem with hbase | ⟨v, hv, hbase⟩
        . exact .inr ⟨w, by simp, hbase⟩
        . exact .inr ⟨v, by simp [hv], hbase⟩

theorem precedes_of_reaches {direction : Direction} {a b : Float} (ha : a.isFinite = true)
    (hb : b.isFinite = true) (h : Reaches direction a b) (hne : rank a ≠ rank b)
    : Precedes direction a b := by
  have hanumber := isNumber_of_isFinite ha
  have hbnumber := isNumber_of_isFinite hb
  unfold Reaches at h
  rw [precedes_iff]
  split
  next hdescend =>
    rw [if_pos hdescend] at h
    rw [lt_iff_rank_lt hbnumber hanumber]
    omega
  next hdescend =>
    rw [if_neg hdescend] at h
    rw [lt_iff_rank_lt hanumber hbnumber]
    omega

theorem Precedes.reaches {direction : Direction} {a b c : Float} (h : Precedes direction a b)
    (hc : c.isFinite = true) (hbc : Reaches direction b c) : Precedes direction a c := by
  have hcnumber := isNumber_of_isFinite hc
  unfold Reaches at hbc
  rw [precedes_iff] at h ⊢
  split at h
  next hdescend =>
    rw [if_pos hdescend] at hbc ⊢
    rw [lt_iff] at h ⊢
    exact ⟨hcnumber, h.2.1, by omega⟩
  next hdescend =>
    rw [if_neg hdescend] at hbc ⊢
    rw [lt_iff] at h ⊢
    exact ⟨h.1, hcnumber, by omega⟩

section Pairwise

variable {tolerance : Float} (ht : tolerance.isFinite = true) (hpos : 0 < rank tolerance)
include ht hpos

theorem precedes_of_not_admits {direction : Direction} {g : Group Float} {w : Word Float}
    (hg : g.Tight tolerance) (hw : Placed w) (hadmits : ¬ g.admits tolerance w = true)
    (hreaches : Reaches direction g.base w.base) : Precedes direction g.base w.base := by
  apply precedes_of_reaches hg.base hw.base hreaches
  intro heq
  apply hadmits
  unfold Group.admits
  rw [decide_eq_true_iff]
  have hgnonneg := hg.size_nonneg
  have hrank := rank_greatest hg.isNumber_size hw.isNumber_size
  apply abs_sub_le_of_rank_eq ht hpos hw.base hg.base heq.symm
  . exact isNumber_greatest hg.isNumber_size hw.isNumber_size
  . omega

theorem groups.pairwise_go {direction : Direction} {g : Group Float} {rest : List (Word Float)}
    (hg : g.Tight tolerance) (hrest : ∀ w ∈ rest, Placed w)
    (hreaches : ∀ w ∈ rest, Reaches direction g.base w.base)
    (hsorted : rest.Pairwise fun a b => Reaches direction a.base b.base)
    : (groups.go tolerance g rest).Pairwise fun h k => Precedes direction h.base k.base := by
  -- the invariant is that all words to come lie on the baseline of the group or behind it
  induction rest generalizing g with
  | nil => simp [groups.go]
  | cons w rest ih =>
    have hw := hrest w (by simp)
    have hrest' : ∀ v ∈ rest, Placed v := fun v hv => hrest v (by simp [hv])
    rw [List.pairwise_cons] at hsorted
    unfold groups.go
    split
    next hadmits =>
      apply ih (hg.push ht hpos hw hadmits) hrest' _ hsorted.2
      exact fun v hv => hreaches v (by simp [hv])
    next hadmits =>
      have hprecedes := precedes_of_not_admits ht hpos hg hw hadmits (hreaches w (by simp))
      rw [List.pairwise_cons]
      refine ⟨?_, ih (.ofWord ht hpos hw) hrest' hsorted.1 hsorted.2⟩
      intro h hmem
      rcases groups.base_of_mem_go hmem with hbase | ⟨v, hv, hbase⟩
      . rw [hbase]
        exact hprecedes
      . rw [hbase]
        exact hprecedes.reaches (hrest' v hv).base (hsorted.1 v hv)

theorem pairwise_groups {direction : Direction} {words : List (Word Float)}
    (hwords : ∀ w ∈ words, Placed w)
    (hsorted : words.Pairwise fun a b => Reaches direction a.base b.base)
    : (groups tolerance words).Pairwise fun h k => Precedes direction h.base k.base := by
  unfold groups
  split
  . exact .nil
  next w rest =>
    rw [List.pairwise_cons] at hsorted
    apply groups.pairwise_go ht hpos
    . exact .ofWord ht hpos (hwords w (by simp))
    . exact fun v hv => hwords v (by simp [hv])
    . exact hsorted.1
    . exact hsorted.2

end Pairwise

end Line
end Galley
