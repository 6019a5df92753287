import Galley.Proofs.Binary64.Extremes
import Galley.Proofs.Line.Group

/-!
This module contains the words that a line drops: the scan over the kept words, which stops at the
first one that is too far away, misses no word that is repeated.
-/

namespace Galley

open Binary64

theorem any_takeWhile_iff {β : Type} {near same : β → Bool} {l : List β}
    (h : l.Pairwise fun a b => near b = true → near a = true)
    : (l.takeWhile near).any same = true ↔ ∃ a ∈ l, near a = true ∧ same a = true := by
  induction l with
  | nil => simp
  | cons a rest ih =>
    rw [List.pairwise_cons] at h
    cases hnear : near a with
    | false =>
      have hfar : ∀ b ∈ rest, near b = false := by
        intro b hb
        cases hb' : near b with
        | false => rfl
        | true =>
          have := h.1 b hb hb'
          rw [hnear] at this
          contradiction
      rw [List.takeWhile_cons_of_neg (by simp [hnear])]
      constructor
      . intro hany
        contradiction
      . rintro ⟨b, hb, hb', _⟩
        cases hb with
        | head =>
          rw [hnear] at hb'
          contradiction
        | tail _ hb =>
          rw [hfar b hb] at hb'
          contradiction
    | true =>
      rw [List.takeWhile_cons_of_pos hnear, List.any_cons, Bool.or_eq_true, ih h.2]
      simp [hnear]

namespace Word

theorem signed_isFinite {x : Float} (h : x.isFinite = true) (r : Direction)
    : (r.signed x).isFinite = true := by
  cases r with
  | right => exact h
  | up => exact h
  | left => exact isFinite_neg h
  | down => exact isFinite_neg h

theorem leastOf_isFinite_or {xs : List Float} (h : ∀ x ∈ xs, x.isFinite = true)
    : (Scalar.leastOf xs).isFinite = true ∨ rank (Scalar.leastOf xs) = topRank := by
  by_cases hne : xs = []
  . rw [hne]
    exact .inr rank_infinity
  . left
    apply h
    apply leastOf_mem _ hne
    exact fun x hx => isNumber_of_isFinite (h x hx)

theorem start_isFinite_or {w : Word Float} (h : ∀ e ∈ w.edges, e.isFinite = true)
    : w.start.isFinite = true ∨ rank w.start = topRank := by
  -- a word whose edges are finite begins at a finite coordinate, or nowhere if it has no edges
  unfold start
  apply leastOf_isFinite_or
  intro x hx
  obtain ⟨e, he, rfl⟩ := List.mem_map.mp hx
  exact signed_isFinite (h e he) w.direction

end Word

namespace Line

theorem standsBefore_iff (a b : Word Float)
    : standsBefore a b = true ↔
        orderKey a.start < orderKey b.start ∨
          (orderKey a.start = orderKey b.start ∧ a.order ≤ b.order) := by
  have horder : Scalar.order a.start b.start = compare (orderKey a.start) (orderKey b.start) := rfl
  unfold standsBefore
  rw [horder]
  rcases Int.lt_trichotomy (orderKey a.start) (orderKey b.start) with hlt | heq | hgt
  . rw [Int.compare_eq_lt.mpr hlt]
    simp [hlt]
  . rw [Int.compare_eq_eq.mpr heq]
    simp [heq]
  . rw [Int.compare_eq_gt.mpr hgt]
    simp
    omega

theorem standsBefore_trans (a b c : Word Float) (hab : standsBefore a b = true)
    (hbc : standsBefore b c = true) : standsBefore a c = true := by
  rw [standsBefore_iff] at hab hbc ⊢
  omega

theorem standsBefore_total (a b : Word Float)
    : (standsBefore a b || standsBefore b a) = true := by
  rw [Bool.or_eq_true, standsBefore_iff, standsBefore_iff]
  omega

theorem Group.pairwise_sorted (g : Group Float)
    : g.sorted.Pairwise fun a b => standsBefore a b = true :=
  List.pairwise_mergeSort standsBefore_trans standsBefore_total g.words

theorem rank_start_le {a b : Word Float} (h : standsBefore a b = true)
    : rank a.start ≤ rank b.start := by
  rw [standsBefore_iff] at h
  apply rank_le_of_orderKey_le
  omega

/-- Whether `w` would be printed twice if `k` is printed. -/
structure Repeats (options : LineOptions Float) (k w : Word Float) : Prop where
  text : k.text = w.text
  along : w.start - k.start < options.duplicateAlong * w.size
  across : Scalar.abs (k.base - w.base) < options.duplicateAcross * w.size

theorem near_of_standsBefore {k k' w : Word Float} {far : Float}
    (hedges : ∀ v ∈ [k, k', w], ∀ e ∈ v.edges, e.isFinite = true)
    (hk : standsBefore k k' = true) (hw : standsBefore k' w = true)
    (h : w.start - k.start < far) : w.start - k'.start < far := by
  -- a word between two others is nearer to the last than the first is
  have hkk := rank_start_le hk
  have hkw := rank_start_le hw
  have hfinite : w.start.isFinite = true := by
    rcases Word.start_isFinite_or (hedges w (by simp)) with hfinite | htop
    . exact hfinite
    . exact absurd h (not_infinity_sub_lt htop k.start far)
  have hwlt := (isFinite_iff _).mp hfinite
  have hfinite' : k'.start.isFinite = true := by
    rcases Word.start_isFinite_or (hedges k' (by simp)) with hfinite' | htop
    . exact hfinite'
    . omega
  have hklt := (isFinite_iff _).mp hfinite'
  have hfinite'' : k.start.isFinite = true := by
    rcases Word.start_isFinite_or (hedges k (by simp)) with hfinite'' | htop
    . exact hfinite''
    . omega
  rw [lt_iff] at h ⊢
  have hsub := rank_sub_le_sub hfinite hfinite'' hfinite' hkk
  exact ⟨isNumber_sub hfinite hfinite', h.2.1, by omega⟩

theorem repeats_iff (options : LineOptions Float) {kept : List (Word Float)} {w : Word Float}
    (hedges : ∀ v ∈ w :: kept, ∀ e ∈ v.edges, e.isFinite = true)
    (hsorted : (w :: kept).Pairwise fun a b => standsBefore b a = true)
    : repeats options kept w = true ↔ ∃ k ∈ kept, Repeats options k w := by
  rw [List.pairwise_cons] at hsorted
  have hnear : kept.Pairwise fun a b =>
      decide (w.start - b.start < options.duplicateAlong * w.size) = true →
        decide (w.start - a.start < options.duplicateAlong * w.size) = true := by
    apply List.Pairwise.imp_of_mem _ hsorted.2
    intro a b ha hb hba h
    rw [decide_eq_true_iff] at h ⊢
    apply near_of_standsBefore _ hba (hsorted.1 a ha) h
    intro v hv
    simp only [List.mem_cons, List.not_mem_nil, or_false] at hv
    rcases hv with rfl | rfl | rfl
    . exact hedges v (by simp [hb])
    . exact hedges v (by simp [ha])
    . exact hedges v (by simp)
  unfold repeats
  rw [any_takeWhile_iff hnear]
  simp only [decide_eq_true_iff, Bool.and_eq_true, beq_iff_eq]
  constructor
  . rintro ⟨k, hk, halong, htext, hacross⟩
    exact ⟨k, hk, htext, halong, hacross⟩
  . rintro ⟨k, hk, htext, halong, hacross⟩
    exact ⟨k, hk, halong, htext, hacross⟩

/-- For each word whether it is kept. -/
def flags (options : LineOptions Float) (kept : List (Word Float)) : List (Word Float) → List Bool
  | [] => []
  | w :: rest =>
    if repeats options kept w then false :: flags options kept rest
    else true :: flags options (w :: kept) rest

theorem length_flags (options : LineOptions Float) (kept words : List (Word Float))
    : (flags options kept words).length = words.length := by
  induction words generalizing kept with
  | nil => rfl
  | cons w rest ih =>
    unfold flags
    split
    . rw [List.length_cons, ih, List.length_cons]
    . rw [List.length_cons, ih, List.length_cons]

theorem foldl_keep_eq (options : LineOptions Float) (kept words : List (Word Float))
    : (words.foldl (keep options) kept).reverse =
        kept.reverse ++ ((words.zip (flags options kept words)).filter Prod.snd).map Prod.fst := by
  induction words generalizing kept with
  | nil => simp
  | cons w rest ih =>
    rw [List.foldl_cons, ih, flags]
    unfold keep
    split
    . simp
    . simp

theorem exists_kept_succ {β : Type} (P : β → Prop) (v : β) (rest : List β) (f : Bool)
    (fs : List Bool) (i : Nat)
    : (∃ j k, j < i + 1 ∧ (v :: rest)[j]? = some k ∧ (f :: fs)[j]? = some true ∧ P k) ↔
        (f = true ∧ P v) ∨ ∃ j k, j < i ∧ rest[j]? = some k ∧ fs[j]? = some true ∧ P k := by
  constructor
  . rintro ⟨j, k, hj, hk, hf, hp⟩
    cases j with
    | zero =>
      left
      rw [List.getElem?_cons_zero, Option.some_inj] at hk hf
      rw [hk]
      exact ⟨hf, hp⟩
    | succ j => exact .inr ⟨j, k, by omega, hk, hf, hp⟩
  . rintro (⟨hf, hp⟩ | ⟨j, k, hj, hk, hf, hp⟩)
    . exact ⟨0, v, by omega, rfl, by rw [hf]; rfl, hp⟩
    . exact ⟨j + 1, k, by omega, hk, hf, hp⟩

theorem flags_eq_false_iff (options : LineOptions Float) (kept words : List (Word Float))
    (hedges : ∀ v ∈ kept.reverse ++ words, ∀ e ∈ v.edges, e.isFinite = true)
    (hsorted : (kept.reverse ++ words).Pairwise fun a b => standsBefore a b = true)
    {i : Nat} {w : Word Float} (hw : words[i]? = some w)
    : (flags options kept words)[i]? = some false ↔
        (∃ k ∈ kept, Repeats options k w) ∨
          ∃ j k, j < i ∧ words[j]? = some k ∧ (flags options kept words)[j]? = some true ∧
            Repeats options k w := by
  -- the induction is on the words to come; each is compared with those kept and those between
  induction words generalizing kept i with
  | nil => contradiction
  | cons v rest ih =>
    have hrepeats : repeats options kept v = true ↔ ∃ k ∈ kept, Repeats options k v := by
      apply repeats_iff
      . intro u hu
        apply hedges
        rw [List.mem_append, List.mem_reverse]
        cases hu with
        | head => simp
        | tail _ hu => exact .inl hu
      . rw [List.append_cons, List.pairwise_append, ← List.reverse_cons,
          List.pairwise_reverse] at hsorted
        exact hsorted.1
    rw [flags]
    cases hkept : repeats options kept v with
    | true =>
      rw [if_pos rfl]
      cases i with
      | zero =>
        rw [List.getElem?_cons_zero, Option.some_inj] at hw
        rw [List.getElem?_cons_zero, ← hw, ← hrepeats, hkept]
        simp
      | succ i =>
        rw [List.getElem?_cons_succ] at hw ⊢
        rw [exists_kept_succ (Repeats options · w), ih kept _ _ hw]
        . simp
        . intro u hu
          apply hedges
          rw [List.mem_append] at hu ⊢
          rcases hu with hu | hu
          . exact .inl hu
          . exact .inr (by simp [hu])
        . apply List.Pairwise.sublist _ hsorted
          apply List.Sublist.append_left
          apply List.sublist_cons_self
    | false =>
      rw [if_neg (by simp)]
      cases i with
      | zero =>
        rw [List.getElem?_cons_zero, Option.some_inj] at hw
        rw [List.getElem?_cons_zero, ← hw, ← hrepeats, hkept]
        simp
      | succ i =>
        rw [List.getElem?_cons_succ] at hw ⊢
        rw [exists_kept_succ (Repeats options · w), ih (v :: kept) _ _ hw]
        . simp only [List.mem_cons, or_and_right, exists_or, exists_eq_left, true_and]
          rw [or_assoc, or_left_comm]
        . rw [List.reverse_cons, ← List.append_cons]
          exact hedges
        . rw [List.reverse_cons, ← List.append_cons]
          exact hsorted

/--
What a line keeps of its words: none that repeats a kept one in front of it, and every other one.
-/
def DropsRepeats (options : LineOptions Float) (words kept : List (Word Float)) : Prop :=
  ∃ flags : List Bool, flags.length = words.length ∧
    kept = ((words.zip flags).filter Prod.snd).map Prod.fst ∧
    ∀ (i : Nat) (w : Word Float), words[i]? = some w →
      (flags[i]? = some false ↔
        ∃ (j : Nat) (k : Word Float),
          j < i ∧ words[j]? = some k ∧ flags[j]? = some true ∧ Repeats options k w)

theorem dropRepeats_dropsRepeats (options : LineOptions Float) {words : List (Word Float)}
    (hedges : ∀ v ∈ words, ∀ e ∈ v.edges, e.isFinite = true)
    (hsorted : words.Pairwise fun a b => standsBefore a b = true)
    : DropsRepeats options words (dropRepeats options words) := by
  refine ⟨flags options [] words, length_flags options [] words, ?_, ?_⟩
  . rw [dropRepeats_eq, foldl_keep_eq]
    rfl
  . intro i w hw
    rw [flags_eq_false_iff options [] words hedges hsorted hw]
    simp

end Line
end Galley
