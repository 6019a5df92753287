import Galley.Pool

/-!
This module contains the words of pools: adding a word, to whatever bucket of whatever pool, adds it
once and loses none.
-/

namespace Galley

theorem perm_cons_append_left {β : Type} {a : β} {l m : List β} (k : List β)
    (h : l.Perm (a :: m)) : (k ++ l).Perm (a :: (k ++ m)) := by
  apply (h.append_left k).trans
  apply List.perm_middle

variable {α : Type} [Scalar α]

namespace Pool

omit [Scalar α] in
theorem flatMap_insertAt_perm (index : Int) (w : Word α) (buckets : List (Int × List (Word α)))
    : ((insertAt index w buckets).flatMap (·.2)).Perm (w :: buckets.flatMap (·.2)) := by
  induction buckets with
  | nil => simp [insertAt]
  | cons bucket rest ih =>
    obtain ⟨i, words⟩ := bucket
    unfold insertAt
    split
    . simp
    . split
      . simp only [List.flatMap_cons, List.append_assoc, List.singleton_append]
        apply List.perm_middle
      . simp only [List.flatMap_cons]
        exact perm_cons_append_left words ih

theorem words_add_perm (p : Pool α) (w : Word α) : (p.add w).words.Perm (w :: p.words) := by
  apply flatMap_insertAt_perm

theorem words_foldl_add_perm (p : Pool α) (added : List (Word α))
    : (added.foldl add p).words.Perm (added ++ p.words) := by
  induction added generalizing p with
  | nil => exact .refl _
  | cons w rest ih =>
    rw [List.foldl_cons, List.cons_append]
    apply (ih (p.add w)).trans
    exact perm_cons_append_left rest (p.words_add_perm w)

@[simp]
theorem direction_add (p : Pool α) (w : Word α) : (p.add w).direction = p.direction := by
  rfl

@[simp]
theorem direction_foldl_add (p : Pool α) (added : List (Word α))
    : (added.foldl add p).direction = p.direction := by
  induction added generalizing p with
  | nil => rfl
  | cons w rest ih => rw [List.foldl_cons, ih, direction_add]

end Pool

namespace Pools

omit [Scalar α] in
theorem words_eq (p : Pools α)
    : p.words = p.right.words ++ (p.up.words ++ (p.left.words ++ p.down.words)) := by
  simp [words, all, Direction.all, pool]

theorem words_add_perm (p : Pools α) (w : Word α) : (p.add w).words.Perm (w :: p.words) := by
  unfold add
  rw [p.words_eq]
  split
  . rw [words_eq]
    exact (p.right.words_add_perm w).append_right _
  . rw [words_eq]
    apply perm_cons_append_left
    exact (p.up.words_add_perm w).append_right _
  . rw [words_eq]
    apply perm_cons_append_left
    apply perm_cons_append_left
    exact (p.left.words_add_perm w).append_right _
  . rw [words_eq]
    apply perm_cons_append_left
    apply perm_cons_append_left
    apply perm_cons_append_left
    exact p.down.words_add_perm w

theorem words_foldl_add_perm (p : Pools α) (added : List (Word α))
    : (added.foldl add p).words.Perm (added ++ p.words) := by
  induction added generalizing p with
  | nil => exact .refl _
  | cons w rest ih =>
    rw [List.foldl_cons, List.cons_append]
    apply (ih (p.add w)).trans
    exact perm_cons_append_left rest (p.words_add_perm w)

theorem words_ofWords_perm (bucketHeight : α) (added : List (Word α))
    : (ofWords bucketHeight added).words.Perm added := by
  have h := words_foldl_add_perm (empty bucketHeight) added
  rw [show (empty bucketHeight).words = [] from rfl, List.append_nil] at h
  exact h

theorem pool_add (p : Pools α) (w : Word α) (r : Direction)
    : (p.add w).pool r = if w.direction = r then (p.pool r).add w else p.pool r := by
  unfold add
  cases hw : w.direction <;> cases r <;> rfl

theorem pool_foldl_add (p : Pools α) (added : List (Word α)) (r : Direction)
    : (added.foldl add p).pool r =
        (added.filter fun w => decide (w.direction = r)).foldl Pool.add (p.pool r) := by
  induction added generalizing p with
  | nil => rfl
  | cons w rest ih =>
    rw [List.foldl_cons, ih, pool_add, List.filter_cons]
    by_cases hw : w.direction = r
    . rw [if_pos hw, if_pos (decide_eq_true hw), List.foldl_cons]
    . rw [if_neg hw, if_neg (by simpa using hw)]

theorem pool_ofWords (bucketHeight : α) (added : List (Word α)) (r : Direction)
    : (ofWords bucketHeight added).pool r =
        (added.filter fun w => decide (w.direction = r)).foldl Pool.add
          (.empty r bucketHeight) := by
  have hempty : (empty bucketHeight).pool r = Pool.empty r bucketHeight := by
    cases r <;> rfl
  unfold ofWords
  rw [pool_foldl_add, hempty]

theorem mem_words_pool_ofWords {bucketHeight : α} {added : List (Word α)} {r : Direction}
    {w : Word α} (h : w ∈ ((ofWords bucketHeight added).pool r).words)
    : w ∈ added ∧ w.direction = r := by
  rw [pool_ofWords, (Pool.words_foldl_add_perm _ _).mem_iff] at h
  rw [show (Pool.empty r bucketHeight).words = [] from rfl, List.append_nil, List.mem_filter] at h
  exact ⟨h.1, of_decide_eq_true h.2⟩

end Pools
end Galley
