import Galley.Line

/-!
This module contains the words of lines, whatever the numbers are that they stand at: groups split
the words of a pool without loss, and each group leaves a line that has words, all its own.
-/

namespace Galley

theorem mergeSort_pair {β : Type} (le : β → β → Bool) (a b : β)
    : [a, b].mergeSort le = if le a b then [a, b] else [b, a] := by
  simp [List.mergeSort, List.MergeSort.Internal.splitInTwo, List.merge]

variable {α : Type} [Scalar α]

namespace Line

omit [Scalar α] in
/-- The words of a group in the order in which they joined it. -/
def Group.words (g : Group α) : List (Word α) := g.members.reverse

@[simp]
theorem Group.words_ofWord (w : Word α) : (Group.ofWord w).words = [w] := by
  rfl

@[simp]
theorem Group.words_push (g : Group α) (w : Word α) : (g.push w).words = g.words ++ [w] := by
  simp [Group.words, Group.push]

theorem groups.flatMap_words_go (tolerance : α) (g : Group α) (rest : List (Word α))
    : (groups.go tolerance g rest).flatMap Group.words = g.words ++ rest := by
  induction rest generalizing g with
  | nil => simp [groups.go]
  | cons w rest ih =>
    unfold groups.go
    split
    . rw [ih, Group.words_push, List.append_assoc, List.singleton_append]
    . rw [List.flatMap_cons, ih, Group.words_ofWord, List.singleton_append]

theorem flatMap_words_groups (tolerance : α) (words : List (Word α))
    : (groups tolerance words).flatMap Group.words = words := by
  unfold groups
  split
  . rfl
  . rw [groups.flatMap_words_go, Group.words_ofWord, List.singleton_append]

theorem groups.words_ne_nil_of_mem_go {tolerance : α} {g h : Group α} {rest : List (Word α)}
    (hg : g.words ≠ []) (hmem : h ∈ groups.go tolerance g rest) : h.words ≠ [] := by
  induction rest generalizing g with
  | nil =>
    simp only [groups.go, List.mem_singleton] at hmem
    rw [hmem]
    exact hg
  | cons w rest ih =>
    unfold groups.go at hmem
    split at hmem
    . apply ih _ hmem
      simp
    . cases hmem with
      | head => exact hg
      | tail _ hmem => exact ih (by simp) hmem

theorem words_ne_nil_of_mem_groups {tolerance : α} {g : Group α} {words : List (Word α)}
    (h : g ∈ groups tolerance words) : g.words ≠ [] := by
  unfold groups at h
  split at h
  . contradiction
  . exact groups.words_ne_nil_of_mem_go (by simp) h

/-- One step of dropping repetitions; `kept` is latest first. -/
def keep (options : LineOptions α) (kept : List (Word α)) (w : Word α) : List (Word α) :=
  if repeats options kept w then kept else w :: kept

theorem dropRepeats_eq (options : LineOptions α) (words : List (Word α))
    : dropRepeats options words = (words.foldl (keep options) []).reverse := by
  rfl

theorem foldl_keep_sublist (options : LineOptions α) (kept words : List (Word α))
    : (words.foldl (keep options) kept).reverse.Sublist (kept.reverse ++ words) := by
  induction words generalizing kept with
  | nil => simp
  | cons w rest ih =>
    rw [List.foldl_cons]
    apply (ih _).trans
    unfold keep
    split
    . apply List.Sublist.append_left
      apply List.sublist_cons_self
    . simp

theorem dropRepeats_sublist (options : LineOptions α) (words : List (Word α))
    : (dropRepeats options words).Sublist words := by
  rw [dropRepeats_eq]
  apply foldl_keep_sublist

theorem foldl_keep_ne_nil (options : LineOptions α) {kept : List (Word α)} (h : kept ≠ [])
    (words : List (Word α)) : words.foldl (keep options) kept ≠ [] := by
  induction words generalizing kept with
  | nil => exact h
  | cons w rest ih =>
    rw [List.foldl_cons]
    apply ih
    unfold keep
    split
    . exact h
    . simp

theorem dropRepeats_ne_nil (options : LineOptions α) {words : List (Word α)} (h : words ≠ [])
    : dropRepeats options words ≠ [] := by
  cases words with
  | nil => contradiction
  | cons w rest =>
    rw [dropRepeats_eq, List.foldl_cons]
    intro hnil
    rw [List.reverse_eq_nil_iff] at hnil
    apply foldl_keep_ne_nil options _ rest hnil
    simp [keep, repeats]

theorem words_of_ofWords? {words : List (Word α)} {base : α} {direction : Direction}
    {l : Line α} (h : ofWords? words base direction = some l)
    : l.words = words ∧ l.base = base ∧ l.direction = direction ∧ words ≠ [] := by
  unfold ofWords? at h
  split at h
  . contradiction
  . injection h with h
    rw [← h]
    exact ⟨rfl, rfl, rfl, by simp⟩

theorem exists_ofWords? {words : List (Word α)} (h : words ≠ []) (base : α)
    (direction : Direction) : ∃ l, ofWords? words base direction = some l := by
  cases words with
  | nil => contradiction
  | cons w rest => exact ⟨_, rfl⟩

/-- The words of a group as they stand along the line. -/
def Group.sorted (g : Group α) : List (Word α) := g.words.mergeSort standsBefore

theorem Group.sorted_perm (g : Group α) : g.sorted.Perm g.words := by
  apply List.mergeSort_perm

theorem ofGroup?_eq (options : LineOptions α) (direction : Direction) (g : Group α)
    : ofGroup? options direction g = ofWords? (dropRepeats options g.sorted) g.base direction := by
  rfl

theorem exists_ofGroup? (options : LineOptions α) (direction : Direction) {g : Group α}
    (h : g.words ≠ []) : ∃ l, ofGroup? options direction g = some l := by
  rw [ofGroup?_eq]
  apply exists_ofWords?
  apply dropRepeats_ne_nil
  intro hnil
  have hperm := g.sorted_perm
  rw [hnil] at hperm
  exact h hperm.symm.eq_nil

/-- The line of two words. -/
theorem ofPool_pair {options : LineOptions α} {direction : Direction} {v w : Word α}
    (hbase : baseBefore direction v w = true)
    (hadmits : (Group.ofWord v).admits options.tolerance w = true)
    : ofPool options direction [v, w] =
        (ofWords? (dropRepeats options (if standsBefore v w then [v, w] else [w, v])) v.base
          direction).toList := by
  have hfirst : ((Group.ofWord v).push w).base = v.base := rfl
  have hsorted : ((Group.ofWord v).push w).sorted =
      if standsBefore v w then [v, w] else [w, v] := by
    rw [← mergeSort_pair]
    rfl
  unfold ofPool
  rw [mergeSort_pair, if_pos hbase, groups, groups.go, if_pos hadmits, groups.go,
    List.filterMap_cons, List.filterMap_nil, ofGroup?_eq, hsorted, hfirst]
  cases ofWords? _ v.base direction <;> rfl

theorem mem_of_mem_ofPool {options : LineOptions α} {direction : Direction}
    {words : List (Word α)} {l : Line α} (h : l ∈ ofPool options direction words)
    : l.direction = direction ∧ l.words ≠ [] ∧ ∀ w ∈ l.words, w ∈ words := by
  unfold ofPool at h
  obtain ⟨g, hg, hline⟩ := List.mem_filterMap.mp h
  rw [ofGroup?_eq] at hline
  obtain ⟨hwords, _, hdirection, hne⟩ := words_of_ofWords? hline
  refine ⟨hdirection, ?_, ?_⟩
  . rw [hwords]
    exact hne
  . intro w hw
    rw [hwords] at hw
    have hsorted : w ∈ g.sorted := (dropRepeats_sublist options g.sorted).subset hw
    have hgroup : w ∈ g.words := g.sorted_perm.mem_iff.mp hsorted
    have hall : w ∈ (groups options.tolerance
        (words.mergeSort (baseBefore direction))).flatMap Group.words :=
      List.mem_flatMap.mpr ⟨g, hg, hgroup⟩
    rw [flatMap_words_groups] at hall
    exact (List.mergeSort_perm words _).mem_iff.mp hall

end Line

end Galley
