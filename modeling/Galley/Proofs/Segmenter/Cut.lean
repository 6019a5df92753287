import Galley.Proofs.Segmenter.Account
import Mathlib.Data.List.Infix

/-!
This module contains lists that are cut into pieces, and how the pieces grew from their elements: a
piece as it was when an element joined it does not depend on the elements that came later.
-/

namespace Galley

variable {β : Type}

/-- The pieces as they grew: for each element of a piece what the piece held with it. -/
def growth (pieces : List (List β)) : List (List β) := pieces.flatMap fun l => l.inits.tail

/-- Whether the elements number `i` and `i + 1` of all are in one piece. -/
def Together (pieces : List (List β)) (i : Nat) : Prop :=
  ∃ before l behind, pieces = before ++ l :: behind ∧
    before.flatten.length ≤ i ∧ i + 1 < before.flatten.length + l.length

@[simp]
theorem growth_append (p q : List (List β)) : growth (p ++ q) = growth p ++ growth q := by
  unfold growth
  rw [List.flatMap_append]

@[simp]
theorem growth_singleton (l : List β) : growth [l] = l.inits.tail := by
  simp [growth]

theorem tail_inits_concat (l : List β) (a : β)
    : (l ++ [a]).inits.tail = l.inits.tail ++ [l ++ [a]] := by
  rw [List.inits_append, List.tail_append_of_ne_nil]
  . simp
  . cases l <;> simp

@[simp]
theorem length_growth (pieces : List (List β))
    : (growth pieces).length = pieces.flatten.length := by
  unfold growth
  rw [List.length_flatMap, List.length_flatten]
  simp

theorem getElem?_inits {l : List β} {i : Nat} (h : i ≤ l.length)
    : l.inits[i]? = some (l.take i) := by
  induction l generalizing i with
  | nil =>
    rw [List.length_nil, Nat.le_zero] at h
    rw [h]
    rfl
  | cons a l ih =>
    rw [List.inits_cons]
    cases i with
    | zero => rfl
    | succ i =>
      rw [List.length_cons] at h
      rw [List.getElem?_cons_succ, List.getElem?_map, ih (by omega)]
      rfl

theorem getElem?_tail_inits {l : List β} {i : Nat} (h : i < l.length)
    : l.inits.tail[i]? = some (l.take (i + 1)) := by
  rw [List.getElem?_tail]
  exact getElem?_inits h

theorem together_cons (l : List β) (rest : List (List β)) (i : Nat)
    : Together (l :: rest) i ↔
        i + 1 < l.length ∨ (l.length ≤ i ∧ Together rest (i - l.length)) := by
  constructor
  . rintro ⟨before, m, behind, hpieces, hlow, hhigh⟩
    cases before with
    | nil =>
      simp only [List.nil_append, List.cons.injEq] at hpieces
      rw [← hpieces.1] at hhigh
      simp only [List.flatten_nil, List.length_nil] at hhigh
      exact .inl (by omega)
    | cons b before =>
      simp only [List.cons_append, List.cons.injEq] at hpieces
      obtain ⟨rfl, hrest⟩ := hpieces
      simp only [List.flatten_cons, List.length_append] at hlow hhigh
      exact .inr ⟨by omega, before, m, behind, hrest, by omega, by omega⟩
  . rintro (h | ⟨hle, before, m, behind, hrest, hlow, hhigh⟩)
    . exact ⟨[], l, rest, rfl, by simp, by simpa using h⟩
    . refine ⟨l :: before, m, behind, by rw [hrest]; rfl, ?_, ?_⟩
      . simp only [List.flatten_cons, List.length_append]
        omega
      . simp only [List.flatten_cons, List.length_append]
        omega

theorem exists_cons_of_getElem?_growth {pieces : List (List β)} {i : Nat} {l : List β}
    (h : (growth pieces)[i]? = some l) : ∃ a rest, l = a :: rest := by
  obtain ⟨p, _, hl⟩ := List.mem_flatMap.mp (List.mem_of_getElem? h)
  cases p with
  | nil => simp at hl
  | cons a p =>
    simp only [List.inits_cons, List.tail_cons, List.mem_map] at hl
    obtain ⟨rest, _, hrest⟩ := hl
    exact ⟨a, rest, hrest.symm⟩

theorem getElem?_growth_zero {pieces : List (List β)} {m : List β}
    (h : (growth pieces)[0]? = some m) : ∃ b, m = [b] := by
  induction pieces with
  | nil => simp [growth] at h
  | cons p rest ih =>
    cases p with
    | nil => exact ih (by simpa [growth] using h)
    | cons b p =>
      refine ⟨b, ?_⟩
      cases p with
      | nil => simpa [growth] using h.symm
      | cons c p => simpa [growth] using h.symm

theorem together_iff {pieces : List (List β)} {i : Nat} {l m : List β}
    (hl : (growth pieces)[i]? = some l) (hm : (growth pieces)[i + 1]? = some m)
    : Together pieces i ↔ ∃ a, m = l ++ [a] := by
  induction pieces generalizing i with
  | nil => simp [growth] at hl
  | cons p rest ih =>
    rw [together_cons]
    have hgrowth : growth (p :: rest) = p.inits.tail ++ growth rest := by
      simp [growth]
    have hlength : p.inits.tail.length = p.length := by simp
    rw [hgrowth] at hl hm
    by_cases hinside : i + 1 < p.length
    . rw [List.getElem?_append_left (by omega), getElem?_tail_inits (by omega)] at hl hm
      injection hl with hl
      injection hm with hm
      refine iff_of_true (.inl hinside) ⟨p[i + 1], ?_⟩
      rw [← hl, ← hm, List.take_add_one, List.getElem?_eq_getElem hinside]
      rfl
    . rw [List.getElem?_append_right (by omega), hlength] at hm
      by_cases hlast : i + 1 = p.length
      . rw [List.getElem?_append_left (by omega), getElem?_tail_inits (by omega)] at hl
        rw [hlast, Nat.sub_self] at hm
        injection hl with hl
        obtain ⟨b, hb⟩ := getElem?_growth_zero hm
        refine iff_of_false ?_ ?_
        . rintro (h | ⟨h, _⟩) <;> omega
        . rintro ⟨a, ha⟩
          have hlen := congrArg List.length ha
          rw [hb, ← hl] at hlen
          simp only [List.length_append, List.length_take, List.length_cons,
            List.length_nil] at hlen
          omega
      . rw [List.getElem?_append_right (by omega), hlength] at hl
        have hsucc : i + 1 - p.length = i - p.length + 1 := by omega
        rw [hsucc] at hm
        rw [← ih hl hm]
        constructor
        . rintro (h | h)
          . omega
          . exact h.2
        . intro h
          exact .inr ⟨by omega, h⟩

end Galley
