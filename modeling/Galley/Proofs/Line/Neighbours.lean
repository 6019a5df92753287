import Mathlib.Data.List.TakeWhile
import Galley.Proofs.Binary64.Addition
import Galley.Proofs.Line.Bucketing
import Galley.Proofs.Line.Formation

/-!
This module contains what a word that a line drops has to do with the word it repeats: it begins
before that word ends, or that word is narrower than the distance at which words count as repeated.
-/

namespace Galley

open Binary64

namespace Line

/-- Whether two words stand one behind the other, the first of them wide enough to tell. -/
structure Clear (options : LineOptions Float) (k w : Word Float) : Prop where
  nonempty : k.start < k.stop
  behind : k.stop ≤ w.start
  wide : options.duplicateAlong * w.size ≤ k.stop - k.start

theorem not_sub_lt_of_neg_infinity {x y z : Float} (hx : x.isFinite = true)
    (hy : rank y = -topRank) : ¬ x - y < z := by
  have hnumber : IsNumber y := by
    unfold IsNumber
    omega
  have hneg : rank (-y) = topRank := by
    rw [rank_neg hnumber, hy]
    omega
  have hsum := add_infinity hx (unpack_of_rank_eq_topRank hneg)
  rw [sub_eq_add_neg, add_comm, hsum]
  intro h
  have hlt := (lt_iff _ _).mp h
  unfold IsNumber at hlt
  omega

theorem not_clear_of_repeats {options : LineOptions Float} {k w : Word Float}
    (h : Repeats options k w) : ¬ Clear options k w := by
  intro hclear
  have halong := (lt_iff _ _).mp h.along
  have hnonempty := (lt_iff _ _).mp hclear.nonempty
  have hbehind := (le_iff _ _).mp hclear.behind
  have hwide := (le_iff _ _).mp hclear.wide
  have hle := hbehind.2.1
  have hge := hnonempty.1
  unfold IsNumber at hle hge
  have hw : w.start.isFinite = true := by
    rw [isFinite_iff]
    by_cases htop : rank w.start = topRank
    . exact absurd h.along (not_infinity_sub_lt htop k.start _)
    . omega
  have hk : k.start.isFinite = true := by
    rw [isFinite_iff] at hw ⊢
    by_cases hbottom : rank k.start = -topRank
    . exact absurd h.along (not_sub_lt_of_neg_infinity ((isFinite_iff _).mpr hw) hbottom)
    . omega
  have hstop : k.stop.isFinite = true := by
    rw [isFinite_iff] at hw hk ⊢
    omega
  -- the width of the first word is at most the distance of the starts
  have hwidth : rank (k.stop - k.start) ≤ rank (w.start - k.start) := by
    rw [sub_eq_add_neg, sub_eq_add_neg]
    have hneg := isFinite_neg hk
    exact rank_add_le_add hstop hneg hw hneg hbehind.2.2 (Int.le_refl _)
  omega

theorem exists_repeats_of_repeats {options : LineOptions Float} {kept : List (Word Float)}
    {w : Word Float} (h : repeats options kept w = true) : ∃ k ∈ kept, Repeats options k w := by
  unfold repeats at h
  obtain ⟨k, hk, hsame⟩ := List.any_eq_true.mp h
  have halong := List.mem_takeWhile_imp hk
  rw [decide_eq_true_iff] at halong
  rw [Bool.and_eq_true, beq_iff_eq, decide_eq_true_iff] at hsame
  exact ⟨k, (List.takeWhile_sublist _).subset hk, hsame.1, halong, hsame.2⟩

theorem exists_repeats_of_dropped (options : LineOptions Float) (kept words : List (Word Float))
    {i : Nat} {w : Word Float} (hw : words[i]? = some w)
    (hdropped : (flags options kept words)[i]? = some false)
    : (∃ k ∈ kept, Repeats options k w) ∨
        ∃ j k, j < i ∧ words[j]? = some k ∧ (flags options kept words)[j]? = some true ∧
          Repeats options k w := by
  induction words generalizing kept i with
  | nil => contradiction
  | cons v rest ih =>
    rw [flags] at hdropped ⊢
    cases hrepeats : repeats options kept v with
    | true =>
      rw [hrepeats, if_pos rfl] at hdropped
      rw [if_pos rfl]
      cases i with
      | zero =>
        rw [List.getElem?_cons_zero, Option.some_inj] at hw
        rw [← hw]
        exact .inl (exists_repeats_of_repeats hrepeats)
      | succ i =>
        rw [List.getElem?_cons_succ] at hw hdropped
        rw [exists_kept_succ (Repeats options · w)]
        rcases ih kept hw hdropped with hkept | hbetween
        . exact .inl hkept
        . exact .inr (.inr hbetween)
    | false =>
      rw [hrepeats, if_neg (by simp)] at hdropped
      rw [if_neg (by simp)]
      cases i with
      | zero => simp at hdropped
      | succ i =>
        rw [List.getElem?_cons_succ] at hw hdropped
        rw [exists_kept_succ (Repeats options · w)]
        rcases ih (v :: kept) hw hdropped with ⟨k, hk, hkw⟩ | hbetween
        . cases hk with
          | head => exact .inr (.inl ⟨rfl, hkw⟩)
          | tail _ hk => exact .inl ⟨k, hk, hkw⟩
        . exact .inr (.inr hbetween)

/-- A line that drops no word that stands clear of the words it keeps. -/
def KeepsClear (options : LineOptions Float) (assigned : List (Word Float)) (l : Line Float) :
    Prop :=
  ∃ flags : List Bool, flags.length = assigned.length ∧
    l.words = ((assigned.zip flags).filter Prod.snd).map Prod.fst ∧
    ∀ (i : Nat) (w : Word Float), assigned[i]? = some w → flags[i]? = some false →
      ∃ (j : Nat) (k : Word Float), j < i ∧ assigned[j]? = some k ∧ flags[j]? = some true ∧
        k.text = w.text ∧ ¬ Clear options k w

theorem keepsClear_ofGroup? {options : LineOptions Float} {direction : Direction} {g : Group Float}
    {l : Line Float} (h : ofGroup? options direction g = some l)
    : KeepsClear options g.sorted l := by
  rw [ofGroup?_eq] at h
  refine ⟨flags options [] g.sorted, length_flags options [] g.sorted, ?_, ?_⟩
  . rw [(words_of_ofWords? h).1, dropRepeats_eq, foldl_keep_eq]
    rfl
  . intro i w hw hdropped
    rcases exists_repeats_of_dropped options [] g.sorted hw hdropped with
      ⟨k, hk, _⟩ | ⟨j, k, hj, hk, hkept, hrepeats⟩
    . contradiction
    . exact ⟨j, k, hj, hk, hkept, hrepeats.text, not_clear_of_repeats hrepeats⟩

end Line

namespace Pool

theorem lines_keep_clear_words (options : LineOptions Float) (p : Pool Float)
    : ∃ assigned : List (List (Word Float)), assigned.flatten.Perm p.words ∧
        List.Forall₂ (Line.KeepsClear options) assigned (p.lines options) := by
  obtain ⟨words, hperm, hlines⟩ := lines_eq options p
  rw [hlines]
  unfold Line.ofPool
  generalize hgroups : Line.groups options.tolerance
    (words.mergeSort (Line.baseBefore p.direction)) = gs
  have hne : ∀ g ∈ gs, g.words ≠ [] := by
    rw [← hgroups]
    exact fun g hg => Line.words_ne_nil_of_mem_groups hg
  refine ⟨gs.map Line.Group.sorted, ?_, ?_⟩
  . rw [← List.flatMap_def]
    apply (Line.flatMap_sorted_perm gs).trans
    rw [← hgroups, Line.flatMap_words_groups]
    exact (List.mergeSort_perm words _).trans hperm
  . rw [List.forall₂_map_left_iff]
    have hall := (@Line.filterMap_ofGroup? options p.direction gs hne).2
    exact hall.imp fun _ _ h => Line.keepsClear_ofGroup? h

/-- A word of one narrow letter. -/
def narrow (start : Float) (order : Nat) : Word Float :=
  let g : Glyph Float :=
    ⟨'l', 108, order, start, 100.0, 1.0, 0.0, 12.0, .right, .horizontal, "F1"⟩
  ⟨"l", [g], ⟨start, 97.0, start + 1.0, 109.0⟩, 100.0, 12.0, .right, .horizontal,
    [start, start + 1.0], order⟩

/-- Two narrow letters that stand side by side. -/
def narrowPair : List (Word Float) := [narrow 50.0 0, narrow 51.0 1]

theorem lines_collapse_narrowPair
    : (Settings.default : Settings Float).validate.isOk = true ∧
        (∀ w ∈ narrowPair, w.start < w.stop) ∧ (narrow 50.0 0).stop ≤ (narrow 51.0 1).start ∧
        ((narrowPair.foldl add (empty .right Settings.default.bucketHeight)).lines
          Settings.default.lineOptions).map Line.words = [[narrow 50.0 0]] := by
  refine ⟨by decide +kernel, by decide +kernel, by decide +kernel, ?_⟩
  rw [lines_foldl_add]
  unfold narrowPair
  rw [Line.ofPool_pair]
  . decide +kernel
  . decide +kernel
  . decide +kernel

end Pool
end Galley
