import Galley.Proofs.Line.Bucketing
import Galley.Proofs.Line.Repeats
import Galley.Proofs.Turning.Segmenter

/-!
This module contains lines of turned words: the turn keeps the order of words and of lines, so that
pools of turned words form the turned lines.
-/

namespace Galley

open Binary64

section Related

variable {β γ : Type} {R : β → γ → Prop}

/-- Sorts by orders that agree on related elements relate what they return. -/
theorem forall₂_mergeSort {xs : List β} {ys : List γ} (h : List.Forall₂ R xs ys)
    {le : β → β → Bool} {le' : γ → γ → Bool}
    (hle : ∀ {a a' b b'}, R a a' → R b b' → le' a' b' = le a b)
    : List.Forall₂ R (xs.mergeSort le) (ys.mergeSort le') := by
  have hlength := h.length_eq
  have hpairs : ∀ p ∈ xs.zip ys, R p.1 p.2 := fun _ hp => (List.forall₂_iff_zip.mp h).2 hp
  have hleft : ((xs.zip ys).mergeSort fun p q => le p.1 q.1).map Prod.fst =
      ((xs.zip ys).map Prod.fst).mergeSort le := List.map_mergeSort fun _ _ _ _ => rfl
  have hright : ((xs.zip ys).mergeSort fun p q => le p.1 q.1).map Prod.snd =
      ((xs.zip ys).map Prod.snd).mergeSort le' :=
    List.map_mergeSort fun p hp q hq => (hle (hpairs p hp) (hpairs q hq)).symm
  rw [List.map_fst_zip (by omega)] at hleft
  rw [List.map_snd_zip (by omega)] at hright
  rw [← hleft, ← hright, List.forall₂_map_left_iff, List.forall₂_map_right_iff, List.forall₂_same]
  intro p hp
  exact hpairs p (List.mem_mergeSort.mp hp)

theorem any_takeWhile_of_forall₂ {near same : β → Bool} {near' same' : γ → Bool}
    (hnear : ∀ {a b}, R a b → near' b = near a) (hsame : ∀ {a b}, R a b → same' b = same a)
    {xs : List β} {ys : List γ} (h : List.Forall₂ R xs ys)
    : (ys.takeWhile near').any same' = (xs.takeWhile near).any same := by
  induction h with
  | nil => rfl
  | cons hab _ ih =>
    rw [List.takeWhile_cons, List.takeWhile_cons, hnear hab]
    split
    . rw [List.any_cons, List.any_cons, hsame hab, ih]
    . rfl

end Related

section Boxes

variable {b c b' c' : Box Float}

theorem Box.Alike.union (hb : b'.Alike b.turn) (hc : c'.Alike c.turn)
    : (b'.union c').Alike (b.union c).turn where
  x0 := rank_least_neg hb.x0 hc.x0
  y0 := rank_least_congr hb.y0 hc.y0
  x1 := rank_greatest_neg hb.x1 hc.x1
  y1 := rank_greatest_congr hb.y1 hc.y1

end Boxes

namespace Word

/-- A word of a known direction and what it is when its glyphs are turned. -/
def TurnedFrom (r : Direction) (w w' : Word Float) : Prop := w.direction = r ∧ w.Turned w'

theorem Turned.rank_abs_base_sub {w w' : Word Float} (h : w.Turned w') (base : Float)
    : rank (Scalar.abs (w'.base - w.direction.turnBase base)) =
        rank (Scalar.abs (w.base - base)) := by
  rw [h.base, Direction.rank_abs_turnBase_sub]

theorem filter_turned {drawn drawn' : List (Word Float)} (h : List.Forall₂ Turned drawn drawn')
    (r : Direction)
    : List.Forall₂ (TurnedFrom r) (drawn.filter fun w => decide (w.direction = r))
        (drawn'.filter fun w => decide (w.direction = r.turned 1)) := by
  induction h with
  | nil => exact .nil
  | @cons w w' _ _ hw _ ih =>
    have hiff : w'.direction = r.turned 1 ↔ w.direction = r := by
      rw [hw.direction, Direction.turned_eq_turned]
    rw [List.filter_cons, List.filter_cons]
    simp only [decide_eq_true_iff, hiff]
    split
    next hr => exact .cons ⟨hr, hw⟩ ih
    next => exact ih

end Word

namespace Line

section Order

variable {r : Direction} {a a' b b' : Word Float}
variable (ha : Word.TurnedFrom r a a') (hb : Word.TurnedFrom r b b')

/-- Baselines that are negated are also read the other way. -/
theorem lineKey_turned (r : Direction)
    : ∃ shift, ∀ {w w'}, Word.TurnedFrom r w w' →
        lineKey (r.turned 1) w' = lineKey r w + shift := by
  -- the two zeros have places of their own, so a negated key is off by one
  cases r with
  | right =>
    refine ⟨-1, ?_⟩
    rintro w w' ⟨hr, hw⟩
    have hkey := orderKey_neg hw.isNumber_base
    have hbase : w'.base = -w.base := by rw [hw.base, hr]; rfl
    show orderKey w'.base = -orderKey w.base + -1
    rw [hbase]
    omega
  | up =>
    refine ⟨0, ?_⟩
    rintro w w' ⟨hr, hw⟩
    have hbase : w'.base = w.base := by rw [hw.base, hr]; rfl
    show orderKey w'.base = orderKey w.base + 0
    rw [hbase, Int.add_zero]
  | left =>
    refine ⟨1, ?_⟩
    rintro w w' ⟨hr, hw⟩
    have hkey := orderKey_neg hw.isNumber_base
    have hbase : w'.base = -w.base := by rw [hw.base, hr]; rfl
    show -orderKey w'.base = orderKey w.base + 1
    rw [hbase]
    omega
  | down =>
    refine ⟨0, ?_⟩
    rintro w w' ⟨hr, hw⟩
    have hbase : w'.base = w.base := by rw [hw.base, hr]; rfl
    show -orderKey w'.base = -orderKey w.base + 0
    rw [hbase, Int.add_zero]

include ha hb in
theorem baseBefore_turned : baseBefore (r.turned 1) a' b' = baseBefore r a b := by
  obtain ⟨shift, hshift⟩ := lineKey_turned r
  rw [baseBefore_eq_atMost, baseBefore_eq_atMost]
  unfold atMost
  rw [hshift ha, hshift hb]
  congr 1
  rw [eq_iff_iff]
  omega

include ha hb in
theorem standsBefore_turned : standsBefore a' b' = standsBefore a b := by
  unfold standsBefore
  rw [ha.2.start, hb.2.start, ha.2.order, hb.2.order]

end Order

/-- A group of words and what it is when its words are turned. -/
structure Group.Turned (r : Direction) (g g' : Group Float) : Prop where
  base : g'.base = r.turnBase g.base
  size : g'.size = g.size
  members : List.Forall₂ (Word.TurnedFrom r) g.members g'.members

section Groups

variable {r : Direction} {g g' : Group Float} {w w' : Word Float}

theorem Group.Turned.ofWord (h : Word.TurnedFrom r w w')
    : (Group.ofWord w).Turned r (Group.ofWord w') := by
  obtain ⟨hr, hw⟩ := h
  refine ⟨?_, ?_, .cons ⟨hr, hw⟩ .nil⟩
  . rw [← hr]
    exact hw.base
  . unfold Group.ofWord
    rw [hw.size]

theorem Group.Turned.push (hg : g.Turned r g') (h : Word.TurnedFrom r w w')
    : (g.push w).Turned r (g'.push w') := by
  refine ⟨hg.base, ?_, .cons h hg.members⟩
  unfold Group.push
  rw [hg.size, h.2.size]

theorem Group.Turned.admits (hg : g.Turned r g') (h : Word.TurnedFrom r w w') (tolerance : Float)
    : g'.admits tolerance w' = g.admits tolerance w := by
  obtain ⟨hr, hw⟩ := h
  have hacross := hw.rank_abs_base_sub g.base
  rw [hr, ← hg.base] at hacross
  unfold Group.admits
  rw [hg.size, hw.size]
  simp only [le_congr hacross (y := tolerance * Scalar.greatest g.size w.size) rfl]

theorem groups.go_turned (tolerance : Float) {words words' : List (Word Float)}
    (h : List.Forall₂ (Word.TurnedFrom r) words words') (hg : g.Turned r g')
    : List.Forall₂ (Group.Turned r) (groups.go tolerance g words)
        (groups.go tolerance g' words') := by
  induction h generalizing g g' with
  | nil => exact .cons hg .nil
  | cons hw _ ih =>
    unfold groups.go
    rw [hg.admits hw]
    split
    . exact ih (hg.push hw)
    . exact .cons hg (ih (.ofWord hw))

theorem groups_turned (tolerance : Float) {words words' : List (Word Float)}
    (h : List.Forall₂ (Word.TurnedFrom r) words words')
    : List.Forall₂ (Group.Turned r) (groups tolerance words) (groups tolerance words') := by
  cases h with
  | nil => exact .nil
  | cons hw hrest => exact groups.go_turned tolerance hrest (.ofWord hw)

theorem Group.Turned.sorted (hg : g.Turned r g')
    : List.Forall₂ (Word.TurnedFrom r) g.sorted g'.sorted := by
  have hwords : List.Forall₂ (Word.TurnedFrom r) g.words g'.words :=
    List.forall₂_reverse_iff.mpr hg.members
  exact forall₂_mergeSort hwords standsBefore_turned

end Groups

section Repeats

variable {r : Direction} {kept kept' : List (Word Float)} (options : LineOptions Float)

theorem repeats_turned (hkept : List.Forall₂ (Word.TurnedFrom r) kept kept') {w w' : Word Float}
    (h : Word.TurnedFrom r w w') : repeats options kept' w' = repeats options kept w := by
  unfold repeats
  apply any_takeWhile_of_forall₂ _ _ hkept
  . rintro k k' ⟨_, hk⟩
    rw [hk.start, h.2.start, h.2.size]
  . rintro k k' ⟨hr, hk⟩
    have hacross := hk.rank_abs_base_sub w.base
    rw [hr, ← h.1, ← h.2.base] at hacross
    rw [hk.text, h.2.text, h.2.size]
    simp only [lt_congr hacross (y := options.duplicateAcross * w.size) rfl]

theorem dropRepeats_turned {words words' : List (Word Float)}
    (h : List.Forall₂ (Word.TurnedFrom r) words words')
    : List.Forall₂ (Word.TurnedFrom r) (dropRepeats options words)
        (dropRepeats options words') := by
  rw [dropRepeats_eq, dropRepeats_eq, List.forall₂_reverse_iff]
  apply List.rel_foldl _ .nil h
  intro kept kept' hkept w w' hw
  unfold keep
  rw [repeats_turned options hkept hw]
  split
  . exact hkept
  . exact .cons hw hkept

end Repeats

/-- A line and what it is when its words are turned. -/
structure Turned (l l' : Line Float) : Prop where
  words : List.Forall₂ Word.Turned l.words l'.words
  base : l'.base = l.direction.turnBase l.base
  size : l'.size = l.size
  direction : l'.direction = l.direction.turned 1
  box : l'.box.Alike l.box.turn

/-- A line of a known direction and what it is when its words are turned. -/
def TurnedFrom (r : Direction) (l l' : Line Float) : Prop := l.direction = r ∧ l.Turned l'

section OfPool

variable {r : Direction} {words words' : List (Word Float)}

theorem size_foldl_turned (h : List.Forall₂ (Word.TurnedFrom r) words words') (size : Float)
    : words'.foldl (fun size w => Scalar.greatest size w.size) size =
        words.foldl (fun size w => Scalar.greatest size w.size) size := by
  induction h generalizing size with
  | nil => rfl
  | cons hw _ ih => rw [List.foldl_cons, List.foldl_cons, hw.2.size, ih]

theorem box_foldl_turned (h : List.Forall₂ (Word.TurnedFrom r) words words') {b b' : Box Float}
    (hb : b'.Alike b.turn)
    : (words'.foldl (fun box w => box.union w.box) b').Alike
        (words.foldl (fun box w => box.union w.box) b).turn := by
  induction h generalizing b b' with
  | nil => exact hb
  | cons hw _ ih => exact ih (hb.union hw.2.box)

theorem ofWords?_turned (h : List.Forall₂ (Word.TurnedFrom r) words words') (base : Float)
    : Option.Rel (TurnedFrom r) (ofWords? words base r)
        (ofWords? words' (r.turnBase base) (r.turned 1)) := by
  have hwords : List.Forall₂ Word.Turned words words' := h.imp fun _ _ hw => hw.2
  cases h with
  | nil => exact .none
  | cons hw hrest =>
    refine .some ⟨rfl, hwords, rfl, ?_, rfl, box_foldl_turned hrest hw.2.box⟩
    dsimp only
    rw [hw.2.size, size_foldl_turned hrest]

theorem ofGroup?_turned (options : LineOptions Float) {g g' : Group Float} (hg : g.Turned r g')
    : Option.Rel (TurnedFrom r) (ofGroup? options r g) (ofGroup? options (r.turned 1) g') := by
  rw [ofGroup?_eq, ofGroup?_eq, hg.base]
  exact ofWords?_turned (dropRepeats_turned options hg.sorted) g.base

theorem ofPool_turned (options : LineOptions Float)
    (h : List.Forall₂ (Word.TurnedFrom r) words words')
    : List.Forall₂ (TurnedFrom r) (ofPool options r words)
        (ofPool options (r.turned 1) words') := by
  unfold ofPool
  apply List.rel_filterMap
  . intro g g' hg
    exact ofGroup?_turned options hg
  . apply groups_turned
    exact forall₂_mergeSort h baseBefore_turned

end OfPool

end Line

/-- Pools of turned words form turned lines, however the baselines share their buckets. -/
theorem Pools.lines_turned {drawn drawn' : List (Word Float)}
    (h : List.Forall₂ Word.Turned drawn drawn') (bucketHeight : Float)
    (options : LineOptions Float) (r : Direction)
    : List.Forall₂ (Line.TurnedFrom r) (((ofWords bucketHeight drawn).pool r).lines options)
        (((ofWords bucketHeight drawn').pool (r.turned 1)).lines options) := by
  rw [pool_ofWords, pool_ofWords, Pool.lines_foldl_add, Pool.lines_foldl_add]
  exact Line.ofPool_turned options (Word.filter_turned h r)

end Galley
