import Mathlib.Data.List.Forall2
import Galley.Proofs.Turning.Glyph

/-!
This module contains words whose glyphs are turned: such a word begins and ends where it did along
its direction, and its box is the turned box.
-/

namespace Galley

open Binary64

section Extremes

/-- What is no less than some number in a list does not change the least of them. -/
theorem leastOf_concat {xs : List Float} {x y : Float} (h : ∀ z ∈ xs, IsNumber z)
    (hy : IsNumber y) (hx : x ∈ xs) (hle : rank x ≤ rank y)
    : Scalar.leastOf (xs ++ [y]) = Scalar.leastOf xs := by
  cases xs with
  | nil => contradiction
  | cons a rest =>
    have hall : ∀ z ∈ a :: (rest ++ [y]), IsNumber z := by
      rw [← List.cons_append, List.forall_mem_append, List.forall_mem_singleton]
      exact ⟨h, hy⟩
    obtain ⟨hmem, hleast⟩ := foldl_least h
    have hlast := hleast x hx
    rw [List.cons_append, leastOf_cons hall, leastOf_cons h, List.foldl_append]
    exact least_eq_left (h _ hmem) hy (by omega)

/-- Folds that agree up to `f` at each step agree up to `f`. -/
theorem foldl_related {f : Float → Float} {op op' : Float → Float → Float}
    (hop : ∀ {a b c d}, rank c = rank (f a) → rank d = rank (f b) →
      rank (op' c d) = rank (f (op a b)))
    {x y : Float} (h : rank y = rank (f x)) {xs ys : List Float}
    (hall : List.Forall₂ (fun a b => rank b = rank (f a)) xs ys)
    : rank (ys.foldl op' y) = rank (f (xs.foldl op x)) := by
  induction hall generalizing x y with
  | nil => exact h
  | cons hab _ ih => exact ih (hop h hab)

section Pairs

variable {xs ys : List Float}

theorem lt_neg_iff {a b c d : Float} (ha : rank c = rank (-a)) (hb : rank d = rank (-b))
    : d < c ↔ a < b := by
  rw [lt_congr hb ha, neg_lt_neg_iff]

theorem isNaN_neg_iff {a c : Float} (ha : rank c = rank (-a))
    : Scalar.isNaN c = true ↔ Scalar.isNaN a = true := by
  rw [isNaN_congr ha, isNaN_iff, isNaN_iff, isNumber_neg_iff]

theorem rank_least_neg {a b c d : Float} (ha : rank c = rank (-a)) (hb : rank d = rank (-b))
    : rank (Scalar.least c d) = rank (-(Scalar.greatest a b)) := by
  have hlt := lt_neg_iff ha hb
  have hnan := isNaN_neg_iff ha
  unfold Scalar.least Scalar.greatest
  simp only [hlt, hnan]
  split
  . exact hb
  . exact ha

theorem rank_greatest_neg {a b c d : Float} (ha : rank c = rank (-a)) (hb : rank d = rank (-b))
    : rank (Scalar.greatest c d) = rank (-(Scalar.least a b)) := by
  have hlt := lt_neg_iff hb ha
  have hnan := isNaN_neg_iff ha
  unfold Scalar.least Scalar.greatest
  simp only [hlt, hnan]
  split
  . exact hb
  . exact ha

variable (hxs : ∀ x ∈ xs, IsNumber x) (hys : ∀ y ∈ ys, IsNumber y)
include hxs hys

theorem rank_extremes_congr (h : List.Forall₂ (fun a b => rank b = rank a) xs ys)
    : rank (Scalar.leastOf ys) = rank (Scalar.leastOf xs) ∧
        rank (Scalar.greatestOf ys) = rank (Scalar.greatestOf xs) := by
  cases h with
  | nil => exact ⟨rfl, rfl⟩
  | cons hab hrest =>
    rw [leastOf_cons hys, leastOf_cons hxs, greatestOf_cons hys, greatestOf_cons hxs]
    constructor
    . exact foldl_related (f := fun a => a) rank_least_congr hab hrest
    . exact foldl_related (f := fun a => a) rank_greatest_congr hab hrest

theorem rank_extremes_neg (hne : xs ≠ [])
    (h : List.Forall₂ (fun a b => rank b = rank (-a)) xs ys)
    : rank (Scalar.leastOf ys) = rank (-(Scalar.greatestOf xs)) ∧
        rank (Scalar.greatestOf ys) = rank (-(Scalar.leastOf xs)) := by
  cases h with
  | nil => contradiction
  | cons hab hrest =>
    rw [leastOf_cons hys, leastOf_cons hxs, greatestOf_cons hys, greatestOf_cons hxs]
    constructor
    . exact foldl_related (f := fun a => -a) rank_least_neg hab hrest
    . exact foldl_related (f := fun a => -a) rank_greatest_neg hab hrest

end Pairs

end Extremes

/-- Whether two boxes have the same edges; the zeros among them may differ in sign. -/
structure Box.Alike (b c : Box Float) : Prop where
  x0 : rank b.x0 = rank c.x0
  y0 : rank b.y0 = rank c.y0
  x1 : rank b.x1 = rank c.x1
  y1 : rank b.y1 = rank c.y1

/-- The edges of a word, latest first, and those of the word turned: only the last may differ from
the turned edge, and there only in the sign of a zero. -/
structure EdgesTurned (r : Direction) (stop stop' start : Float) (more : List Float)
    (edges edges' : List Float) : Prop where
  original : edges = stop :: start :: more
  turned : edges' = stop' :: (start :: more).map r.turnAxis
  last : rank stop' = rank (r.turnAxis stop)
  isNumber : ∀ e ∈ edges, IsNumber e
  forward : rank (r.signed start) ≤ rank (r.signed stop)

theorem isNumber_turnAxis {x : Float} (h : IsNumber x) (r : Direction)
    : IsNumber (r.turnAxis x) := by
  unfold Direction.turnAxis
  split
  . exact h
  . exact isNumber_neg h

namespace EdgesTurned

variable {r : Direction} {stop stop' start : Float} {more edges edges' : List Float}
variable (h : EdgesTurned r stop stop' start more edges edges')
include h

theorem isNumber' : ∀ e ∈ edges', IsNumber e := by
  have hnumber := h.isNumber
  rw [h.original, List.forall_mem_cons] at hnumber
  rw [h.turned, List.forall_mem_cons]
  constructor
  . rw [isNumber_congr h.last]
    exact isNumber_turnAxis hnumber.1 r
  . intro e he
    obtain ⟨e', he', rfl⟩ := List.mem_map.mp he
    exact isNumber_turnAxis (hnumber.2 e' he') r

theorem forall₂ : List.Forall₂ (fun e e' => rank e' = rank (r.turnAxis e)) edges edges' := by
  rw [h.original, h.turned]
  rw [List.forall₂_cons, List.forall₂_map_right_iff, List.forall₂_same]
  exact ⟨h.last, fun _ _ => rfl⟩

theorem rank_signed_stop : rank ((r.turned 1).signed stop') = rank (r.signed stop) := by
  rw [Direction.rank_signed_congr h.last, Direction.signed_turnAxis]

theorem leastOf_signed
    : Scalar.leastOf (edges'.reverse.map (r.turned 1).signed) =
        Scalar.leastOf (edges.reverse.map r.signed) := by
  -- the last edge is the one that may differ, and the word begins at another
  have hnumber := h.isNumber
  rw [h.original, List.forall_mem_cons] at hnumber
  have hinit : ∀ z ∈ (start :: more).reverse.map r.signed, IsNumber z := by
    intro z hz
    obtain ⟨e, he, rfl⟩ := List.mem_map.mp hz
    exact isNumber_signed (hnumber.2 e (List.mem_reverse.mp he)) r
  have hstart : r.signed start ∈ (start :: more).reverse.map r.signed := by simp
  have hstop := isNumber_signed hnumber.1 r
  have hsame : ((start :: more).map r.turnAxis).reverse.map (r.turned 1).signed =
      (start :: more).reverse.map r.signed := by
    rw [← List.map_reverse, List.map_map]
    apply List.map_congr_left
    exact fun e _ => r.signed_turnAxis e
  have hle := h.forward
  have hle' := h.forward
  rw [← h.rank_signed_stop] at hle'
  rw [h.original, h.turned, List.reverse_cons, List.reverse_cons, List.map_append, List.map_append,
    List.map_singleton, List.map_singleton, hsame, leastOf_concat hinit hstop hstart hle,
    leastOf_concat hinit ((isNumber_congr h.rank_signed_stop).mpr hstop) hstart hle']

theorem rank_greatestOf_signed
    : rank (Scalar.greatestOf (edges'.reverse.map (r.turned 1).signed)) =
        rank (Scalar.greatestOf (edges.reverse.map r.signed)) := by
  refine (rank_extremes_congr ?_ ?_ ?_).2
  . intro z hz
    obtain ⟨e, he, rfl⟩ := List.mem_map.mp hz
    exact isNumber_signed (h.isNumber e (List.mem_reverse.mp he)) r
  . intro z hz
    obtain ⟨e, he, rfl⟩ := List.mem_map.mp hz
    exact isNumber_signed (h.isNumber' e (List.mem_reverse.mp he)) _
  . rw [List.forall₂_map_left_iff, List.forall₂_map_right_iff, List.forall₂_reverse_iff]
    apply h.forall₂.imp
    intro e e' he
    rw [Direction.rank_signed_congr he, Direction.signed_turnAxis]

theorem rank_extremes_of_isHorizontal (hr : r.isHorizontal = true)
    : rank (Scalar.leastOf edges'.reverse) = rank (Scalar.leastOf edges.reverse) ∧
        rank (Scalar.greatestOf edges'.reverse) = rank (Scalar.greatestOf edges.reverse) := by
  apply rank_extremes_congr
  . exact fun e he => h.isNumber e (List.mem_reverse.mp he)
  . exact fun e he => h.isNumber' e (List.mem_reverse.mp he)
  . rw [List.forall₂_reverse_iff]
    apply h.forall₂.imp
    intro e e' he
    unfold Direction.turnAxis at he
    rw [if_pos hr] at he
    exact he

theorem rank_extremes_of_not_isHorizontal (hr : ¬ r.isHorizontal = true)
    : rank (Scalar.leastOf edges'.reverse) = rank (-(Scalar.greatestOf edges.reverse)) ∧
        rank (Scalar.greatestOf edges'.reverse) = rank (-(Scalar.leastOf edges.reverse)) := by
  apply rank_extremes_neg
  . exact fun e he => h.isNumber e (List.mem_reverse.mp he)
  . exact fun e he => h.isNumber' e (List.mem_reverse.mp he)
  . rw [h.original]
    simp
  . rw [List.forall₂_reverse_iff]
    apply h.forall₂.imp
    intro e e' he
    unfold Direction.turnAxis at he
    rw [if_neg hr] at he
    exact he

end EdgesTurned

namespace Word

theorem rank_neg_sub (b q : Float) : rank (-b - q) = rank (-(b + q)) := by
  rw [sub_eq_add_neg, rank_neg_add_neg]

theorem rank_neg_add (b q : Float) : rank (-b + q) = rank (-(b - q)) := by
  rw [sub_eq_add_neg, ← rank_neg_add_neg, neg_neg]

theorem rank_crossExtent_of_isHorizontal {r : Direction} (hr : r.isHorizontal = true)
    (base size : Float) (mode : WritingMode)
    : rank (crossExtent (r.turnBase base) size (r.turned 1) mode).1 =
          rank (-(crossExtent base size r mode).2) ∧
        rank (crossExtent (r.turnBase base) size (r.turned 1) mode).2 =
          rank (-(crossExtent base size r mode).1) := by
  cases mode with
  | vertical =>
    cases r with
    | right => exact ⟨rank_neg_sub base _, rank_neg_add base _⟩
    | left => exact ⟨rank_neg_sub base _, rank_neg_add base _⟩
    | up => contradiction
    | down => contradiction
  | horizontal =>
    cases r with
    | right => exact ⟨rank_neg_sub base _, rank_neg_sub base _⟩
    | left => exact ⟨rank_neg_add base _, rank_neg_add base _⟩
    | up => contradiction
    | down => contradiction

theorem crossExtent_of_not_isHorizontal {r : Direction} (hr : ¬ r.isHorizontal = true)
    (base size : Float) (mode : WritingMode)
    : crossExtent (r.turnBase base) size (r.turned 1) mode = crossExtent base size r mode := by
  cases mode <;> cases r <;> first | rfl | exact absurd rfl hr

theorem boxOf_turn {r : Direction} {stop stop' start : Float} {more edges edges' : List Float}
    (h : EdgesTurned r stop stop' start more edges edges') (base size : Float) (mode : WritingMode)
    : (boxOf edges'.reverse (r.turnBase base) size (r.turned 1) mode).Alike
        (boxOf edges.reverse base size r mode).turn := by
  by_cases hr : r.isHorizontal = true
  . have hturned : (r.turned 1).isHorizontal = false := by
      revert hr
      cases r <;> decide
    obtain ⟨hleast, hgreatest⟩ := h.rank_extremes_of_isHorizontal hr
    obtain ⟨hlow, hhigh⟩ := rank_crossExtent_of_isHorizontal hr base size mode
    unfold boxOf
    dsimp only
    rw [hturned, hr]
    exact ⟨hlow, hleast, hhigh, hgreatest⟩
  . have hturned : (r.turned 1).isHorizontal = true := by
      revert hr
      cases r <;> decide
    obtain ⟨hleast, hgreatest⟩ := h.rank_extremes_of_not_isHorizontal hr
    have hcross := crossExtent_of_not_isHorizontal hr base size mode
    unfold boxOf
    dsimp only
    rw [hturned, if_neg hr, hcross]
    exact ⟨hleast, rfl, hgreatest, rfl⟩

/-- A word and what it is when its glyphs are turned. -/
structure Turned (w w' : Word Float) : Prop where
  text : w'.text = w.text
  glyphs : w'.glyphs = w.glyphs.map Glyph.turn
  isNumber_base : IsNumber w.base
  base : w'.base = w.direction.turnBase w.base
  size : w'.size = w.size
  direction : w'.direction = w.direction.turned 1
  mode : w'.mode = w.mode
  order : w'.order = w.order
  edges : List.Forall₂ (fun e e' => rank e' = rank (w.direction.turnAxis e)) w.edges w'.edges
  box : w'.box.Alike w.box.turn
  start : w'.start = w.start
  stop : rank w'.stop = rank w.stop

theorem Turned.ofParts? {r : Direction} {stop stop' start : Float}
    {more edges edges' : List Float} (h : EdgesTurned r stop stop' start more edges edges')
    (glyphs : List (Glyph Float)) {base : Float} (hbase : IsNumber base) (size : Float)
    (mode : WritingMode) (order : Nat)
    : Option.Rel Turned (ofParts? glyphs edges.reverse base size r mode order)
        (ofParts? (glyphs.map Glyph.turn) edges'.reverse (r.turnBase base) size (r.turned 1) mode
          order) := by
  have hlength : edges'.length = edges.length := h.forall₂.length_eq.symm
  unfold Word.ofParts?
  simp only [List.length_reverse, List.length_map, hlength, List.map_eq_nil_iff]
  split
  . exact .none
  . refine .some ⟨?_, rfl, hbase, rfl, rfl, rfl, rfl, rfl, List.forall₂_reverse_iff.mpr h.forall₂,
      boxOf_turn h base size mode, h.leastOf_signed, h.rank_greatestOf_signed⟩
    rw [List.map_map]
    rfl

end Word

end Galley
