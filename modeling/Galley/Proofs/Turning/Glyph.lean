import Galley.Proofs.Binary64.Congruence
import Galley.Proofs.Segmenter.Coherence

/-!
This module contains glyphs and pages that are turned counterclockwise by a quarter, and what the
turn does to them: nothing to positions along the direction, and a sign to some baselines.
-/

namespace Galley

open Binary64

section Turn

variable {α : Type} [Scalar α]

/-- The glyph, turned by a quarter around the origin of the page. -/
def Glyph.turn (g : Glyph α) : Glyph α :=
  { g with x := -g.y, y := g.x, dx := -g.dy, dy := g.dx, direction := g.direction.turned 1 }

/-- The box, turned by a quarter around the origin of the page. -/
def Box.turn (b : Box α) : Box α := ⟨-b.y1, b.x0, -b.y0, b.x1⟩

/-- What the turn makes of a baseline. -/
def Direction.turnBase (r : Direction) (base : α) : α := if r.isHorizontal then -base else base

/-- What the turn makes of a coordinate on the axis that text runs along. -/
def Direction.turnAxis (r : Direction) (v : α) : α := if r.isHorizontal then v else -v

def Segmenter.Call.turn : Segmenter.Call α → Segmenter.Call α
  | .push g => .push g.turn
  | .close => .close

end Turn

namespace Direction

theorem turned_injective {r q : Direction} (h : r.turned 1 = q.turned 1) : r = q := by
  revert h
  cases r <;> cases q <;> decide

@[simp]
theorem turned_eq_turned (r q : Direction) : r.turned 1 = q.turned 1 ↔ r = q :=
  ⟨turned_injective, fun h => by rw [h]⟩

theorem primary_turn (r : Direction) (x y : Float)
    : (r.turned 1).primary (-y) x = r.primary x y := by
  cases r with
  | right => rfl
  | up => exact neg_neg y
  | left => rfl
  | down => rfl

theorem base_turn (r : Direction) (x y : Float)
    : (r.turned 1).base (-y) x = r.turnBase (r.base x y) := by
  cases r <;> rfl

theorem axis_turn (r : Direction) (x y : Float)
    : (r.turned 1).axis (-y) x = r.turnAxis (r.axis x y) := by
  cases r <;> rfl

theorem signed_turnAxis (r : Direction) (v : Float)
    : (r.turned 1).signed (r.turnAxis v) = r.signed v := by
  cases r with
  | right => rfl
  | up => exact neg_neg v
  | left => rfl
  | down => rfl

section Congruence

variable {x x' y y' : Float} (hx : rank x = rank x') (hy : rank y = rank y')

include hx hy in
theorem rank_primary_congr (r : Direction) : rank (r.primary x y) = rank (r.primary x' y') := by
  cases r with
  | right => exact hx
  | up => exact hy
  | left => exact rank_neg_congr hx
  | down => exact rank_neg_congr hy

include hx hy in
theorem rank_axis_congr (r : Direction) : rank (r.axis x y) = rank (r.axis x' y') := by
  cases r with
  | right => exact hx
  | up => exact hy
  | left => exact hx
  | down => exact hy

include hx in
theorem rank_signed_congr (r : Direction) : rank (r.signed x) = rank (r.signed x') := by
  cases r with
  | right => exact hx
  | up => exact hx
  | left => exact rank_neg_congr hx
  | down => exact rank_neg_congr hx

end Congruence

/-- The distance of two baselines is what it was. -/
theorem rank_abs_turnBase_sub (r : Direction) (a b : Float)
    : rank (Scalar.abs (r.turnBase a - r.turnBase b)) = rank (Scalar.abs (a - b)) := by
  unfold turnBase
  split
  . rw [neg_sub_neg]
    exact rank_abs_sub_comm b a
  . rfl

end Direction

namespace Glyph

section Extent

variable (r : Direction) (g : Glyph Float)

theorem origin_turn : g.turn.origin (r.turned 1) = g.origin r :=
  r.primary_turn g.x g.y

theorem baseline_turn : g.turn.baseline (r.turned 1) = r.turnBase (g.baseline r) :=
  r.base_turn g.x g.y

theorem rank_farEnd_turn : rank (g.turn.farEnd (r.turned 1)) = rank (g.farEnd r) := by
  have hcongr := Direction.rank_primary_congr (rank_neg_add_neg g.y g.dy) (y := g.x + g.dx) rfl
    (r.turned 1)
  rw [r.primary_turn] at hcongr
  exact hcongr

theorem start_bounds_turn
    : (OpenWord.bounds (r.turned 1) g.turn).1 = r.turnAxis (OpenWord.bounds r g).1 :=
  r.axis_turn g.x g.y

theorem rank_stop_bounds_turn
    : rank (OpenWord.bounds (r.turned 1) g.turn).2 = rank (r.turnAxis (OpenWord.bounds r g).2) := by
  have hcongr := Direction.rank_axis_congr (rank_neg_add_neg g.y g.dy) (y := g.x + g.dx) rfl
    (r.turned 1)
  rw [r.axis_turn] at hcongr
  exact hcongr

theorem advance_turn
    : (r.turned 1).primary g.turn.dx g.turn.dy = r.primary g.dx g.dy :=
  r.primary_turn g.dx g.dy

end Extent

theorem isFinite_turn (g : Glyph Float) : g.turn.isFinite = g.isFinite := by
  have hneg : ∀ x : Float, Scalar.isFinite (-x) = Scalar.isFinite x := isFinite_neg_iff
  unfold isFinite turn
  simp only [hneg]
  cases Scalar.isFinite g.x <;> cases Scalar.isFinite g.y <;> cases Scalar.isFinite g.dx <;>
    cases Scalar.isFinite g.dy <;> rfl

end Glyph

namespace Segmenter

theorem isReversed_turn (g : Glyph Float) : isReversed g.turn = isReversed g := by
  rw [isReversed_eq, isReversed_eq]
  rw [show g.turn.direction = g.direction.turned 1 from rfl, g.advance_turn]

theorem isTiny_turn (g : Glyph Float) : isTiny g.turn = isTiny g := by
  have hneg : Scalar.abs (-g.dy) = Scalar.abs g.dy := abs_neg g.dy
  unfold isTiny Glyph.turn
  rw [hneg, Bool.and_comm]

theorem anchored_turn {g : Glyph Float} (hg : g.isFinite = true)
    (h : isReversed g = true → g.y ≠ -g.dy) : anchored g.turn = (anchored g).turn := by
  obtain ⟨_, hy, _, hdy, _⟩ := Glyph.isFinite_fields hg
  unfold anchored
  rw [isReversed_turn]
  cases hreversed : isReversed g with
  | false => rfl
  | true =>
    rw [if_pos rfl, if_pos rfl]
    unfold Glyph.turn
    simp only [neg_add_neg_of_ne hy hdy (h hreversed)]

/-- The least and the largest coordinate of a glyph on an axis, and those of their negatives. -/
theorem rank_ordered_neg {a b : Float} (ha : IsNumber a) (hb : IsNumber b) {c : Float}
    (hc : rank c = rank (-b))
    : rank (isOffPage.ordered (-a) c).1 = rank (-(isOffPage.ordered a b).2) ∧
        rank (isOffPage.ordered (-a) c).2 = rank (-(isOffPage.ordered a b).1) := by
  have hna := rank_neg ha
  have hnb := rank_neg hb
  have hcnumber : IsNumber c := (isNumber_congr hc).mpr (isNumber_neg hb)
  unfold isOffPage.ordered
  simp only [le_iff_rank_le ha hb, le_iff_rank_le (isNumber_neg ha) hcnumber]
  split <;> split <;> constructor <;> simp only [] <;> omega

theorem isOffPage_eq (page : Box Float) (g : Glyph Float)
    : isOffPage page g =
        (decide ((isOffPage.ordered g.x (g.x + g.dx)).2 < page.x0) ||
          decide (page.x1 < (isOffPage.ordered g.x (g.x + g.dx)).1) ||
          decide ((isOffPage.ordered g.y (g.y + g.dy)).2 < page.y0) ||
          decide (page.y1 < (isOffPage.ordered g.y (g.y + g.dy)).1) ||
          decide (page.width < Scalar.abs g.dx) || decide (page.height < Scalar.abs g.dy)) := by
  rfl

theorem isOffPage_turn (page : Box Float) {g : Glyph Float} (hg : g.isFinite = true)
    : isOffPage page.turn g.turn = isOffPage page g := by
  obtain ⟨_, hy, _, hdy, _⟩ := Glyph.isFinite_fields hg
  obtain ⟨hlow, hhigh⟩ := rank_ordered_neg (isNumber_of_isFinite hy) (isNumber_add hy hdy)
    (rank_neg_add_neg g.y g.dy)
  have hwidth : page.turn.width = page.height := neg_sub_neg page.y0 page.y1
  have hheight : page.turn.height = page.width := rfl
  have habs : Scalar.abs (-g.dy) = Scalar.abs g.dy := abs_neg g.dy
  have hleft : (isOffPage.ordered (-g.y) (-g.y + -g.dy)).2 < -page.y1 ↔
      page.y1 < (isOffPage.ordered g.y (g.y + g.dy)).1 := by
    rw [lt_congr hhigh (y := -page.y1) rfl, neg_lt_neg_iff]
  have hright : -page.y0 < (isOffPage.ordered (-g.y) (-g.y + -g.dy)).1 ↔
      (isOffPage.ordered g.y (g.y + g.dy)).2 < page.y0 := by
    rw [lt_congr (x := -page.y0) rfl hlow, neg_lt_neg_iff]
  rw [isOffPage_eq, isOffPage_eq, hwidth, hheight, Bool.eq_iff_iff]
  unfold Glyph.turn Box.turn
  simp only [Bool.or_eq_true, decide_eq_true_iff, hleft, hright, habs]
  constructor
  . rintro (((((h | h) | h) | h) | h) | h) <;> simp [h]
  . rintro (((((h | h) | h) | h) | h) | h) <;> simp [h]

variable (page : Box Float) (g : Glyph Float)

theorem isCounted_turn : isCounted page.turn g.turn = isCounted page g := by
  rw [isCounted_eq, isCounted_eq]
  rw [g.isFinite_turn, isTiny_turn]
  cases hg : g.isFinite with
  | false => simp only [Bool.false_and]
  | true => rw [isOffPage_turn page hg]

theorem fateAt_turn (settings : Settings Float) (tiny : Nat)
    : fateAt page.turn settings tiny g.turn = fateAt page settings tiny g := by
  have hchar : g.turn.char = g.char := rfl
  unfold fateAt
  rw [g.isFinite_turn, isCounted_turn, hchar]
  cases hg : g.isFinite with
  | false => rw [Bool.not_false, if_pos rfl, if_pos rfl]
  | true => rw [isOffPage_turn page hg]

end Segmenter

end Galley
