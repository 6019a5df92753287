import Galley.Proofs.Segmenter.Joining
import Mathlib.Data.List.Chain

/-!
This module contains how far a finished word extends: over the starts of all its glyphs and the end
of the last one. The end of a glyph counts no more once another glyph has joined the word, so a word
may stop short of it.
-/

namespace Galley

open Binary64

namespace Word

variable {α : Type} [Scalar α]

/-- How far the glyphs of the word reach along its direction. -/
def reach (w : Word α) : α := Glyph.reachOf w.direction w.glyphs

/-- Whether a point is within the box of the word on the axis that its text runs along. -/
def Spans (w : Word α) (x y : α) : Prop :=
  w.direction.axis w.box.x0 w.box.y0 ≤ w.direction.axis x y ∧
    w.direction.axis x y ≤ w.direction.axis w.box.x1 w.box.y1

/-- How the extent of a word compares with its glyphs: it takes in the start of each and the end of
the last one, and an end before that only as far as glyphs may overlap. -/
structure Extends (tolerances : WordTolerances α) (w : Word α) : Prop where
  starts : ∀ g ∈ w.glyphs, w.start ≤ g.origin w.direction ∧ g.origin w.direction ≤ w.stop
  ends : ∀ g ∈ w.glyphs,
    g.origin w.direction ≤ g.farEnd w.direction ∧ g.farEnd w.direction ≤ w.reach
  last : ∀ g ∈ w.glyphs.getLast?, g.farEnd w.direction ≤ w.stop
  boxed : ∀ g ∈ w.glyphs, w.Spans g.x g.y
  boxedLast : ∀ g ∈ w.glyphs.getLast?, w.Spans (g.x + g.dx) (g.y + g.dy)
  stop : w.stop ≤ w.reach
  covers : w.reach ≤ w.stop ↔ ∀ g ∈ w.glyphs, g.farEnd w.direction ≤ w.stop
  apart : w.glyphs.IsChain (fun g k => g.farEnd w.direction ≤ k.origin w.direction) →
    ∀ g ∈ w.glyphs, g.farEnd w.direction ≤ w.stop
  near : w.reach ≤ w.stop ∨ ¬ w.stop - w.reach < -tolerances.overlap * w.size

end Word

/-- A word with the edges that its glyphs leave when they are added one after the other. -/
structure Word.Edged (w : Word Float) (init : List (Glyph Float)) (last : Glyph Float) : Prop where
  glyphs : w.glyphs = init ++ [last]
  edges : w.edges = w.glyphs.map (fun g => (OpenWord.bounds w.direction g).1) ++
    [(OpenWord.bounds w.direction last).2]
  box : w.box = Word.boxOf w.edges w.base w.size w.direction w.mode
  measured : ∀ g ∈ w.glyphs, g.Measured
  forward : ∀ g ∈ w.glyphs, 0.0 ≤ w.direction.primary g.dx g.dy

namespace Word.Edged

variable {w : Word Float} {init : List (Glyph Float)} {last : Glyph Float}
variable (h : w.Edged init last)
include h

theorem last_mem : last ∈ w.glyphs := by
  simp [h.glyphs]

theorem start_mem_edges {g : Glyph Float} (hg : g ∈ w.glyphs)
    : (OpenWord.bounds w.direction g).1 ∈ w.edges := by
  rw [h.edges]
  apply List.mem_append_left
  exact List.mem_map_of_mem hg

theorem stop_mem_edges : (OpenWord.bounds w.direction last).2 ∈ w.edges := by
  simp [h.edges]

theorem isNumber_edges : ∀ e ∈ w.edges, IsNumber e := by
  rw [h.edges, List.forall_mem_append, List.forall_mem_singleton]
  constructor
  . intro e he
    obtain ⟨g, hg, rfl⟩ := List.mem_map.mp he
    exact ((h.measured g hg).isNumber_bounds _).1
  . exact ((h.measured last h.last_mem).isNumber_bounds _).2

theorem map_signed_edges
    : w.edges.map w.direction.signed =
        w.glyphs.map (Glyph.origin w.direction) ++ [last.farEnd w.direction] := by
  rw [h.edges, List.map_append, List.map_map, List.map_singleton]
  congr 1
  . apply List.map_congr_left
    exact fun g _ => w.direction.signed_axis g.x g.y
  . unfold OpenWord.bounds
    rw [Direction.signed_axis]
    rfl

theorem isNumber_signed_edges : ∀ x ∈ w.edges.map w.direction.signed, IsNumber x := by
  intro x hx
  obtain ⟨e, he, rfl⟩ := List.mem_map.mp hx
  exact isNumber_signed (h.isNumber_edges e he) _

theorem origin_mem {g : Glyph Float} (hg : g ∈ w.glyphs)
    : g.origin w.direction ∈ w.edges.map w.direction.signed := by
  rw [h.map_signed_edges]
  apply List.mem_append_left
  exact List.mem_map_of_mem hg

theorem start_le_origin {g : Glyph Float} (hg : g ∈ w.glyphs)
    : w.start ≤ g.origin w.direction :=
  leastOf_le h.isNumber_signed_edges (h.origin_mem hg)

theorem origin_le_stop {g : Glyph Float} (hg : g ∈ w.glyphs)
    : g.origin w.direction ≤ w.stop :=
  le_greatestOf h.isNumber_signed_edges (h.origin_mem hg)

theorem farEnd_last_le_stop : last.farEnd w.direction ≤ w.stop := by
  apply le_greatestOf h.isNumber_signed_edges
  rw [h.map_signed_edges]
  simp

theorem origin_le_farEnd {g : Glyph Float} (hg : g ∈ w.glyphs)
    : g.origin w.direction ≤ g.farEnd w.direction := by
  have hmeasured := h.measured g hg
  rw [le_iff_rank_le (hmeasured.origin _) (hmeasured.farEnd _)]
  exact hmeasured.rank_origin_le_farEnd (h.forward g hg)

theorem farEnd_le_reach {g : Glyph Float} (hg : g ∈ w.glyphs)
    : g.farEnd w.direction ≤ w.reach := by
  apply le_greatestOf (Glyph.isNumber_extents h.measured _)
  exact List.mem_flatMap.mpr ⟨g, hg, by simp⟩

theorem reach_mem
    : w.reach ∈ w.glyphs.flatMap fun g => [g.origin w.direction, g.farEnd w.direction] := by
  apply greatestOf_mem (Glyph.isNumber_extents h.measured _)
  simp [h.glyphs]

theorem stop_le_reach : w.stop ≤ w.reach := by
  have hmem : w.stop ∈ w.edges.map w.direction.signed := by
    apply greatestOf_mem h.isNumber_signed_edges
    rw [h.map_signed_edges]
    simp
  rw [h.map_signed_edges, List.mem_append, List.mem_singleton] at hmem
  rcases hmem with hmem | hmem
  . obtain ⟨g, hg, heq⟩ := List.mem_map.mp hmem
    rw [← heq]
    exact number_le_trans (h.origin_le_farEnd hg) (h.farEnd_le_reach hg)
  . rw [hmem]
    exact h.farEnd_le_reach h.last_mem

theorem reach_le_stop_iff
    : w.reach ≤ w.stop ↔ ∀ g ∈ w.glyphs, g.farEnd w.direction ≤ w.stop := by
  constructor
  . intro hreach g hg
    exact number_le_trans (h.farEnd_le_reach hg) hreach
  . intro hends
    obtain ⟨g, hg, hreach⟩ := List.mem_flatMap.mp h.reach_mem
    rw [List.mem_cons, List.mem_singleton] at hreach
    rcases hreach with hreach | hreach
    . rw [hreach]
      exact h.origin_le_stop hg
    . rw [hreach]
      exact hends g hg

theorem farEnd_le_stop_of_isChain
    (hchain : w.glyphs.IsChain fun g k => g.farEnd w.direction ≤ k.origin w.direction)
    {g : Glyph Float} (hg : g ∈ w.glyphs) : g.farEnd w.direction ≤ w.stop := by
  obtain ⟨front, back, hsplit⟩ := List.append_of_mem hg
  cases back with
  | nil =>
    rw [h.glyphs] at hsplit
    have hlast := (List.append_inj' hsplit rfl).2
    injection hlast with hlast
    rw [← hlast]
    exact h.farEnd_last_le_stop
  | cons k back =>
    rw [hsplit] at hchain
    have hnext := (List.isChain_cons_cons.mp hchain.right_of_append).1
    have hk : k ∈ w.glyphs := by simp [hsplit]
    exact number_le_trans hnext (h.origin_le_stop hk)

theorem spans_of_mem_edges {x y : Float} (hedge : w.direction.axis x y ∈ w.edges)
    : w.Spans x y := by
  have hlow := leastOf_le h.isNumber_edges hedge
  have hhigh := le_greatestOf h.isNumber_edges hedge
  have hbox : w.direction.axis w.box.x0 w.box.y0 = Scalar.leastOf w.edges ∧
      w.direction.axis w.box.x1 w.box.y1 = Scalar.greatestOf w.edges := by
    rw [h.box]
    unfold Word.boxOf Direction.axis
    cases w.direction.isHorizontal <;> exact ⟨rfl, rfl⟩
  unfold Word.Spans
  rw [hbox.1, hbox.2]
  exact ⟨hlow, hhigh⟩

theorem eq_last_of_mem_getLast? {g : Glyph Float} (hg : g ∈ w.glyphs.getLast?) : g = last := by
  rw [h.glyphs, List.getLast?_concat] at hg
  injection hg with hg
  exact hg.symm

theorem extends_of_near {tolerances : WordTolerances Float}
    (hnear : w.reach ≤ w.stop ∨ ¬ w.stop - w.reach < -tolerances.overlap * w.size)
    : w.Extends tolerances where
  starts := fun g hg => ⟨h.start_le_origin hg, h.origin_le_stop hg⟩
  ends := fun g hg => ⟨h.origin_le_farEnd hg, h.farEnd_le_reach hg⟩
  last := by
    intro g hg
    rw [h.eq_last_of_mem_getLast? hg]
    exact h.farEnd_last_le_stop
  boxed := fun g hg => h.spans_of_mem_edges (h.start_mem_edges hg)
  boxedLast := by
    intro g hg
    rw [h.eq_last_of_mem_getLast? hg]
    exact h.spans_of_mem_edges h.stop_mem_edges
  stop := h.stop_le_reach
  covers := h.reach_le_stop_iff
  apart := fun hchain g hg => h.farEnd_le_stop_of_isChain hchain hg
  near := hnear

end Word.Edged

namespace OpenWord

/-- An open word with the edges of its glyphs. What it reaches is the end of its latest glyph, or
that glyph began no farther before it than glyphs may overlap. -/
structure Edged (tolerances : WordTolerances Float) (w : OpenWord Float) : Prop where
  traces : ∃ first rest, w.Traces first rest
  edges : w.edges = (bounds w.direction w.last).2 ::
    (w.last :: w.earlier).map fun g => (bounds w.direction g).1
  forward : ∀ g ∈ w.glyphs, 0.0 ≤ w.direction.primary g.dx g.dy
  near : rank w.reach ≤ rank (w.last.farEnd w.direction) ∨
    (w.last.origin w.direction).isFinite = true ∧
      ¬ w.last.origin w.direction - w.reach < -tolerances.overlap * w.size

theorem Edged.ofGlyph (tolerances : WordTolerances Float) {g : Glyph Float} (hg : g.Measured)
    (hforward : 0.0 ≤ g.direction.primary g.dx g.dy) : (OpenWord.ofGlyph g).Edged tolerances where
  traces := ⟨g, [], .ofGlyph hg⟩
  edges := by rfl
  forward := by
    rw [glyphs_ofGlyph, List.forall_mem_singleton]
    exact hforward
  near := by
    left
    have hends := hg.rank_origin_le_farEnd hforward
    have hreach : (OpenWord.ofGlyph g).reach =
        Scalar.greatest (g.origin g.direction) (g.farEnd g.direction) := by rfl
    rw [hreach, rank_greatest (hg.origin _) (hg.farEnd _)]
    exact Int.max_le.mpr ⟨hends, Int.le_refl _⟩

variable {tolerances : WordTolerances Float} {w : OpenWord Float}

theorem Edged.isNumber_reach (h : w.Edged tolerances) : IsNumber w.reach := by
  obtain ⟨first, rest, htraces⟩ := h.traces
  rw [htraces.reach]
  exact Glyph.isNumber_reachOf htraces.measured _

theorem Edged.push (h : w.Edged tolerances) {g : Glyph Float} (hg : g.isFinite = true)
    (hforward : 0.0 ≤ w.direction.primary g.dx g.dy) (hapart : w.isApart tolerances g = false)
    : (w.push g).Edged tolerances where
  traces := by
    obtain ⟨first, rest, htraces⟩ := h.traces
    exact ⟨first, rest ++ [g], htraces.push (.of_isFinite hg)⟩
  edges := by
    unfold OpenWord.push
    dsimp only
    rw [h.edges, List.tail_cons]
    rfl
  forward := by
    rw [glyphs_push, List.forall_mem_append, List.forall_mem_singleton]
    exact ⟨h.forward, hforward⟩
  near := by
    have hmeasured := Glyph.Measured.of_isFinite hg
    have hreach := h.isNumber_reach
    have horigin := hmeasured.origin w.direction
    have hfar := hmeasured.farEnd w.direction
    have hends := hmeasured.rank_origin_le_farEnd hforward
    have hpush : (w.push g).reach =
        Scalar.greatest (Scalar.greatest w.reach (g.origin w.direction))
          (g.farEnd w.direction) := by rfl
    -- the glyph reaches farther than the word did, or the word reaches no farther than before
    rcases greatest_cases (isNumber_greatest hreach horigin) hfar with ⟨_, hnew⟩ | ⟨hle, hnew⟩
    . left
      rw [hpush, hnew]
      exact Int.le_refl _
    . rcases greatest_cases hreach horigin with ⟨_, hold⟩ | ⟨_, hold⟩
      . left
        rw [hpush, hnew, hold]
        exact hends
      . right
        obtain ⟨hx, hy, _⟩ := Glyph.isFinite_fields hg
        refine ⟨isFinite_primary hx hy _, ?_⟩
        rw [hpush, hnew, hold]
        unfold isApart at hapart
        simp only [Bool.or_eq_false_iff, decide_eq_false_iff_not, and_assoc] at hapart
        exact hapart.1

theorem Edged.finish? (h : w.Edged tolerances) {order : Nat} {word : Word Float}
    (hfinish : w.finish? order = some word) : word.Edged w.earlier.reverse w.last := by
  obtain ⟨first, rest, htraces⟩ := h.traces
  have hmeasured := htraces.measured
  rw [← htraces.glyphs] at hmeasured
  unfold OpenWord.finish? Word.ofParts? at hfinish
  split at hfinish
  . contradiction
  . injection hfinish with hfinish
    rw [← hfinish]
    constructor
    . exact List.reverse_cons
    . dsimp only
      rw [h.edges, List.reverse_cons, List.map_reverse]
    . rfl
    . exact hmeasured
    . exact h.forward

theorem Edged.reach_finish? (h : w.Edged tolerances) {order : Nat} {word : Word Float}
    (hfinish : w.finish? order = some word) : word.reach = w.reach := by
  obtain ⟨first, rest, htraces⟩ := h.traces
  obtain ⟨hglyphs, _, _, hdirection, _⟩ := fields_of_finish? hfinish
  unfold Word.reach
  rw [htraces.reach, hdirection, hglyphs, htraces.direction, htraces.glyphs]

/-- A finished word stops where its glyphs reach, or no farther before it than they may overlap. -/
theorem Edged.near_finish? (h : w.Edged tolerances) {order : Nat} {word : Word Float}
    (hfinish : w.finish? order = some word)
    : word.reach ≤ word.stop ∨ ¬ word.stop - word.reach < -tolerances.overlap * word.size := by
  have hword := h.finish? hfinish
  have hreach := h.isNumber_reach
  obtain ⟨_, _, hsize, hdirection, _⟩ := fields_of_finish? hfinish
  have hfar := hword.farEnd_last_le_stop
  have horigin := hword.origin_le_stop hword.last_mem
  rw [hdirection] at hfar horigin
  rw [le_iff] at hfar horigin
  rw [h.reach_finish? hfinish, hsize]
  rcases h.near with hnear | ⟨hfinite, hnear⟩
  . left
    rw [le_iff]
    exact ⟨hreach, hfar.2.1, by omega⟩
  . right
    exact not_sub_lt_of_le hfinite hfar.2.1 hreach horigin.2.2 hnear

end OpenWord

namespace Segmenter

theorem carried_edged (settings : Settings Float)
    : Carried settings (OpenWord.Edged settings.word) (Word.Extends settings.word) where
  begin := by
    intro g hg _
    apply OpenWord.Edged.ofGlyph
    . exact .anchored hg
    . have hadvance := advance_anchored hg
      simpa using hadvance
  join := by
    intro s g w hg _ hedged hjoins
    apply hedged.push hg _ hjoins.apart
    have hadvance := advance_anchored hg
    unfold anchored at hadvance
    rw [hjoins.forward, hjoins.direction] at hadvance
    exact hadvance
  finish := fun w order v hedged hfinish =>
    (hedged.finish? hfinish).extends_of_near (hedged.near_finish? hfinish)

theorem words_extend (page : Box Float) (settings : Settings Float) (calls : List (Call Float))
    : ∀ w ∈ (after page settings calls).close.words, w.Extends settings.word :=
  (carried_edged settings).of_mem_words page calls

/-- Two letters of which the second, which has no width, begins before the end of the first. -/
def leaningBack : List (Call Float) :=
  let g : Glyph Float := ⟨'a', 97, 0, 100.0, 700.0, 10.0, 0.0, 12.0, .right, .horizontal, "F1"⟩
  [.push g, .push { g with char := 'b', code := 98, index := 1, x := 109.5, dx := 0.0 }]

theorem words_extend_leaningBack
    : let words := (after ⟨0.0, 0.0, 612.0, 792.0⟩ .default leaningBack).close.words
      words ≠ [] ∧ ∃ w ∈ words, w.Extends (.default : WordTolerances Float) := by
  have hne : (after ⟨0.0, 0.0, 612.0, 792.0⟩ .default leaningBack).close.words ≠ [] := by
    decide +kernel
  refine ⟨hne, _, List.head_mem hne, ?_⟩
  exact words_extend ⟨0.0, 0.0, 612.0, 792.0⟩ .default leaningBack _ (List.head_mem hne)

theorem exists_glyph_beyond_leaningBack
    : let s : Segmenter Float := after ⟨0.0, 0.0, 612.0, 792.0⟩ .default leaningBack
      ∃ w ∈ s.close.words,
        (∃ g ∈ w.glyphs, w.stop < g.farEnd w.direction ∧
          w.direction.axis w.box.x1 w.box.y1 < w.direction.axis (g.x + g.dx) (g.y + g.dy)) ∧
        ∃ v ∈ s.opened, w.stop < v.reach := by
  decide +kernel

end Segmenter

end Galley
