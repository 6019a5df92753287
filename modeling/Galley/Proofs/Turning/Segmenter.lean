import Galley.Proofs.Segmenter.Joining
import Galley.Proofs.Turning.Word

/-!
This module contains segmenters that are given turned glyphs: call by call they open, extend and
end the same words, which are turned as well.
-/

namespace Galley

open Binary64

theorem exists_of_rel_some {β γ : Type} {r : β → γ → Prop} {b : β} {o : Option γ}
    (h : Option.Rel r (some b) o) : ∃ c, o = some c ∧ r b c := by
  cases h with
  | some h => exact ⟨_, rfl, h⟩

theorem exists_of_rel_some_right {β γ : Type} {r : β → γ → Prop} {c : γ} {o : Option β}
    (h : Option.Rel r o (some c)) : ∃ b, o = some b ∧ r b c := by
  cases h with
  | some h => exact ⟨_, rfl, h⟩

/-- The edges of a word that a glyph was just added to. -/
theorem EdgesTurned.of_glyph {r : Direction} {g : Glyph Float} (hg : g.Measured)
    (hforward : 0.0 ≤ r.primary g.dx g.dy) {more : List Float} (hmore : ∀ e ∈ more, IsNumber e)
    : EdgesTurned r (OpenWord.bounds r g).2 (OpenWord.bounds (r.turned 1) g.turn).2
        (OpenWord.bounds r g).1 more ((OpenWord.bounds r g).2 :: (OpenWord.bounds r g).1 :: more)
        ((OpenWord.bounds (r.turned 1) g.turn).2 :: (OpenWord.bounds (r.turned 1) g.turn).1 ::
          more.map r.turnAxis) where
  original := by rfl
  turned := by rw [g.start_bounds_turn, List.map_cons]
  last := g.rank_stop_bounds_turn r
  isNumber := by
    obtain ⟨hstart, hstop⟩ := hg.isNumber_bounds r
    rw [List.forall_mem_cons, List.forall_mem_cons]
    exact ⟨hstop, hstart, hmore⟩
  forward := by
    have hle := hg.rank_origin_le_farEnd hforward
    unfold OpenWord.bounds
    rw [r.signed_axis, r.signed_axis]
    exact hle

namespace OpenWord

/-- An open word and what it is when its glyphs are turned. -/
structure Turned (w w' : OpenWord Float) : Prop where
  isNumber_base : IsNumber w.base
  base : w'.base = w.direction.turnBase w.base
  size : w'.size = w.size
  direction : w'.direction = w.direction.turned 1
  mode : w'.mode = w.mode
  last : w'.last = w.last.turn
  earlier : w'.earlier = w.earlier.map Glyph.turn
  reach : rank w'.reach = rank w.reach
  edges : ∃ stop stop' start more,
    EdgesTurned w.direction stop stop' start more w.edges w'.edges

theorem Turned.ofGlyph {g : Glyph Float} (hg : g.Measured)
    (hforward : 0.0 ≤ g.direction.primary g.dx g.dy) : (ofGlyph g).Turned (ofGlyph g.turn) where
  isNumber_base := hg.baseline g.direction
  base := g.baseline_turn g.direction
  size := by rfl
  direction := by rfl
  mode := by rfl
  last := by rfl
  earlier := by rfl
  reach := by
    apply rank_greatest_congr
    . exact congrArg rank (g.origin_turn g.direction)
    . exact g.rank_farEnd_turn g.direction
  edges := ⟨_, _, _, _, .of_glyph hg hforward (by simp)⟩

variable {w w' : OpenWord Float}

theorem Turned.push (h : w.Turned w') {g : Glyph Float} (hg : g.Measured)
    (hforward : 0.0 ≤ w.direction.primary g.dx g.dy) : (w.push g).Turned (w'.push g.turn) where
  isNumber_base := h.isNumber_base
  base := h.base
  size := h.size
  direction := h.direction
  mode := h.mode
  last := by rfl
  earlier := by
    show w'.last :: w'.earlier = (w.last :: w.earlier).map Glyph.turn
    rw [h.last, h.earlier, List.map_cons]
  reach := by
    unfold OpenWord.push
    dsimp only
    rw [h.direction]
    apply rank_greatest_congr
    . apply rank_greatest_congr h.reach
      exact congrArg rank (g.origin_turn w.direction)
    . exact g.rank_farEnd_turn w.direction
  edges := by
    obtain ⟨stop, stop', start, more, hedges⟩ := h.edges
    have htail : w'.edges.tail = w.edges.tail.map w.direction.turnAxis := by
      rw [hedges.original, hedges.turned, List.tail_cons, List.tail_cons]
    have hmore : ∀ e ∈ w.edges.tail, IsNumber e :=
      fun e he => hedges.isNumber e (List.mem_of_mem_tail he)
    have hnew := EdgesTurned.of_glyph hg hforward hmore
    rw [← htail, ← h.direction] at hnew
    exact ⟨_, _, _, _, hnew⟩

theorem Turned.finish? (h : w.Turned w') (order : Nat)
    : Option.Rel Word.Turned (w.finish? order) (w'.finish? order) := by
  obtain ⟨stop, stop', start, more, hedges⟩ := h.edges
  have hglyphs : (w'.last :: w'.earlier).reverse =
      (w.last :: w.earlier).reverse.map Glyph.turn := by
    rw [h.last, h.earlier, ← List.map_cons, List.map_reverse]
  unfold OpenWord.finish?
  rw [hglyphs, h.base, h.size, h.direction, h.mode]
  exact Word.Turned.ofParts? hedges _ h.isNumber_base w.size w.mode order

section Tests

variable (h : w.Turned w') (tolerances : WordTolerances Float) (g : Glyph Float)
include h

theorem Turned.rank_across
    : rank (Scalar.abs (w'.direction.base g.turn.x g.turn.y - w'.base)) =
        rank (Scalar.abs (w.direction.base g.x g.y - w.base)) := by
  have hbase := g.baseline_turn w.direction
  unfold Glyph.baseline at hbase
  rw [h.direction, h.base, hbase, Direction.rank_abs_turnBase_sub]

theorem Turned.isRepeat : w'.isRepeat tolerances g.turn = w.isRepeat tolerances g := by
  have horigin := g.origin_turn w.direction
  have hlast := w.last.origin_turn w.direction
  have hacross := h.rank_across g
  rw [h.direction] at hacross
  unfold Glyph.origin at horigin hlast
  unfold OpenWord.isRepeat
  dsimp only
  rw [h.direction, h.last, h.size, horigin, hlast]
  simp only [lt_congr hacross (y := tolerances.duplicateAcross * w.size) rfl]

theorem Turned.isApart : w'.isApart tolerances g.turn = w.isApart tolerances g := by
  have horigin := g.origin_turn w.direction
  have hacross := h.rank_across g
  have hahead : rank (w.direction.primary g.x g.y - w'.reach) =
      rank (w.direction.primary g.x g.y - w.reach) := rank_sub_congr rfl h.reach
  have hlook : (g.turn.direction != w.direction.turned 1) = (g.direction != w.direction) := by
    rw [Bool.eq_iff_iff, bne_iff_ne, bne_iff_ne]
    exact not_congr (Direction.turned_eq_turned g.direction w.direction)
  rw [h.direction] at hacross
  unfold Glyph.origin at horigin
  unfold OpenWord.isApart
  dsimp only
  rw [h.direction, h.size, h.mode, horigin, hlook]
  simp only [lt_congr hahead (y := -tolerances.overlap * w.size) rfl,
    lt_congr (x := tolerances.gap * w.size) rfl hahead,
    lt_congr (x := tolerances.drift) rfl hacross]
  rfl

end Tests

end OpenWord

namespace Segmenter

/-- A segmenter and what it is when its glyphs are turned. -/
structure Turned (s s' : Segmenter Float) : Prop where
  opened : Option.Rel OpenWord.Turned s.opened s'.opened
  repeated : s'.repeated = s.repeated
  finished : List.Forall₂ Word.Turned s.finished s'.finished
  tally : s'.tally = s.tally

variable {s s' : Segmenter Float}

theorem Turned.empty : Turned Segmenter.empty Segmenter.empty :=
  ⟨.none, rfl, .nil, rfl⟩

theorem Turned.withTally (h : s.Turned s') (tally : Tally)
    : (s.withTally tally).Turned (s'.withTally tally) :=
  ⟨h.opened, h.repeated, h.finished, rfl⟩

theorem Turned.close (h : s.Turned s') : s.close.Turned s'.close := by
  obtain ⟨opened, repeated, finished, tally⟩ := s
  obtain ⟨opened', repeated', finished', tally'⟩ := s'
  obtain ⟨hopened, hrepeated, hfinished, htally⟩ := h
  change tally' = tally at htally
  subst htally
  cases hopened with
  | none => exact ⟨.none, hrepeated, hfinished, rfl⟩
  | @some w w' hw =>
    have hfinish := hw.finish? tally'.words
    unfold Segmenter.close
    dsimp only
    generalize w.finish? tally'.words = word at hfinish
    generalize w'.finish? tally'.words = word' at hfinish
    cases hfinish with
    | none => exact ⟨.none, hrepeated, hfinished, rfl⟩
    | some hword => exact ⟨.none, hrepeated, .cons hword hfinished, rfl⟩

section Accept

variable (h : s.Turned s') (settings : Settings Float) (g : Glyph Float)
include h

theorem Turned.repeatsLast : repeatsLast settings s' g.turn = repeatsLast settings s g := by
  have hopened := h.opened
  unfold Segmenter.repeatsLast
  generalize s.opened = opened at hopened
  generalize s'.opened = opened' at hopened
  cases hopened with
  | none => rw [Option.elim_none, Option.elim_none]
  | some hw =>
    rw [Option.elim_some, Option.elim_some]
    exact hw.isRepeat settings.word g

theorem Turned.exists_joins {w : OpenWord Float} (hjoins : Joins settings s g w)
    : ∃ w', Joins settings s' g.turn w' ∧ w.Turned w' := by
  have hopened := h.opened
  rw [hjoins.opened] at hopened
  obtain ⟨w', hw', hw⟩ := exists_of_rel_some hopened
  refine ⟨w', ⟨hw', ?_, ?_, ?_, ?_⟩, hw⟩
  . rw [h.repeated, hjoins.fresh]
  . rw [hw.isApart, hjoins.apart]
  . rw [hw.isRepeat, hjoins.single]
  . rw [isReversed_turn, hjoins.forward]

theorem Turned.exists_joins_of_turn {w' : OpenWord Float} (hjoins : Joins settings s' g.turn w')
    : ∃ w, Joins settings s g w := by
  have hopened := h.opened
  rw [hjoins.opened] at hopened
  obtain ⟨w, hsome, hw⟩ := exists_of_rel_some_right hopened
  refine ⟨w, ⟨hsome, ?_, ?_, ?_, ?_⟩⟩
  . rw [← h.repeated, hjoins.fresh]
  . rw [← hw.isApart, hjoins.apart]
  . rw [← hw.isRepeat, hjoins.single]
  . rw [← isReversed_turn, hjoins.forward]

variable (hg : g.isFinite = true)
include hg

theorem Turned.joined {w w' : OpenWord Float} (hw : w.Turned w') (hjoins : Joins settings s g w)
    : (joined s g w).Turned (joined s' g.turn w') where
  opened := by
    have hadvance := advance_anchored hg
    unfold anchored at hadvance
    rw [hjoins.forward, if_neg (by simp), hjoins.direction] at hadvance
    exact .some (hw.push (.of_isFinite hg) hadvance)
  repeated := by rfl
  finished := h.finished
  tally := by
    unfold Segmenter.joined
    rw [h.tally]

theorem Turned.begun (hzero : isReversed g = true → g.y ≠ -g.dy)
    : (begun settings s g).Turned (begun settings s' g.turn) where
  opened := by
    have hadvance := advance_anchored hg
    rw [← anchored_direction] at hadvance
    have hword := OpenWord.Turned.ofGlyph (.anchored hg) hadvance
    rw [← anchored_turn hg hzero] at hword
    exact .some hword
  repeated := h.repeatsLast settings g
  finished := h.close.finished
  tally := by
    unfold Segmenter.begun
    dsimp only
    rw [h.close.tally]

theorem Turned.accept (hzero : isReversed g = true → g.y ≠ -g.dy)
    : (s.accept settings g).Turned (s'.accept settings g.turn) := by
  rcases accept_cases settings s g with ⟨w, hjoins, haccept⟩ | ⟨hnot, haccept⟩
  . obtain ⟨w', hjoins', hw⟩ := h.exists_joins settings g hjoins
    rw [haccept, hjoins'.accept]
    exact h.joined settings g hg hw hjoins
  . rcases accept_cases settings s' g.turn with ⟨v', hv', _⟩ | ⟨_, haccept'⟩
    . obtain ⟨w, hw⟩ := h.exists_joins_of_turn settings g hv'
      exact absurd hw (hnot w)
    . rw [haccept, haccept']
      exact h.begun settings g hg hzero

end Accept

theorem Turned.push (h : s.Turned s') (page : Box Float) (settings : Settings Float)
    (g : Glyph Float)
    (hzero : fateAt page settings s.tally.tiny g = .accepted → isReversed g = true → g.y ≠ -g.dy)
    : (s.push page settings g).Turned (s'.push page.turn settings g.turn) := by
  rw [push_eq_meet, push_eq_meet, h.tally, fateAt_turn, isCounted_turn]
  generalize s.tally.note (isCounted page g) (fateAt page settings s.tally.tiny g) = tally
  have hnoted := h.withTally tally
  cases hfate : fateAt page settings s.tally.tiny g with
  | accepted => exact hnoted.accept settings g (fateAt_eq_accepted hfate).1 (hzero hfate)
  | blank => exact hnoted.close
  | _ => exact hnoted

/-- A segmenter on a turned page makes turned words of turned glyphs. -/
theorem after_turned (page : Box Float) (settings : Settings Float) (calls : List (Call Float))
    (hzero : ∀ g ∈ shown page settings calls, isReversed g = true → g.y ≠ -g.dy)
    : (after page settings calls).Turned (after page.turn settings (calls.map Call.turn)) := by
  -- on the calls from the last one back, as whether a glyph is shown depends on those before it
  induction calls using List.reverseRecOn with
  | nil => exact .empty
  | append_singleton calls event ih =>
    unfold after at ih ⊢
    rw [List.map_append, List.foldl_append, List.foldl_append]
    cases event with
    | close =>
      rw [shown_concat_close] at hzero
      exact (ih hzero).close
    | push g =>
      rw [shown_concat_push, List.forall_mem_append] at hzero
      obtain ⟨hearlier, hlast⟩ := hzero
      have htiny := (after_accounts page settings calls).tiny
      unfold after at htiny
      apply (ih hearlier).push page settings g
      intro hfate
      rw [htiny] at hfate
      have hshown : fate page settings (calls.filterMap Call.glyph?) g = .accepted := hfate
      rw [if_pos hshown] at hlast
      exact hlast g List.mem_cons_self

end Segmenter

end Galley
