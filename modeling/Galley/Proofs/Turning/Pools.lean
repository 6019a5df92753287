import Galley.Proofs.Turning.Rendering

/-!
This module contains the words of a page that is turned by a quarter: each pool of the page comes
back as the next one, line by line and word by word, and its text stays what it was.
-/

namespace Galley

/-- Pools and what they are when the page is turned: each one comes back as the next, with the
turned lines and the same text. -/
structure Pools.Turned (page : Box Float) (settings : Settings Float) (pools pools' : Pools Float) :
    Prop where
  lines : ∀ r, List.Forall₂ (Line.TurnedFrom r) ((pools.pool r).lines settings.lineOptions)
    ((pools'.pool (r.turned 1)).lines settings.lineOptions)
  text : ∀ r, Rendering.poolText settings (pools'.pool (r.turned 1)) =
    Rendering.poolText settings (pools.pool r)
  grid : settings.grid.cellWidth.isSome → ∀ r,
    Rendering.gridLines settings page.turn (Rendering.cell settings.grid pools')
        ((pools'.pool (r.turned 1)).lines settings.lineOptions) =
      Rendering.gridLines settings page (Rendering.cell settings.grid pools)
        ((pools.pool r).lines settings.lineOptions)

theorem Pools.Turned.ofWords (page : Box Float) (settings : Settings Float)
    {drawn drawn' : List (Word Float)} (h : List.Forall₂ Word.Turned drawn drawn')
    : Pools.Turned page settings (.ofWords settings.bucketHeight drawn)
        (.ofWords settings.bucketHeight drawn') := by
  have hlines := lines_turned h settings.bucketHeight settings.lineOptions
  refine ⟨hlines, ?_, ?_⟩
  . intro r
    exact Rendering.linesText_turned settings (hlines r)
  . intro hwidth r
    rw [Rendering.cell_turned hwidth h]
    exact Rendering.gridLines_turned page settings _ (hlines r)

namespace Segmenter

/-- No direction is special: a turned page has the turned lines, and reads the same. -/
theorem pools_turned (page : Box Float) (settings : Settings Float) (calls : List (Call Float))
    (hzero : ∀ g ∈ shown page settings calls, isReversed g = true → g.y ≠ -g.dy)
    : let s := (after page settings calls).close
      let s' := (after page.turn settings (calls.map Call.turn)).close
      s'.tally = s.tally ∧ List.Forall₂ Word.Turned s.words s'.words ∧
        Pools.Turned page settings (.ofWords settings.bucketHeight s.words)
          (.ofWords settings.bucketHeight s'.words) := by
  intro s s'
  have hturned : s.Turned s' := (after_turned page settings calls hzero).close
  have hwords : List.Forall₂ Word.Turned s.words s'.words :=
    List.forall₂_reverse_iff.mpr hturned.finished
  exact ⟨hturned.tally, hwords, .ofWords page settings hwords⟩

/-- A letter on a line that runs up. -/
def rising (c : Char) (index : Nat) (y dy : Float) : Glyph Float :=
  ⟨c, c.val, index, 10.0, y, 0.0, dy, 12.0, .up, .horizontal, "F1"⟩

/-- The second of two letters is drawn from its far end. -/
def drawnBack (low high : Float) : List (Call Float) :=
  [.push (rising 'b' 0 low 5.0), .close, .push (rising 'a' 1 high (-5.0))]

theorem pools_turned_drawnBack
    : let page : Box Float := ⟨0.0, 0.0, 100.0, 100.0⟩
      let settings : Settings Float := .default
      (∀ g ∈ shown page settings (drawnBack 20.0 25.0), isReversed g = true → g.y ≠ -g.dy) ∧
        let s := (after page settings (drawnBack 20.0 25.0)).close
        let s' := (after page.turn settings ((drawnBack 20.0 25.0).map Call.turn)).close
        s'.tally = s.tally ∧ List.Forall₂ Word.Turned s.words s'.words ∧
          Pools.Turned page settings (.ofWords settings.bucketHeight s.words)
            (.ofWords settings.bucketHeight s'.words) :=
  ⟨by decide +kernel, pools_turned ⟨0.0, 0.0, 100.0, 100.0⟩ .default (drawnBack 20.0 25.0)
    (by decide +kernel)⟩

/-- The word that a glyph makes by itself. -/
def alone (g : Glyph Float) (order : Nat) : Word Float :=
  ((OpenWord.ofGlyph g).finish? order).get (by rfl)

theorem lines_drawnBack
    : let page : Box Float := ⟨-100.0, -100.0, 100.0, 100.0⟩
      let settings : Settings Float := .default
      let s := (after page settings (drawnBack 0.0 5.0)).close
      let s' := (after page.turn settings ((drawnBack 0.0 5.0).map Call.turn)).close
      let pools := Pools.ofWords settings.bucketHeight s.words
      let pools' := Pools.ofWords settings.bucketHeight s'.words
      ((pools.pool .up).lines settings.lineOptions).map Line.text = ["b a"] ∧
        ((pools'.pool .left).lines settings.lineOptions).map Line.text = ["a b"] := by
  intro page settings s s' pools pools'
  have hwords : (s.words.filter fun w => decide (w.direction = .up)) =
      [alone (rising 'b' 0 0.0 5.0) 0, alone (anchored (rising 'a' 1 5.0 (-5.0))) 1] := by
    decide +kernel
  have hwords' : (s'.words.filter fun w => decide (w.direction = .left)) =
      [alone (rising 'b' 0 0.0 5.0).turn 0, alone (anchored (rising 'a' 1 5.0 (-5.0)).turn) 1] := by
    decide +kernel
  constructor
  . rw [Pools.pool_ofWords, Pool.lines_foldl_add, hwords, Line.ofPool_pair]
    . decide +kernel
    . decide +kernel
    . decide +kernel
  . rw [Pools.pool_ofWords, Pool.lines_foldl_add, hwords', Line.ofPool_pair]
    . decide +kernel
    . decide +kernel
    . decide +kernel

end Segmenter

end Galley
