import Galley.Content.Run

/-!
This module contains the numbering of shown glyphs: whatever a run carries out, the glyphs that it
reports are numbered on from the glyphs before, without a gap, and counted.
-/

namespace Galley.Content

variable {α : Type} [Scalar α]

omit [Scalar α] in
def Event.glyph? : Event α → Option (Glyph α)
  | .glyph g => some g
  | _ => none

omit [Scalar α] in
def glyphsIn (events : List (Event α)) : List (Glyph α) := events.filterMap Event.glyph?

section

omit [Scalar α]

@[simp]
theorem glyphsIn_append (events later : List (Event α))
    : glyphsIn (events ++ later) = glyphsIn events ++ glyphsIn later := by
  unfold glyphsIn
  apply List.filterMap_append

@[simp]
theorem glyphsIn_map_glyph (glyphs : List (Glyph α))
    : glyphsIn (glyphs.map Event.glyph) = glyphs := by
  unfold glyphsIn
  rw [List.filterMap_map]
  apply List.filterMap_some

/-- From a state with `start` glyphs shown, an outcome shows the next ones and counts them. -/
structure Emits (start : Nat) (outcome : RunState α × List (Event α)) : Prop where
  emitted : outcome.1.emitted = start + (glyphsIn outcome.2).length
  indices : (glyphsIn outcome.2).map Glyph.index =
    List.range' start (glyphsIn outcome.2).length

namespace Emits

theorem silent {start : Nat} {s : RunState α} {events : List (Event α)} (hs : s.emitted = start)
    (hevents : glyphsIn events = []) : Emits start (s, events) where
  emitted := by
    rw [hevents]
    exact hs
  indices := by
    rw [hevents]
    rfl

theorem append {start : Nat} {s t : RunState α} {events later : List (Event α)}
    (hs : Emits start (s, events)) (ht : Emits s.emitted (t, later))
    : Emits start (t, events ++ later) := by
  have hemitted := hs.emitted
  dsimp only at hemitted
  constructor
  . rw [glyphsIn_append, List.length_append]
    have := ht.emitted
    dsimp only at this ⊢
    omega
  . rw [glyphsIn_append, List.map_append, List.length_append]
    rw [hs.indices, ht.indices]
    dsimp only
    rw [hemitted, List.range'_append_1]

end Emits

end

namespace RunState

omit [Scalar α] in
theorem emitted_resolveFont (setting : Setting α) (s : RunState α) (index : Nat)
    : (s.resolveFont setting index).2.1.emitted = s.emitted ∧
        glyphsIn (s.resolveFont setting index).2.2 = [] := by
  unfold resolveFont
  dsimp only
  split
  . exact ⟨rfl, rfl⟩
  . split
    . exact ⟨rfl, rfl⟩
    . exact ⟨rfl, rfl⟩

omit [Scalar α] in
theorem emitted_reportGuess (s : RunState α) (font : Font α) (index : Nat) (code : UInt32)
    : (s.reportGuess font index code).1.emitted = s.emitted ∧
        glyphsIn (s.reportGuess font index code).2 = [] := by
  unfold reportGuess
  dsimp only
  split
  . exact ⟨rfl, rfl⟩
  . exact ⟨rfl, rfl⟩

end RunState
end Galley.Content
