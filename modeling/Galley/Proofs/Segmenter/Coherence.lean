import Galley.Proofs.Binary64.Addition
import Galley.Proofs.Line.Baseline
import Galley.Proofs.Segmenter.Account

/-!
This module contains what the glyphs of one word have in common: each of them looks like the first
one, stands on its baseline and continues the word that the glyphs before it had made.
-/

namespace Galley

open Binary64

theorem Direction.signed_axis (r : Direction) (x y : Float)
    : r.signed (r.axis x y) = r.primary x y := by
  cases r <;> rfl

theorem isNumber_axis {x y : Float} (hx : IsNumber x) (hy : IsNumber y) (r : Direction)
    : IsNumber (r.axis x y) := by
  unfold Direction.axis
  split
  . exact hx
  . exact hy

theorem isNumber_signed {x : Float} (h : IsNumber x) (r : Direction) : IsNumber (r.signed x) := by
  cases r with
  | right => exact h
  | up => exact h
  | left => exact isNumber_neg h
  | down => exact isNumber_neg h

theorem isNumber_primary {x y : Float} (hx : IsNumber x) (hy : IsNumber y) (r : Direction)
    : IsNumber (r.primary x y) := by
  rw [← r.signed_axis]
  exact isNumber_signed (isNumber_axis hx hy r) r

theorem isFinite_primary {x y : Float} (hx : x.isFinite = true) (hy : y.isFinite = true)
    (r : Direction) : (r.primary x y).isFinite = true := by
  cases r with
  | right => exact hx
  | up => exact hy
  | left => exact isFinite_neg hx
  | down => exact isFinite_neg hy

theorem primary_neg (r : Direction) (x y : Float) : r.primary (-x) (-y) = -(r.primary x y) := by
  cases r <;> rfl

theorem Direction.rank_primary_add (r : Direction) (x y dx dy : Float)
    : rank (r.primary (x + dx) (y + dy)) = rank (r.primary x y + r.primary dx dy) := by
  cases r with
  | right => rfl
  | up => rfl
  | left => exact (rank_neg_add_neg x dx).symm
  | down => exact (rank_neg_add_neg y dy).symm

namespace Glyph

section Extent

variable {α : Type} [Scalar α]

/-- Where the glyph is placed along a direction. -/
def origin (r : Direction) (g : Glyph α) : α := r.primary g.x g.y

/-- Where the glyph ends along a direction. -/
def farEnd (r : Direction) (g : Glyph α) : α := r.primary (g.x + g.dx) (g.y + g.dy)

def baseline (r : Direction) (g : Glyph α) : α := r.base g.x g.y

/-- How far these glyphs reach along a direction. -/
def reachOf (r : Direction) (glyphs : List (Glyph α)) : α :=
  Scalar.greatestOf (glyphs.flatMap fun g => [g.origin r, g.farEnd r])

end Extent

/-- A glyph at numbers, which may be infinite only by a sum that is too large. -/
structure Measured (g : Glyph Float) : Prop where
  x : IsNumber g.x
  y : IsNumber g.y
  dx : g.dx.isFinite = true
  dy : g.dy.isFinite = true
  size : g.size.isFinite = true

theorem isFinite_fields {g : Glyph Float} (h : g.isFinite = true)
    : g.x.isFinite = true ∧ g.y.isFinite = true ∧ g.dx.isFinite = true ∧ g.dy.isFinite = true ∧
        g.size.isFinite = true := by
  unfold isFinite at h
  simp only [Bool.and_eq_true, and_assoc] at h
  exact h

theorem Measured.of_isFinite {g : Glyph Float} (h : g.isFinite = true) : g.Measured := by
  obtain ⟨hx, hy, hdx, hdy, hsize⟩ := isFinite_fields h
  exact ⟨isNumber_of_isFinite hx, isNumber_of_isFinite hy, hdx, hdy, hsize⟩

theorem Measured.anchored {g : Glyph Float} (h : g.isFinite = true)
    : (Segmenter.anchored g).Measured := by
  obtain ⟨hx, hy, hdx, hdy, hsize⟩ := isFinite_fields h
  unfold Segmenter.anchored
  split
  . exact ⟨isNumber_add hx hdx, isNumber_add hy hdy, isFinite_neg hdx, isFinite_neg hdy, hsize⟩
  . exact .of_isFinite h

section Measured

variable {g : Glyph Float} (h : g.Measured) (r : Direction)
include h

theorem Measured.origin : IsNumber (g.origin r) :=
  isNumber_primary h.x h.y r

theorem Measured.farEnd : IsNumber (g.farEnd r) :=
  isNumber_primary (isNumber_add_of_isNumber h.x h.dx) (isNumber_add_of_isNumber h.y h.dy) r

theorem Measured.baseline : IsNumber (g.baseline r) := by
  unfold Glyph.baseline Direction.base
  split
  . exact h.y
  . exact h.x

theorem Measured.isNumber_bounds
    : IsNumber (OpenWord.bounds r g).1 ∧ IsNumber (OpenWord.bounds r g).2 :=
  ⟨isNumber_axis h.x h.y r,
    isNumber_axis (isNumber_add_of_isNumber h.x h.dx) (isNumber_add_of_isNumber h.y h.dy) r⟩

variable {r} in
theorem Measured.rank_origin_le_farEnd (hforward : 0.0 ≤ r.primary g.dx g.dy)
    : rank (g.origin r) ≤ rank (g.farEnd r) := by
  have hadvance := ((le_iff _ _).mp hforward).2.2
  rw [rank_zero] at hadvance
  unfold Glyph.origin Glyph.farEnd
  rw [r.rank_primary_add]
  exact rank_le_add_of_isNumber (h.origin r) (isFinite_primary h.dx h.dy r) hadvance

end Measured

theorem isNumber_extents {glyphs : List (Glyph Float)} (h : ∀ g ∈ glyphs, g.Measured)
    (r : Direction) : ∀ x ∈ glyphs.flatMap (fun g => [g.origin r, g.farEnd r]), IsNumber x := by
  intro x hx
  obtain ⟨g, hg, hx⟩ := List.mem_flatMap.mp hx
  rw [List.mem_cons, List.mem_singleton] at hx
  rcases hx with hx | hx
  . rw [hx]
    exact (h g hg).origin r
  . rw [hx]
    exact (h g hg).farEnd r

section Reach

variable {first : Glyph Float} {rest : List (Glyph Float)}
variable (h : ∀ g ∈ first :: rest, g.Measured) (r : Direction)
include h

theorem isNumber_reachOf : IsNumber (reachOf r (first :: rest)) := by
  have hextents := isNumber_extents h r
  exact hextents _ (greatestOf_mem hextents (by simp))

theorem reachOf_concat {g : Glyph Float} (hg : g.Measured)
    : reachOf r (first :: rest ++ [g]) =
        Scalar.greatest (Scalar.greatest (reachOf r (first :: rest)) (g.origin r))
          (g.farEnd r) := by
  have hextents := isNumber_extents h r
  have hsingle : ∀ k ∈ [g], k.Measured := by simpa using hg
  unfold reachOf
  rw [List.flatMap_append]
  rw [List.flatMap_cons] at hextents ⊢
  rw [List.cons_append] at hextents ⊢
  rw [greatestOf_append hextents]
  . simp
  . exact isNumber_extents hsingle r

end Reach

end Glyph

/-- The glyphs of a word with this baseline and look. -/
structure Coherent (tolerances : WordTolerances Float) (base size : Float) (direction : Direction)
    (mode : WritingMode) (glyphs : List (Glyph Float)) : Prop where
  directions : ∀ g ∈ glyphs, g.direction = direction
  modes : ∀ g ∈ glyphs, g.mode = mode
  sizes : ∀ g ∈ glyphs, Scalar.abs (g.size - size) ≤ 1e-3
  advances : ∀ g ∈ glyphs, 0.0 ≤ direction.primary g.dx g.dy
  visible : ∀ g ∈ glyphs, CharClass.breaksWord g.char = false
  baselines : ∃ first rest, glyphs = first :: rest ∧ first.baseline direction = base ∧
    ∀ g ∈ rest, Scalar.abs (g.baseline direction - base) ≤ tolerances.drift

/-- Whether a glyph has the look of a word and stands where the word goes on. -/
structure Continues (tolerances : WordTolerances Float) (first : Glyph Float)
    (rest : List (Glyph Float)) (g : Glyph Float) : Prop where
  direction : g.direction = first.direction
  mode : g.mode = first.mode
  size : Scalar.abs (g.size - first.size) ≤ 1e-3
  baseline : Scalar.abs (g.baseline first.direction - first.baseline first.direction) ≤
    tolerances.drift
  behind : -tolerances.overlap * first.size ≤
    g.origin first.direction - Glyph.reachOf first.direction (first :: rest)
  ahead : g.origin first.direction - Glyph.reachOf first.direction (first :: rest) ≤
    tolerances.gap * first.size

/-- Whether a glyph is drawn over the last one of a word. -/
structure Overprints (tolerances : WordTolerances Float) (first : Glyph Float)
    (rest : List (Glyph Float)) (g : Glyph Float) : Prop where
  along : Scalar.abs (g.origin first.direction - (rest.getLastD first).origin first.direction) <
    tolerances.duplicateAlong * first.size
  across : Scalar.abs (g.baseline first.direction - first.baseline first.direction) <
    tolerances.duplicateAcross * first.size

namespace OpenWord

/-- An open word that was made by `first` and to which the others were added. -/
structure Traces (w : OpenWord Float) (first : Glyph Float) (rest : List (Glyph Float)) :
    Prop where
  glyphs : w.glyphs = first :: rest
  base : w.base = first.baseline first.direction
  size : w.size = first.size
  direction : w.direction = first.direction
  mode : w.mode = first.mode
  reach : w.reach = Glyph.reachOf first.direction (first :: rest)
  measured : ∀ g ∈ first :: rest, g.Measured

namespace Traces

theorem ofGlyph {g : Glyph Float} (h : g.Measured) : (OpenWord.ofGlyph g).Traces g [] where
  glyphs := by rfl
  base := by rfl
  size := by rfl
  direction := by rfl
  mode := by rfl
  reach := by
    have hsingle : ∀ k ∈ [g], k.Measured := by simpa using h
    have hextents := Glyph.isNumber_extents hsingle g.direction
    unfold Glyph.reachOf
    rw [List.flatMap_singleton] at hextents ⊢
    rw [greatestOf_cons hextents]
    rfl
  measured := by simpa using h

variable {w : OpenWord Float} {first : Glyph Float} {rest : List (Glyph Float)}

theorem push (h : w.Traces first rest) {g : Glyph Float} (hg : g.Measured)
    : (w.push g).Traces first (rest ++ [g]) where
  glyphs := by rw [glyphs_push, h.glyphs, List.cons_append]
  base := h.base
  size := h.size
  direction := h.direction
  mode := h.mode
  reach := by
    rw [← List.cons_append, Glyph.reachOf_concat h.measured first.direction hg, ← h.reach,
      ← h.direction]
    rfl
  measured := by
    intro k hk
    rw [← List.cons_append, List.mem_append, List.mem_singleton] at hk
    rcases hk with hk | hk
    . exact h.measured k hk
    . rw [hk]
      exact hg

theorem last (h : w.Traces first rest) : w.last = rest.getLastD first := by
  have hlast : w.glyphs.getLast? = some w.last := by simp [OpenWord.glyphs]
  rw [h.glyphs, List.getLast?_cons, Option.some_inj] at hlast
  rw [← hlast, List.getLastD_eq_getLast?]

theorem isRepeat_iff (h : w.Traces first rest) (tolerances : WordTolerances Float)
    (g : Glyph Float) : w.isRepeat tolerances g = true ↔ Overprints tolerances first rest g := by
  unfold isRepeat
  dsimp only
  rw [h.last, h.direction, h.base, h.size, Bool.and_eq_true, decide_eq_true_iff, decide_eq_true_iff]
  exact ⟨fun ⟨along, across⟩ => ⟨along, across⟩, fun ⟨along, across⟩ => ⟨along, across⟩⟩

theorem isNumber_size_bound : IsNumber (1e-3 : Float) := by
  unfold IsNumber
  decide +kernel

theorem isApart_eq_false_iff (h : w.Traces first rest) {tolerances : WordTolerances Float}
    (hoverlap : tolerances.overlap.isFinite = true) (hgap : tolerances.gap.isFinite = true)
    (hdrift : tolerances.drift.isFinite = true) {g : Glyph Float} (hg : g.isFinite = true)
    : w.isApart tolerances g = false ↔ Continues tolerances first rest g := by
  obtain ⟨hx, hy, _, _, hsize⟩ := Glyph.isFinite_fields hg
  have hfirst := h.measured first (by simp)
  have horigin : (g.origin first.direction).isFinite = true := isFinite_primary hx hy _
  have hahead : IsNumber (g.origin first.direction -
      Glyph.reachOf first.direction (first :: rest)) :=
    isNumber_sub_of_isNumber horigin (Glyph.isNumber_reachOf h.measured _)
  have hbaseline : (g.baseline first.direction).isFinite = true := by
    unfold Glyph.baseline Direction.base
    split
    . exact hy
    . exact hx
  have hacross : IsNumber (Scalar.abs (g.baseline first.direction -
      first.baseline first.direction)) :=
    isNumber_abs (isNumber_sub_of_isNumber hbaseline (hfirst.baseline _))
  have hsizes : IsNumber (Scalar.abs (g.size - first.size)) :=
    isNumber_abs (isNumber_sub hsize hfirst.size)
  have hlow : IsNumber (-tolerances.overlap * first.size) :=
    isNumber_mul (isFinite_neg hoverlap) hfirst.size
  have hhigh : IsNumber (tolerances.gap * first.size) := isNumber_mul hgap hfirst.size
  unfold isApart
  dsimp only
  rw [h.reach, h.direction, h.base, h.size, h.mode]
  simp only [Bool.or_eq_false_iff, decide_eq_false_iff_not, bne_eq_false_iff_eq, and_assoc]
  constructor
  . rintro ⟨hbehind, hfar, hlevel, hlook, hmode, hdirection⟩
    exact ⟨hdirection, hmode, (not_lt_iff_le isNumber_size_bound hsizes).mp hlook,
      (not_lt_iff_le (isNumber_of_isFinite hdrift) hacross).mp hlevel,
      (not_lt_iff_le hahead hlow).mp hbehind, (not_lt_iff_le hhigh hahead).mp hfar⟩
  . rintro ⟨hdirection, hmode, hlook, hlevel, hbehind, hfar⟩
    exact ⟨(not_lt_iff_le hahead hlow).mpr hbehind, (not_lt_iff_le hhigh hahead).mpr hfar,
      (not_lt_iff_le (isNumber_of_isFinite hdrift) hacross).mpr hlevel,
      (not_lt_iff_le isNumber_size_bound hsizes).mpr hlook, hmode, hdirection⟩

end Traces

end OpenWord

end Galley
