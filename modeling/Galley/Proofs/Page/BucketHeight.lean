import Galley.Proofs.Page.Keeping
import Galley.Proofs.Rendering.Cell

/-!
This module contains what the buckets of a pool change, which is how fast words are found: the lines
are those of the words sorted by baseline and grouped, so a page reads the same whatever the height
of its buckets.
-/

namespace Galley

namespace Pools

/-- Pools whose words form the same lines. -/
def LinedAlike (p q : Pools Float) : Prop :=
  ∀ options r, (p.pool r).lines options = (q.pool r).lines options

theorem linedAlike_ofWords (bucketHeight bucketHeight' : Float) (drawn : List (Word Float))
    : LinedAlike (ofWords bucketHeight drawn) (ofWords bucketHeight' drawn) := by
  intro options r
  rw [pool_ofWords, pool_ofWords, Pool.lines_foldl_add, Pool.lines_foldl_add]

section LinedAlike

variable {p q : Pools Float} (h : p.LinedAlike q)
include h

theorem LinedAlike.readingOrder (options : LineOptions Float)
    : p.readingOrder options = q.readingOrder options := by
  simp only [Pools.readingOrder, all, List.flatMap_map, h options]

theorem LinedAlike.poolText (settings : Settings Float) (r : Direction)
    : Rendering.poolText settings (p.pool r) = Rendering.poolText settings (q.pool r) := by
  unfold Rendering.poolText
  rw [h]

theorem LinedAlike.plain (settings : Settings Float)
    : Rendering.plain settings p = Rendering.plain settings q := by
  unfold Rendering.plain all
  rw [List.map_map, List.map_map]
  congr 2
  funext r
  exact h.poolText settings r

theorem LinedAlike.columnLayout (settings : Settings Float) (page : Box Float)
    : Rendering.columnLayout settings page p = Rendering.columnLayout settings page q := by
  unfold Rendering.columnLayout
  exact congrArg (ColumnLayout.detect _ · _) (h settings.lineOptions .right)

theorem LinedAlike.columns (settings : Settings Float) (page : Box Float)
    : Rendering.columns settings page p = Rendering.columns settings page q := by
  have hothers : [p.up, p.left, p.down].map (Rendering.poolText settings) =
      [q.up, q.left, q.down].map (Rendering.poolText settings) := by
    have hup := h.poolText settings .up
    have hleft := h.poolText settings .left
    have hdown := h.poolText settings .down
    unfold Pools.pool at hup hleft hdown
    simp only [List.map_cons, List.map_nil, hup, hleft, hdown]
  unfold Rendering.columns
  rw [h.columnLayout, hothers]

theorem LinedAlike.grid {settings : Settings Float}
    (hcell : Rendering.cell settings.grid p = Rendering.cell settings.grid q) (page : Box Float)
    : Rendering.grid settings page p = Rendering.grid settings page q := by
  unfold Rendering.grid all
  rw [hcell]
  simp only [List.map_map, Function.comp_def, h settings.lineOptions]

end LinedAlike

end Pools

namespace Page

/--
Pages that read the same. The cell of a grid whose width is found from the page is left out, since
the widths of the words are added up in the order of the buckets.
-/
structure ReadsAlike (p q : Page Float) : Prop where
  words : p.words = q.words
  plainText : p.plainText = q.plainText
  columnLayout : p.columnLayout = q.columnLayout
  columnText : p.columnText = q.columnText
  search : ∀ options pattern, p.search options pattern = q.search options pattern
  gridText : p.settings.grid.cellWidth.isSome → p.gridText = q.gridText

variable (fonts : FontBook Float) (sheet : Sheet Float) (settings : Settings Float)
variable (bucketHeight : Float) (ops : List (Content.Operator Float))

theorem linedAlike_storing (streamOrder : Bool)
    : (ofOperators fonts sheet settings ops).pools.LinedAlike
        (ofOperators fonts sheet (settings.storing streamOrder bucketHeight) ops).pools := by
  rw [(holds_ofOperators ..).pools_eq, (holds_ofOperators ..).pools_eq, segmented_storing]
  apply Pools.linedAlike_ofWords

theorem cell_storing (streamOrder : Bool) (hwidth : settings.grid.cellWidth.isSome)
    : Rendering.cell settings.grid (ofOperators fonts sheet settings ops).pools =
        Rendering.cell settings.grid
          (ofOperators fonts sheet (settings.storing streamOrder bucketHeight) ops).pools := by
  rw [(holds_ofOperators ..).pools_eq, (holds_ofOperators ..).pools_eq, segmented_storing]
  exact Rendering.cell_ofWords hwidth rfl _ _

theorem words_storing
    : (ofOperators fonts sheet settings ops).words =
        (ofOperators fonts sheet (settings.storing settings.streamOrder bucketHeight)
          ops).words := by
  have hlines := linedAlike_storing fonts sheet settings bucketHeight ops settings.streamOrder
  cases horder : settings.streamOrder with
  | true => rw [words_of_streamOrder horder, words_of_streamOrder rfl, drawn_storing]
  | false =>
    rw [horder] at hlines
    rw [words_of_not_streamOrder horder, words_of_not_streamOrder rfl]
    apply hlines.readingOrder

theorem plainText_storing
    : (ofOperators fonts sheet settings ops).plainText =
        (ofOperators fonts sheet (settings.storing settings.streamOrder bucketHeight)
          ops).plainText := by
  have hlines := linedAlike_storing fonts sheet settings bucketHeight ops settings.streamOrder
  cases horder : settings.streamOrder with
  | true =>
    rw [plainText_of_streamOrder horder, plainText_of_streamOrder rfl, drawn_storing]
    exact (congrFun (Rendering.stream_storing settings true bucketHeight) _).symm
  | false =>
    rw [horder] at hlines
    rw [plainText_of_not_streamOrder horder, plainText_of_not_streamOrder rfl]
    apply (hlines.plain settings).trans
    exact (congrFun (Rendering.plain_storing settings false bucketHeight) _).symm

theorem readsAlike_storing
    : ReadsAlike (ofOperators fonts sheet settings ops)
        (ofOperators fonts sheet (settings.storing settings.streamOrder bucketHeight) ops) := by
  have hlines := linedAlike_storing fonts sheet settings bucketHeight ops settings.streamOrder
  have hwords := words_storing fonts sheet settings bucketHeight ops
  constructor
  . exact hwords
  . apply plainText_storing
  . apply hlines.columnLayout
  . apply (hlines.columns settings sheet.bounds).trans
    exact (congrFun₂ (Rendering.columns_storing settings _ bucketHeight) _ _).symm
  . intro options pattern
    unfold search
    rw [hwords]
  . intro hwidth
    have hcell := cell_storing fonts sheet settings bucketHeight ops settings.streamOrder hwidth
    apply (hlines.grid hcell sheet.bounds).trans
    exact (congrFun₂ (Rendering.grid_storing settings _ bucketHeight) _ _).symm

theorem buckets_are_index
    : (∀ (options : LineOptions Float) (direction : Direction) (bucketHeight : Float)
          (added : List (Word Float)),
        (added.foldl Pool.add (.empty direction bucketHeight)).lines options =
          (Line.groups options.tolerance
            (added.mergeSort (Line.baseBefore direction))).filterMap
              (Line.ofGroup? options direction)) ∧
      ∀ (fonts : FontBook Float) (sheet : Sheet Float) (settings : Settings Float)
          (bucketHeight : Float) (ops : List (Content.Operator Float)),
        ReadsAlike (ofOperators fonts sheet settings ops)
          (ofOperators fonts sheet { settings with bucketHeight := bucketHeight } ops) := by
  constructor
  . intro options direction bucketHeight added
    apply Pool.lines_foldl_add
  . intro fonts sheet settings bucketHeight ops
    exact readsAlike_storing fonts sheet settings bucketHeight ops

end Page

end Galley
