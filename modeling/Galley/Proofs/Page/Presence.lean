import Galley.Proofs.Page.Text
import Galley.Proofs.Real.Scalar
import Galley.Proofs.Segmenter.Joining

/-!
This module contains that words are on the page: the last glyph of a word meets the page and lies
within the box of the word, so the boxes of words along the x axis meet it too.
-/

namespace Galley

section Ends

variable {α : Type} [Scalar α]

/-- An open word that has the ends of its latest glyph among its edges. -/
def OpenWord.HoldsLast (w : OpenWord α) : Prop :=
  (bounds w.direction w.last).1 ∈ w.edges ∧ (bounds w.direction w.last).2 ∈ w.edges

/-- A word whose box is drawn around its edges, which both ends of some glyph are among. -/
structure Word.HoldsGlyph (w : Word α) : Prop where
  box : w.box = Word.boxOf w.edges w.base w.size w.direction w.mode
  edges : ∃ g ∈ w.glyphs, (OpenWord.bounds w.direction g).1 ∈ w.edges ∧
    (OpenWord.bounds w.direction g).2 ∈ w.edges

theorem OpenWord.holdsLast_ofGlyph (g : Glyph α) : (ofGlyph g).HoldsLast := by
  simp [HoldsLast, ofGlyph]

theorem OpenWord.holdsLast_push (w : OpenWord α) (g : Glyph α) : (w.push g).HoldsLast := by
  simp [HoldsLast, push]

theorem OpenWord.HoldsLast.finish? {w : OpenWord α} (h : w.HoldsLast) {order : Nat} {word : Word α}
    (hfinish : w.finish? order = some word) : word.HoldsGlyph := by
  unfold OpenWord.finish? Word.ofParts? at hfinish
  split at hfinish
  . contradiction
  . injection hfinish with hfinish
    rw [← hfinish]
    refine ⟨rfl, w.last, by simp, ?_⟩
    simpa [HoldsLast] using h

theorem Segmenter.carried_holdsLast (settings : Settings α)
    : Carried settings OpenWord.HoldsLast Word.HoldsGlyph where
  begin := fun g _ _ => OpenWord.holdsLast_ofGlyph (anchored g)
  join := fun _ g w _ _ _ _ => w.holdsLast_push g
  finish := fun _ _ _ h hfinish => h.finish? hfinish

end Ends

namespace Segmenter

theorem ordered_real (a b : ℝ) : isOffPage.ordered a b = (min a b, max a b) := by
  unfold isOffPage.ordered
  split
  . next hle => rw [min_eq_left hle, max_eq_right hle]
  . next hlt => rw [min_eq_right (not_le.mp hlt).le, max_eq_left (not_le.mp hlt).le]

theorem meets_of_isOffPage_eq_false {page : Box ℝ} {g : Glyph ℝ} (h : isOffPage page g = false)
    : (page.x0 ≤ g.x ∨ page.x0 ≤ g.x + g.dx) ∧ (g.x ≤ page.x1 ∨ g.x + g.dx ≤ page.x1) := by
  unfold isOffPage at h
  simp only [ordered_real, Bool.or_eq_false_iff, decide_eq_false_iff_not, not_lt, le_max_iff,
    min_le_iff, and_assoc] at h
  obtain ⟨hleft, hright, _⟩ := h
  exact ⟨hleft, hright⟩

/-- Which end of a glyph is its start depends on where it leads, what its ends are does not. -/
theorem bounds_anchored (g : Glyph ℝ)
    : OpenWord.bounds .right (anchored g) = (g.x, g.x + g.dx) ∨
        OpenWord.bounds .right (anchored g) = (g.x + g.dx, g.x) := by
  unfold anchored
  split
  . right
    simp [OpenWord.bounds, Direction.axis, Direction.isHorizontal]
  . left
    simp [OpenWord.bounds, Direction.axis, Direction.isHorizontal]

end Segmenter

/-- Whether a box is proper along the x axis and meets a page there. -/
structure Box.MeetsAcross (page b : Box ℝ) : Prop where
  proper : b.x0 ≤ b.x1
  left : b.x0 ≤ page.x1
  right : page.x0 ≤ b.x1

theorem Word.HoldsGlyph.meetsAcross {w : Word ℝ} (h : w.HoldsGlyph) (hright : w.direction = .right)
    {page : Box ℝ}
    (hshown : ∀ g ∈ w.glyphs, ∃ shown, Segmenter.isOffPage page shown = false ∧
      g = Segmenter.anchored shown) : page.MeetsAcross w.box := by
  obtain ⟨g, hg, hstart, hstop⟩ := h.edges
  obtain ⟨shown, hpage, rfl⟩ := hshown g hg
  have hends : shown.x ∈ w.edges ∧ shown.x + shown.dx ∈ w.edges := by
    rw [hright] at hstart hstop
    rcases Segmenter.bounds_anchored shown with hbounds | hbounds
    . rw [hbounds] at hstart hstop
      exact ⟨hstart, hstop⟩
    . rw [hbounds] at hstart hstop
      exact ⟨hstop, hstart⟩
  have hbox : w.box.x0 = Scalar.leastOf w.edges ∧ w.box.x1 = Scalar.greatestOf w.edges := by
    rw [h.box, hright]
    exact ⟨rfl, rfl⟩
  obtain ⟨hreaches, hbegins⟩ := Segmenter.meets_of_isOffPage_eq_false hpage
  constructor
  . rw [hbox.1, hbox.2]
    exact (Scalar.leastOf_le hends.1).trans (Scalar.le_greatestOf hends.1)
  . rw [hbox.1]
    rcases hbegins with hle | hle
    . exact (Scalar.leastOf_le hends.1).trans hle
    . exact (Scalar.leastOf_le hends.2).trans hle
  . rw [hbox.2]
    rcases hreaches with hle | hle
    . exact hle.trans (Scalar.le_greatestOf hends.1)
    . exact hle.trans (Scalar.le_greatestOf hends.2)

namespace Page

variable (fonts : FontBook ℝ) (sheet : Sheet ℝ) (settings : Settings ℝ)
variable (ops : List (Content.Operator ℝ))

theorem meetsAcross_of_mem_segmented {w : Word ℝ}
    (hw : w ∈ (segmented fonts sheet settings ops).words) (hright : w.direction = .right)
    : sheet.bounds.MeetsAcross w.box := by
  have hholds : w.HoldsGlyph :=
    (Segmenter.carried_holdsLast settings).of_mem_words sheet.bounds
      (calls fonts sheet settings ops) w hw
  apply hholds.meetsAcross hright
  intro g hg
  obtain ⟨shown, hshown, heq⟩ :=
    Segmenter.mem_accepted_of_mem_words (segmented_accounts fonts sheet settings ops) hw hg
  exact ⟨shown, Segmenter.isOffPage_of_mem_accepted hshown, heq⟩

/-- Every word of an upright line meets the page. -/
theorem meetsAcross_of_mem_lines {options : LineOptions ℝ} {l : Line ℝ} {w : Word ℝ}
    (hl : l ∈ (ofOperators fonts sheet settings ops).pools.right.lines options) (hw : w ∈ l.words)
    : sheet.bounds.MeetsAcross w.box := by
  have hpool := (Pool.mem_of_mem_lines hl).2 w hw
  rw [(holds_ofOperators fonts sheet settings ops).pools_eq] at hpool
  obtain ⟨hmem, hright⟩ := Pools.mem_words_pool_ofWords (r := .right) hpool
  exact meetsAcross_of_mem_segmented fonts sheet settings ops hmem hright

end Page

end Galley
