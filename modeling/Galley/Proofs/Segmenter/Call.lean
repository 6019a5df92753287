import Galley.Segmenter
import Mathlib.Data.List.Induction

/-!
This module contains the calls that a segmenter takes and the fate of each glyph on the way. Whether
a tiny glyph is dropped depends on the tiny glyphs before it alone, and not on the words in between.
-/

namespace Galley

namespace Segmenter

variable {α : Type} [Scalar α]

inductive Call (α : Type) where
  | push (g : Glyph α)
  | close

def call (page : Box α) (settings : Settings α) (s : Segmenter α) : Call α → Segmenter α
  | .push g => s.push page settings g
  | .close => s.close

def after (page : Box α) (settings : Settings α) (calls : List (Call α)) : Segmenter α :=
  calls.foldl (call page settings) empty

def Call.glyph? {α : Type} : Call α → Option (Glyph α)
  | .push g => some g
  | .close => none

inductive Fate where
  | accepted
  | blank
  | nonFinite
  | offPage
  | tinyDropped
deriving DecidableEq, Repr

/--
Whether a glyph takes part in the count of tiny glyphs: it moves on by less than three units both
across and up, on the page and with finite numbers.
-/
def isCounted (page : Box α) (g : Glyph α) : Bool :=
  g.isFinite && !isOffPage page g && (Scalar.abs g.dx < 3.0 && Scalar.abs g.dy < 3.0)

/-- What becomes of a glyph that comes after `tiny` counted ones. -/
def fateAt (page : Box α) (settings : Settings α) (tiny : Nat) (g : Glyph α) : Fate :=
  if !g.isFinite then .nonFinite
  else if isOffPage page g then .offPage
  else if isCounted page g && decide (settings.tinyLimit ≤ tiny) then .tinyDropped
  else if CharClass.breaksWord g.char then .blank
  else .accepted

def fate (page : Box α) (settings : Settings α) (earlier : List (Glyph α)) (g : Glyph α) : Fate :=
  fateAt page settings (earlier.countP (isCounted page)) g

/-- Glyphs that come after `earlier` ones, each with its fate. -/
def judge (page : Box α) (settings : Settings α) (earlier : List (Glyph α)) :
    List (Glyph α) → List (Glyph α × Fate)
  | [] => []
  | g :: rest => (g, fate page settings earlier g) :: judge page settings (earlier ++ [g]) rest

def accepted (page : Box α) (settings : Settings α) (glyphs : List (Glyph α)) : List (Glyph α) :=
  ((judge page settings [] glyphs).filter fun p => p.2 == .accepted).map Prod.fst

/-- Whether a glyph leads against the direction of its text. -/
def isReversed (g : Glyph α) : Bool :=
  match g.direction with
  | .right => g.dx < 0.0
  | .up => g.dy < 0.0
  | .left => -g.dx < 0.0
  | .down => -g.dy < 0.0

/-- A glyph as its word holds it: one that leads backwards begins where it ended. -/
def anchored (g : Glyph α) : Glyph α :=
  if isReversed g then { g with x := g.x + g.dx, y := g.y + g.dy, dx := -g.dx, dy := -g.dy } else g

theorem isCounted_eq (page : Box α) (g : Glyph α)
    : isCounted page g = (g.isFinite && !isOffPage page g && isTiny g) := by
  rfl

theorem isReversed_eq (g : Glyph α)
    : isReversed g = decide (g.direction.primary g.dx g.dy < 0.0) := by
  unfold isReversed
  cases g.direction <;> rfl

theorem anchored_eq (g : Glyph α) : anchored g = if isReversed g then reversed g else g := by
  rfl

theorem judge_append (page : Box α) (settings : Settings α) (earlier l₁ l₂ : List (Glyph α))
    : judge page settings earlier (l₁ ++ l₂) =
        judge page settings earlier l₁ ++ judge page settings (earlier ++ l₁) l₂ := by
  induction l₁ generalizing earlier with
  | nil => simp [judge]
  | cons g rest ih =>
    simp only [List.cons_append, judge]
    rw [ih]
    simp

theorem judge_concat (page : Box α) (settings : Settings α) (glyphs : List (Glyph α))
    (g : Glyph α)
    : judge page settings [] (glyphs ++ [g]) =
        judge page settings [] glyphs ++ [(g, fate page settings glyphs g)] := by
  rw [judge_append]
  simp [judge]

theorem accepted_concat (page : Box α) (settings : Settings α) (glyphs : List (Glyph α))
    (g : Glyph α)
    : accepted page settings (glyphs ++ [g]) =
        accepted page settings glyphs ++
          if fate page settings glyphs g = .accepted then [g] else [] := by
  unfold accepted
  rw [judge_concat]
  simp only [List.filter_append, List.map_append]
  by_cases h : fate page settings glyphs g = .accepted
  . simp [h]
  . simp [h]

section Shown

variable (page : Box α) (settings : Settings α) (calls : List (Call α))

/-- The accepted glyphs of these calls. -/
def shown : List (Glyph α) := accepted page settings (calls.filterMap Call.glyph?)

@[simp]
theorem shown_nil : shown page settings [] = [] := by
  rfl

omit [Scalar α] in
theorem filterMap_concat_close
    : (calls ++ [Call.close]).filterMap Call.glyph? = calls.filterMap Call.glyph? := by
  rw [List.filterMap_append]
  apply List.append_nil

theorem shown_concat_close
    : shown page settings (calls ++ [Call.close]) = shown page settings calls := by
  unfold shown
  rw [filterMap_concat_close]

theorem shown_concat_push (g : Glyph α)
    : shown page settings (calls ++ [Call.push g]) =
        shown page settings calls ++
          if fate page settings (calls.filterMap Call.glyph?) g = .accepted then [g] else [] := by
  unfold shown
  rw [List.filterMap_append, ← accepted_concat]
  rfl

theorem length_shown_le_append (behind : List (Call α))
    : (shown page settings calls).length ≤ (shown page settings (calls ++ behind)).length := by
  unfold shown accepted
  rw [List.filterMap_append, judge_append, List.filter_append, List.map_append, List.length_append]
  omega

end Shown

theorem fateAt_eq_accepted {page : Box α} {settings : Settings α} {tiny : Nat} {g : Glyph α}
    (h : fateAt page settings tiny g = .accepted)
    : g.isFinite ∧ isOffPage page g = false ∧ CharClass.breaksWord g.char = false := by
  unfold fateAt at h
  split at h
  . contradiction
  next hfinite =>
  split at h
  . contradiction
  next hpage =>
  split at h
  . contradiction
  split at h
  . contradiction
  next hblank =>
  simp only [Bool.not_eq_true', Bool.not_eq_false, Bool.not_eq_true] at hfinite hpage hblank
  exact ⟨hfinite, hpage, hblank⟩

theorem exists_fate_of_mem_accepted {page : Box α} {settings : Settings α}
    {glyphs : List (Glyph α)} {g : Glyph α} (h : g ∈ accepted page settings glyphs)
    : ∃ earlier, fate page settings earlier g = .accepted := by
  induction glyphs using List.reverseRecOn with
  | nil => simp [accepted, judge] at h
  | append_singleton rest last ih =>
    rw [accepted_concat] at h
    rw [List.mem_append] at h
    cases h with
    | inl h => exact ih h
    | inr h =>
      split at h
      . next hfate =>
        rw [List.mem_singleton] at h
        rw [h]
        exact ⟨rest, hfate⟩
      . simp at h

theorem breaksWord_of_mem_accepted {page : Box α} {settings : Settings α}
    {glyphs : List (Glyph α)} {g : Glyph α} (h : g ∈ accepted page settings glyphs)
    : CharClass.breaksWord g.char = false := by
  obtain ⟨earlier, hfate⟩ := exists_fate_of_mem_accepted h
  exact (fateAt_eq_accepted hfate).2.2

theorem isOffPage_of_mem_accepted {page : Box α} {settings : Settings α}
    {glyphs : List (Glyph α)} {g : Glyph α} (h : g ∈ accepted page settings glyphs)
    : isOffPage page g = false := by
  obtain ⟨earlier, hfate⟩ := exists_fate_of_mem_accepted h
  exact (fateAt_eq_accepted hfate).2.1

@[simp]
theorem anchored_char (g : Glyph α) : (anchored g).char = g.char := by
  unfold anchored
  split <;> rfl

end Segmenter

/-- The tally after a glyph has met its fate; an accepted one is entered when its word takes it. -/
def Tally.note (t : Tally) (isCounted : Bool) (fate : Segmenter.Fate) : Tally :=
  let t := { t with seen := t.seen + 1, tiny := t.tiny + isCounted.toNat }
  match fate with
  | .accepted => t
  | .blank => { t with blank := t.blank + 1 }
  | .nonFinite => { t with nonFinite := t.nonFinite + 1 }
  | .offPage => { t with offPage := t.offPage + 1 }
  | .tinyDropped => { t with tinyDropped := t.tinyDropped + 1 }

def Tally.count (t : Tally) : Segmenter.Fate → Nat
  | .accepted => t.accepted
  | .blank => t.blank
  | .nonFinite => t.nonFinite
  | .offPage => t.offPage
  | .tinyDropped => t.tinyDropped

namespace Segmenter

variable {α : Type} [Scalar α]

/-- What a glyph of a known fate does to the words. -/
def meet (settings : Settings α) (s : Segmenter α) (g : Glyph α) : Fate → Segmenter α
  | .accepted => s.accept settings g
  | .blank => s.close
  | _ => s

theorem push_eq_meet (page : Box α) (settings : Settings α) (s : Segmenter α) (g : Glyph α)
    : s.push page settings g =
        (s.withTally (s.tally.note (isCounted page g) (fateAt page settings s.tally.tiny g))).meet
          settings g (fateAt page settings s.tally.tiny g) := by
  unfold push fateAt
  rw [isCounted_eq]
  by_cases hfinite : g.isFinite
  . by_cases hpage : isOffPage page g
    . simp [hfinite, hpage, Tally.note, meet]
    . by_cases htiny : isTiny g
      . by_cases hlimit : settings.tinyLimit ≤ s.tally.tiny
        . have hover : settings.tinyLimit < s.tally.tiny + 1 := by omega
          simp [hfinite, hpage, htiny, hlimit, hover, Tally.note, meet]
        . have hunder : ¬settings.tinyLimit < s.tally.tiny + 1 := by omega
          by_cases hblank : CharClass.breaksWord g.char
          . simp [hfinite, hpage, htiny, hlimit, hunder, hblank, Tally.note, meet]
          . simp [hfinite, hpage, htiny, hlimit, hunder, hblank, Tally.note, meet]
      . by_cases hblank : CharClass.breaksWord g.char
        . simp [hfinite, hpage, htiny, hblank, Tally.note, meet]
        . simp [hfinite, hpage, htiny, hblank, Tally.note, meet]
  . simp [hfinite, Tally.note, meet]

end Segmenter
end Galley
