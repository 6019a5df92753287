import Galley.Proofs.Segmenter.Account
import Galley.Proofs.Segmenter.Joining

/-!
This module contains the delivery of words: a segmenter that gives up instead of losing a word never
gives up, since every open word has the edges of its glyphs and one more of them than glyphs.
-/

namespace Galley

namespace OpenWord

variable {α : Type} [Scalar α]

/-- An open word with the edges of its glyphs, all of one direction. -/
structure Outlined (w : OpenWord α) : Prop where
  edges : w.edges = (bounds w.direction w.last).2 ::
    (w.last :: w.earlier).map fun g => (bounds w.direction g).1
  directions : ∀ g ∈ w.glyphs, g.direction = w.direction

theorem Outlined.ofGlyph (g : Glyph α) : (ofGlyph g).Outlined where
  edges := by rfl
  directions := by
    rw [glyphs_ofGlyph, List.forall_mem_singleton]
    rfl

variable {w : OpenWord α}

theorem Outlined.push (h : w.Outlined) {g : Glyph α} (hg : g.direction = w.direction)
    : (w.push g).Outlined where
  edges := by
    -- the far end of the word before the glyph is what the start of the glyph takes the place of
    unfold OpenWord.push
    dsimp only
    rw [h.edges, List.tail_cons]
    rfl
  directions := by
    rw [glyphs_push, List.forall_mem_append, List.forall_mem_singleton]
    exact ⟨h.directions, hg⟩

theorem Outlined.reverse_edges (h : w.Outlined)
    : w.edges.reverse =
        w.glyphs.map (fun g => (bounds w.direction g).1) ++ [(bounds w.direction w.last).2] := by
  rw [h.edges, List.reverse_cons, ← List.map_reverse]
  rfl

theorem Outlined.fits (h : w.Outlined) : w.Fits := by
  unfold Fits
  rw [← List.length_reverse, h.reverse_edges]
  simp

omit [Scalar α] in
theorem getLast?_glyphs (w : OpenWord α) : w.glyphs.getLast? = some w.last := by
  unfold glyphs
  rw [List.reverse_cons, List.getLast?_concat]

/-- An open word that can become a finished one, with what its edges have to be for that. -/
structure Deliverable (w : OpenWord α) : Prop where
  glyphs : w.glyphs ≠ []
  length : w.edges.reverse.length = w.glyphs.length + 1
  edges : ∀ (k : Nat) (g : Glyph α), w.glyphs[k]? = some g →
    w.edges.reverse[k]? = some (w.direction.axis g.x g.y)
  stop : ∀ g ∈ w.glyphs.getLast?,
    w.edges.reverse.getLast? = some (w.direction.axis (g.x + g.dx) (g.y + g.dy))
  directions : ∀ g ∈ w.glyphs, g.direction = w.direction
  finish : ∀ order, ∃ word, w.finish? order = some word ∧ word.glyphs = w.glyphs ∧
    word.edges = w.edges.reverse ∧ word.direction = w.direction

theorem Outlined.deliverable (h : w.Outlined) : w.Deliverable where
  glyphs := w.glyphs_ne_nil
  length := by
    rw [List.length_reverse]
    exact h.fits
  edges := by
    intro k g hg
    have hk := (List.getElem?_eq_some_iff.mp hg).1
    rw [h.reverse_edges, List.getElem?_append_left, List.getElem?_map, hg]
    . rfl
    . rw [List.length_map]
      exact hk
  stop := by
    intro g hg
    rw [getLast?_glyphs, Option.mem_some_iff] at hg
    rw [h.reverse_edges, List.getLast?_concat, hg]
    rfl
  directions := h.directions
  finish := by
    intro order
    obtain ⟨word, hfinish, hglyphs, _, hdirection, _⟩ := exists_finish? h.fits order
    refine ⟨word, hfinish, hglyphs, ?_, hdirection⟩
    unfold finish? Word.ofParts? at hfinish
    split at hfinish
    . contradiction
    . injection hfinish with hfinish
      rw [← hfinish]

end OpenWord

namespace Segmenter

variable {α : Type} [Scalar α]

section Strict

variable (page : Box α) (settings : Settings α) (s : Segmenter α) (g : Glyph α)

omit [Scalar α] in
/-- Hand over a finished word. -/
def deliver (word : Word α) : Segmenter α :=
  { s with
    opened := none
    finished := word :: s.finished
    tally := { s.tally with words := s.tally.words + 1 } }

/-- End the open word; give up if that would lose it. -/
def close? : Option (Segmenter α) :=
  match s.opened with
  | none => some s
  | some w => (w.finish? s.tally.words).map s.deliver

def separate? : Option (Segmenter α) :=
  match s.opened with
  | none => some (s.withRepeated false)
  | some w =>
    let again := w.isRepeat settings.word g
    let breaks := again || s.repeated || w.isApart settings.word g
    (if breaks then s.close? else some s).map fun t => t.withRepeated again

def accept? : Option (Segmenter α) := do
  let s ← s.separate? settings g
  let direction :=
    match s.opened with
    | some w => w.direction
    | none => g.direction
  if direction.primary g.dx g.dy < 0.0 then
    let s ← s.close?
    return s.extend (reversed g)
  else return s.extend g

def push? : Option (Segmenter α) :=
  let fate := fateAt page settings s.tally.tiny g
  let s := s.withTally (s.tally.note (isCounted page g) fate)
  match fate with
  | .accepted => s.accept? settings g
  | .blank => s.close?
  | _ => some s

def call? : Call α → Option (Segmenter α)
  | .push g => s.push? page settings g
  | .close => s.close?

/-- The state after these calls if none of them had to lose a word. -/
def after? (calls : List (Call α)) : Option (Segmenter α) :=
  calls.foldlM (call? page settings) empty

variable {s}

theorem close?_eq (h : s.Sound) : s.close? = some s.close := by
  unfold close? close
  cases hopened : s.opened with
  | none => rfl
  | some w =>
    obtain ⟨word, hfinish, _⟩ := OpenWord.exists_finish? (h.fits w hopened) s.tally.words
    simp only [hfinish, Option.map_some]
    rfl

theorem separate?_eq (h : s.Sound) : s.separate? settings g = some (s.separate settings g) := by
  unfold separate? separate
  cases hopened : s.opened with
  | none =>
    dsimp only [withRepeated]
    rw [hopened]
  | some w =>
    dsimp only
    split
    . rw [close?_eq h]
      rfl
    . rfl

theorem accept?_eq (h : s.Sound) : s.accept? settings g = some (s.accept settings g) := by
  unfold accept? accept
  rw [separate?_eq settings g h, Option.bind_eq_bind, Option.bind_some,
    close?_eq (h.separate settings g)]
  dsimp only
  -- the direction is looked up in the same state, so that both turn the glyph around or neither
  cases (s.separate settings g).opened with
  | none =>
    dsimp only
    split <;> rfl
  | some w =>
    dsimp only
    split <;> rfl

theorem push?_eq (h : s.Sound) : s.push? page settings g = some (s.push page settings g) := by
  rw [push_eq_meet]
  unfold push?
  have hnoted : (s.withTally
      (s.tally.note (isCounted page g) (fateAt page settings s.tally.tiny g))).Sound := by
    apply h.withTally
    rw [Tally.words_note]
  dsimp only
  cases hfate : fateAt page settings s.tally.tiny g with
  | accepted =>
    rw [hfate] at hnoted
    exact accept?_eq settings g hnoted
  | blank =>
    rw [hfate] at hnoted
    exact close?_eq hnoted
  | _ => rfl

theorem foldlM_call? (h : s.Sound) (calls : List (Call α))
    : calls.foldlM (call? page settings) s = some (calls.foldl (call page settings) s) := by
  -- on the calls, with the state before them; it is sound, so that no call gives up
  induction calls generalizing s with
  | nil => rfl
  | cons c rest ih =>
    rw [List.foldlM_cons, List.foldl_cons]
    cases c with
    | push g =>
      rw [show s.call? page settings (.push g) = _ from push?_eq page settings g h]
      exact ih (h.push page settings g)
    | close =>
      rw [show s.call? page settings .close = _ from close?_eq h]
      exact ih h.close

end Strict

theorem carried_outlined (settings : Settings α)
    : Carried settings OpenWord.Outlined fun _ => True where
  begin := fun g _ _ => .ofGlyph (anchored g)
  join := fun _ _ _ _ _ houtlined hjoins => houtlined.push hjoins.direction
  finish := fun _ _ _ _ _ => trivial

theorem after_delivers (page : Box α) (settings : Settings α) (calls : List (Call α))
    : after? page settings calls = some (after page settings calls) ∧
        ∀ w, (after page settings calls).opened = some w → w.Deliverable ∧
          ∃ word, w.finish? (after page settings calls).tally.words = some word ∧
            (after page settings calls).close = (after page settings calls).deliver word := by
  constructor
  . exact foldlM_call? page settings Sound.empty calls
  . intro w hopened
    have houtlined : w.Outlined :=
      ((carried_outlined settings).foldl_call page .empty calls).opened w hopened
    obtain ⟨word, hfinish, _⟩ :=
      houtlined.deliverable.finish (after page settings calls).tally.words
    refine ⟨houtlined.deliverable, word, hfinish, ?_⟩
    unfold close
    rw [hopened]
    dsimp only
    rw [hfinish]
    rfl

/-- A letter that leads backwards, so that it is turned around, and one behind its far end. -/
def leadingBack : List (Call Float) :=
  let g : Glyph Float := ⟨'a', 97, 0, 110.0, 700.0, -10.0, 0.0, 12.0, .right, .horizontal, "F1"⟩
  [.push g, .push { g with char := 'b', code := 98, index := 1, dx := 8.0 }]

theorem after_delivers_leadingBack
    : ∃ w, (after ⟨0.0, 0.0, 612.0, 792.0⟩ .default leadingBack).opened = some w ∧
        w.edges.reverse = [100.0, 110.0, 118.0] ∧ w.Deliverable := by
  have hsome : (after ⟨0.0, 0.0, 612.0, 792.0⟩ .default leadingBack).opened.isSome := by
    decide +kernel
  obtain ⟨w, hopened⟩ := Option.isSome_iff_exists.mp hsome
  have hedges : (after ⟨0.0, 0.0, 612.0, 792.0⟩ .default leadingBack).opened.map
      (fun w => w.edges.reverse) = some [100.0, 110.0, 118.0] := by
    decide +kernel
  rw [hopened, Option.map_some] at hedges
  injection hedges with hedges
  refine ⟨w, hopened, hedges, ?_⟩
  exact ((after_delivers ⟨0.0, 0.0, 612.0, 792.0⟩ .default leadingBack).2 w hopened).1

end Segmenter
end Galley
