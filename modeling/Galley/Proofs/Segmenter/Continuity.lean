import Galley.Proofs.Segmenter.Cut
import Galley.Proofs.Segmenter.Joining

/-!
This module contains the rule by which a segmenter cuts glyphs into words: of two glyphs that are
accepted one after the other the second joins the word of the first exactly if it follows it.
-/

namespace Galley

namespace Segmenter

section Interrupted

variable {α : Type} [Scalar α] (page : Box α) (settings : Settings α)

/-- Whether a call that comes behind others ends a word by itself. -/
def Ends (before : List (Call α)) : Call α → Prop
  | .push g => fate page settings (before.filterMap Call.glyph?) g = .blank
  | .close => True

/-- Whether a call between glyph number `i` of the accepted ones and the next one ends a word. -/
def Interrupted (calls : List (Call α)) (i : Nat) : Prop :=
  ∃ before event behind, calls = before ++ event :: behind ∧
    (shown page settings before).length = i + 1 ∧ Ends page settings before event

variable (calls : List (Call α))

theorem ends_push_iff (g : Glyph α)
    : Ends page settings calls (Call.push g) ↔
        fate page settings (calls.filterMap Call.glyph?) g = .blank := by
  rfl

variable {calls}

theorem lt_length_shown_of_interrupted {i : Nat} (h : Interrupted page settings calls i)
    : i < (shown page settings calls).length := by
  obtain ⟨before, event, behind, hcalls, hlength, _⟩ := h
  have hle := length_shown_le_append page settings before (event :: behind)
  rw [← hcalls] at hle
  omega

theorem interrupted_concat (event : Call α) (i : Nat)
    : Interrupted page settings (calls ++ [event]) i ↔
        Interrupted page settings calls i ∨
          ((shown page settings calls).length = i + 1 ∧ Ends page settings calls event) := by
  constructor
  . rintro ⟨before, event', behind, hcalls, hlength, hends⟩
    rcases List.eq_nil_or_concat behind with hbehind | ⟨behind', last, hbehind⟩
    . rw [hbehind] at hcalls
      obtain ⟨hbefore, hevent⟩ := List.append_inj' hcalls rfl
      injection hevent with hevent
      rw [hbefore, hevent]
      exact .inr ⟨hlength, hends⟩
    . rw [hbehind, List.concat_eq_append, ← List.cons_append, ← List.append_assoc] at hcalls
      obtain ⟨hbefore, _⟩ := List.append_inj' hcalls rfl
      exact .inl ⟨before, event', behind', hbefore, hlength, hends⟩
  . rintro (⟨before, event', behind, hcalls, hlength, hends⟩ | ⟨hlength, hends⟩)
    . refine ⟨before, event', behind ++ [event], ?_, hlength, hends⟩
      rw [hcalls, List.append_assoc, List.cons_append]
    . exact ⟨calls, event, [], rfl, hlength, hends⟩

theorem interrupted_concat_of_lt (event : Call α) {i : Nat}
    (h : i + 1 < (shown page settings calls).length)
    : Interrupted page settings (calls ++ [event]) i ↔ Interrupted page settings calls i := by
  rw [interrupted_concat]
  constructor
  . rintro (h' | ⟨hlength, _⟩)
    . exact h'
    . omega
  . exact .inl

theorem interrupted_concat_of_not_ends {event : Call α} (h : ¬ Ends page settings calls event)
    (i : Nat)
    : Interrupted page settings (calls ++ [event]) i ↔ Interrupted page settings calls i := by
  rw [interrupted_concat]
  simp [h]

end Interrupted

section Pieces

variable {α : Type} [Scalar α] {s : Segmenter α}

omit [Scalar α] in
/-- The glyphs taken so far, word by word. -/
def pieces (s : Segmenter α) : List (List (Glyph α)) :=
  s.words.map Word.glyphs ++ s.opened.elim [] fun w => [w.glyphs]

omit [Scalar α] in
theorem flatten_pieces (s : Segmenter α) : s.pieces.flatten = s.flow := by
  unfold pieces flow
  rw [List.flatten_append, ← List.flatMap_def]
  cases s.opened <;> simp

omit [Scalar α] in
theorem pieces_of_opened_eq_none (h : s.opened = none) : s.pieces = s.words.map Word.glyphs := by
  unfold pieces
  rw [h]
  simp

theorem pieces_close (h : s.Sound) : s.close.pieces = s.pieces := by
  rw [pieces_of_opened_eq_none (opened_close s)]
  rcases close_cases h with ⟨hopened, hclose⟩ | ⟨w, word, hopened, hglyphs, _, _, hclose⟩
  . rw [hclose, pieces_of_opened_eq_none hopened]
  . rw [hclose]
    simp [pieces, words, hopened, hglyphs]

theorem growth_pieces_begun (h : s.Sound) (settings : Settings α) (g : Glyph α)
    : growth (begun settings s g).pieces = growth s.pieces ++ [[anchored g]] := by
  have hpieces : (begun settings s g).pieces = s.close.pieces ++ [[anchored g]] := by
    rw [pieces_of_opened_eq_none (opened_close s)]
    rfl
  rw [hpieces, pieces_close h, growth_append, growth_singleton]
  rfl

omit [Scalar α] in
theorem pieces_of_opened {w : OpenWord α} (h : s.opened = some w)
    : s.pieces = s.words.map Word.glyphs ++ [w.glyphs] := by
  unfold pieces
  rw [h]
  rfl

omit [Scalar α] in
theorem getLast?_growth_pieces {w : OpenWord α} (h : s.opened = some w)
    : (growth s.pieces).getLast? = some w.glyphs := by
  have hglyphs : w.glyphs = w.earlier.reverse ++ [w.last] := by simp [OpenWord.glyphs]
  rw [pieces_of_opened h, growth_append, growth_singleton, hglyphs, tail_inits_concat,
    ← List.append_assoc, List.getLast?_concat]

theorem growth_pieces_joined {w : OpenWord α} (h : s.opened = some w) (g : Glyph α)
    : growth (joined s g w).pieces = growth s.pieces ++ [w.glyphs ++ [g]] := by
  have hopened : (joined s g w).opened = some (w.push g) := rfl
  have hwords : (joined s g w).words = s.words := rfl
  rw [pieces_of_opened hopened, pieces_of_opened h, hwords, OpenWord.glyphs_push, growth_append,
    growth_append, growth_singleton, growth_singleton, tail_inits_concat, List.append_assoc]

theorem joins_withTally {settings : Settings α} {tally : Tally} {g : Glyph α}
    {w : OpenWord α} : Joins settings (s.withTally tally) g w ↔ Joins settings s g w := by
  constructor
  . exact fun h => ⟨h.opened, h.fresh, h.apart, h.single, h.forward⟩
  . exact fun h => ⟨h.opened, h.fresh, h.apart, h.single, h.forward⟩

theorem accept_outcome (h : s.Sound) (settings : Settings α) (g : Glyph α)
    : (s.accept settings g).opened ≠ none ∧
        (s.accept settings g).repeated = repeatsLast settings s g ∧
        ∃ word, growth (s.accept settings g).pieces = growth s.pieces ++ [word] ∧
          ((∃ w, Joins settings s g w ∧ word = w.glyphs ++ [g]) ∨
            ((∀ w, ¬ Joins settings s g w) ∧ word = [anchored g])) := by
  rcases accept_cases settings s g with ⟨w, hjoins, haccept⟩ | ⟨hnot, haccept⟩
  . have hlast : repeatsLast settings s g = false := by
      rw [repeatsLast_of_opened hjoins.opened, hjoins.single]
    rw [haccept, hlast]
    exact ⟨by simp [joined], rfl, _, growth_pieces_joined hjoins.opened g, .inl ⟨w, hjoins, rfl⟩⟩
  . rw [haccept]
    exact ⟨by simp [begun], rfl, _, growth_pieces_begun h settings g, .inr ⟨hnot, rfl⟩⟩

end Pieces

section Rule

variable (tolerances : WordTolerances Float) (interrupted : Nat → Prop)
variable (shown : List (Glyph Float)) (grown : List (List (Glyph Float)))

/-- Whether glyph number `i` was drawn over the last one of the word that was open when it came. -/
def RepeatsPrevious (i : Nat) : Prop :=
  ∃ j first rest g, i = j + 1 ∧ ¬ interrupted j ∧ grown[j]? = some (first :: rest) ∧
    shown[i]? = some g ∧ Overprints tolerances first rest g

/-- Whether a glyph follows number `i`, with which a word has come to be `first :: rest`. -/
structure Follows (i : Nat) (first : Glyph Float) (rest : List (Glyph Float))
    (g : Glyph Float) : Prop where
  uninterrupted : ¬ interrupted i
  fresh : ¬ RepeatsPrevious tolerances interrupted shown grown i
  forward : isReversed g = false
  continues : Continues tolerances first rest g
  single : ¬ Overprints tolerances first rest g

variable {tolerances interrupted shown grown}
variable {interrupted' : Nat → Prop} {shown' : List (Glyph Float)}
variable {grown' : List (List (Glyph Float))} {i : Nat}

theorem repeatsPrevious_congr (hinterrupted : ∀ j < i, interrupted' j ↔ interrupted j)
    (hshown : shown'[i]? = shown[i]?) (hgrown : ∀ j < i, grown'[j]? = grown[j]?)
    : RepeatsPrevious tolerances interrupted' shown' grown' i ↔
        RepeatsPrevious tolerances interrupted shown grown i := by
  constructor
  . rintro ⟨j, first, rest, g, hi, hj, hword, hg, hover⟩
    rw [hinterrupted j (by omega)] at hj
    rw [hgrown j (by omega)] at hword
    rw [hshown] at hg
    exact ⟨j, first, rest, g, hi, hj, hword, hg, hover⟩
  . rintro ⟨j, first, rest, g, hi, hj, hword, hg, hover⟩
    rw [← hinterrupted j (by omega)] at hj
    rw [← hgrown j (by omega)] at hword
    rw [← hshown] at hg
    exact ⟨j, first, rest, g, hi, hj, hword, hg, hover⟩

theorem follows_congr (hinterrupted : ∀ j ≤ i, interrupted' j ↔ interrupted j)
    (hshown : shown'[i]? = shown[i]?) (hgrown : ∀ j < i, grown'[j]? = grown[j]?)
    {first : Glyph Float} {rest : List (Glyph Float)} {g : Glyph Float}
    : Follows tolerances interrupted' shown' grown' i first rest g ↔
        Follows tolerances interrupted shown grown i first rest g := by
  have hrepeats : RepeatsPrevious tolerances interrupted' shown' grown' i ↔
      RepeatsPrevious tolerances interrupted shown grown i :=
    repeatsPrevious_congr (fun j hj => hinterrupted j (Nat.le_of_lt hj)) hshown hgrown
  constructor
  . rintro ⟨huninterrupted, hfresh, hforward, hcontinues, hapart⟩
    rw [hinterrupted i (Nat.le_refl i)] at huninterrupted
    rw [hrepeats] at hfresh
    exact ⟨huninterrupted, hfresh, hforward, hcontinues, hapart⟩
  . rintro ⟨huninterrupted, hfresh, hforward, hcontinues, hapart⟩
    rw [← hinterrupted i (Nat.le_refl i)] at huninterrupted
    rw [← hrepeats] at hfresh
    exact ⟨huninterrupted, hfresh, hforward, hcontinues, hapart⟩

/-- Whether at every accepted glyph but the first the word goes on exactly if the glyph follows. -/
def Ruled (tolerances : WordTolerances Float) (interrupted : Nat → Prop)
    (shown : List (Glyph Float)) (grown : List (List (Glyph Float))) : Prop :=
  ∀ i g first rest, shown[i + 1]? = some g → grown[i]? = some (first :: rest) →
    ((∃ a, grown[i + 1]? = some (first :: rest ++ [a])) ↔
      Follows tolerances interrupted shown grown i first rest g)

section Append

variable (h : Ruled tolerances interrupted shown grown) (hlength : grown.length = shown.length)
variable (hinterrupted : ∀ j, j + 1 < shown.length → (interrupted' j ↔ interrupted j))
include h hlength hinterrupted

theorem Ruled.append_of_lt (more : List (Glyph Float)) (moreGrown : List (List (Glyph Float)))
    (hlt : i + 1 < shown.length) {g first : Glyph Float} {rest : List (Glyph Float)}
    (hg : (shown ++ more)[i + 1]? = some g)
    (hword : (grown ++ moreGrown)[i]? = some (first :: rest))
    : (∃ a, (grown ++ moreGrown)[i + 1]? = some (first :: rest ++ [a])) ↔
        Follows tolerances interrupted' (shown ++ more) (grown ++ moreGrown) i first rest g := by
  rw [List.getElem?_append_left hlt] at hg
  rw [List.getElem?_append_left (by omega)] at hword
  rw [List.getElem?_append_left (by omega), h i g first rest hg hword]
  symm
  apply follows_congr
  . exact fun j hj => hinterrupted j (by omega)
  . rw [List.getElem?_append_left (by omega)]
  . exact fun j hj => List.getElem?_append_left (by omega)

theorem Ruled.of_interrupted : Ruled tolerances interrupted' shown grown := by
  intro i g first rest hg hword
  have hlt := (List.getElem?_eq_some_iff.mp hg).1
  have hg' : (shown ++ [])[i + 1]? = some g := by rw [List.append_nil, hg]
  have hword' : (grown ++ [])[i]? = some (first :: rest) := by rw [List.append_nil, hword]
  simpa using h.append_of_lt hlength hinterrupted [] [] hlt hg' hword'

theorem Ruled.concat {new : Glyph Float} {word : List (Glyph Float)}
    (hnew : ∀ i first rest, shown.length = i + 1 → grown[i]? = some (first :: rest) →
      ((∃ a, word = first :: rest ++ [a]) ↔
        Follows tolerances interrupted' (shown ++ [new]) (grown ++ [word]) i first rest new))
    : Ruled tolerances interrupted' (shown ++ [new]) (grown ++ [word]) := by
  intro i g first rest hg hword
  by_cases hlt : i + 1 < shown.length
  . exact h.append_of_lt hlength hinterrupted [new] [word] hlt hg hword
  . have hle := (List.getElem?_eq_some_iff.mp hg).1
    rw [List.length_append, List.length_singleton] at hle
    have hlast : shown.length = i + 1 := by omega
    rw [← hlast, List.getElem?_concat_length, Option.some_inj] at hg
    rw [List.getElem?_append_left (by omega)] at hword
    rw [← hlast, ← hlength, List.getElem?_concat_length, ← hg, ← hnew i first rest hlast hword]
    simp

end Append

end Rule

/-- What the state of a segmenter tells of the calls that led to it. -/
structure Continuous (page : Box Float) (settings : Settings Float) (calls : List (Call Float))
    (s : Segmenter Float) : Prop where
  accounts : Accounts page settings s (calls.filterMap Call.glyph?)
  tidy : s.Tidy settings.word
  opened_of_nil : shown page settings calls = [] → s.opened = none
  opened : ∀ i, (shown page settings calls).length = i + 1 →
    (s.opened = none ↔ Interrupted page settings calls i)
  repeated : ∀ i, s.opened ≠ none → (shown page settings calls).length = i + 1 →
    (s.repeated = true ↔ RepeatsPrevious settings.word (Interrupted page settings calls)
      (shown page settings calls) (growth s.pieces) i)
  ruled : Ruled settings.word (Interrupted page settings calls) (shown page settings calls)
    (growth s.pieces)

namespace Continuous

variable {page : Box Float} {settings : Settings Float} {calls : List (Call Float)}
variable {s s' : Segmenter Float} {event : Call Float}

theorem empty : Continuous page settings [] Segmenter.empty where
  accounts := .empty
  tidy := ⟨by simp [Segmenter.empty], by simp [Segmenter.empty, words]⟩
  opened_of_nil := fun _ => rfl
  opened := by simp
  repeated := by simp
  ruled := by
    intro i g first rest hg
    simp at hg

theorem length_growth (h : Continuous page settings calls s)
    : (growth s.pieces).length = (shown page settings calls).length := by
  rw [Galley.length_growth, flatten_pieces, h.accounts.flow, List.length_map]
  rfl

section Quiet

variable (h : Continuous page settings calls s)
variable (haccounts : Accounts page settings s' ((calls ++ [event]).filterMap Call.glyph?))
variable (hshown : shown page settings (calls ++ [event]) = shown page settings calls)
include h haccounts hshown

theorem ended (htidy : s'.Tidy settings.word) (hpieces : s'.pieces = s.pieces)
    (hopened : s'.opened = none) (hends : Ends page settings calls event)
    : Continuous page settings (calls ++ [event]) s' where
  accounts := haccounts
  tidy := htidy
  opened_of_nil := fun _ => hopened
  opened := by
    intro i hi
    rw [hshown] at hi
    rw [interrupted_concat]
    exact iff_of_true hopened (.inr ⟨hi, hends⟩)
  repeated := fun _ hne => absurd hopened hne
  ruled := by
    rw [hshown, hpieces]
    apply h.ruled.of_interrupted h.length_growth
    exact fun j hj => interrupted_concat_of_lt page settings event hj

theorem unchanged (hpieces : s'.pieces = s.pieces) (hopened : s'.opened = s.opened)
    (hrepeated : s'.repeated = s.repeated) (hwords : s'.words = s.words)
    (hends : ¬ Ends page settings calls event)
    : Continuous page settings (calls ++ [event]) s' where
  accounts := haccounts
  tidy := by
    refine ⟨?_, ?_⟩
    . rw [hopened]
      exact h.tidy.opened
    . rw [hwords]
      exact h.tidy.words
  opened_of_nil := by
    rw [hshown, hopened]
    exact h.opened_of_nil
  opened := by
    intro i hi
    rw [hshown] at hi
    rw [interrupted_concat_of_not_ends page settings hends, hopened]
    exact h.opened i hi
  repeated := by
    intro i hne hi
    rw [hshown] at hi
    rw [hopened] at hne
    rw [hrepeated, hshown, hpieces, h.repeated i hne hi]
    symm
    apply repeatsPrevious_congr
    . exact fun j _ => interrupted_concat_of_not_ends page settings hends j
    . rfl
    . exact fun _ _ => rfl
  ruled := by
    rw [hshown, hpieces]
    apply h.ruled.of_interrupted h.length_growth
    exact fun j hj => interrupted_concat_of_lt page settings event hj

end Quiet

section Accept

variable (h : Continuous page settings calls s)
include h

theorem growth_of_opened {w : OpenWord Float} (hopened : s.opened = some w) {i : Nat}
    (hi : (shown page settings calls).length = i + 1) : (growth s.pieces)[i]? = some w.glyphs := by
  have hlast := getLast?_growth_pieces hopened
  rw [List.getLast?_eq_getElem?, h.length_growth, hi] at hlast
  exact hlast

theorem exists_opened {i : Nat} (hi : (shown page settings calls).length = i + 1)
    (hnot : ¬ Interrupted page settings calls i) : ∃ w, s.opened = some w := by
  cases hopened : s.opened with
  | none =>
    rw [h.opened i hi] at hopened
    contradiction
  | some w => exact ⟨w, rfl⟩

theorem traces_of_opened {w : OpenWord Float} (hopened : s.opened = some w) {i : Nat}
    (hi : (shown page settings calls).length = i + 1) {first : Glyph Float}
    {rest : List (Glyph Float)} (hword : (growth s.pieces)[i]? = some (first :: rest))
    : w.Traces first rest := by
  obtain ⟨first', rest', htraces, _⟩ := h.tidy.opened w hopened
  rw [h.growth_of_opened hopened hi, htraces.glyphs, Option.some_inj] at hword
  injection hword with hfirst hrest
  rw [hfirst, hrest] at htraces
  exact htraces

theorem repeatsLast_iff (g : Glyph Float) {i : Nat}
    (hi : (shown page settings calls).length = i) (word : List (Glyph Float))
    : repeatsLast settings s g = true ↔
        RepeatsPrevious settings.word (Interrupted page settings calls)
          (shown page settings calls ++ [g]) (growth s.pieces ++ [word]) i := by
  have hlength := h.length_growth
  constructor
  . intro hrepeats
    cases hopened : s.opened with
    | none =>
      unfold repeatsLast at hrepeats
      rw [hopened] at hrepeats
      contradiction
    | some w =>
      rw [repeatsLast_of_opened hopened] at hrepeats
      obtain ⟨first, rest, htraces, _⟩ := h.tidy.opened w hopened
      cases i with
      | zero =>
        rw [h.opened_of_nil (List.eq_nil_of_length_eq_zero hi)] at hopened
        contradiction
      | succ j =>
        refine ⟨j, first, rest, g, rfl, ?_, ?_, ?_, (htraces.isRepeat_iff _ g).mp hrepeats⟩
        . rw [← h.opened j hi, hopened]
          simp
        . rw [List.getElem?_append_left (by omega), h.growth_of_opened hopened hi, htraces.glyphs]
        . rw [← hi, List.getElem?_concat_length]
  . rintro ⟨j, first, rest, g', hij, hnot, hword, hg, hover⟩
    rw [hij] at hi
    rw [hij, ← hi, List.getElem?_concat_length, Option.some_inj] at hg
    rw [List.getElem?_append_left (by omega)] at hword
    obtain ⟨w, hopened⟩ := h.exists_opened hi hnot
    have htraces := h.traces_of_opened hopened hi hword
    rw [← hg] at hover
    rw [repeatsLast_of_opened hopened]
    exact (htraces.isRepeat_iff _ g).mpr hover

section Finite

variable (hoverlap : settings.word.overlap.isFinite = true)
variable (hgap : settings.word.gap.isFinite = true) (hdrift : settings.word.drift.isFinite = true)
include hoverlap hgap hdrift

theorem exists_joins_iff {g : Glyph Float} (hg : g.isFinite = true) {i : Nat}
    (hi : (shown page settings calls).length = i + 1) {first : Glyph Float}
    {rest : List (Glyph Float)} (hword : (growth s.pieces)[i]? = some (first :: rest))
    (word : List (Glyph Float))
    : (∃ w, Joins settings s g w) ↔
        Follows settings.word (Interrupted page settings calls) (shown page settings calls ++ [g])
          (growth s.pieces ++ [word]) i first rest g := by
  have hlength := h.length_growth
  have hrepeats : RepeatsPrevious settings.word (Interrupted page settings calls)
      (shown page settings calls ++ [g]) (growth s.pieces ++ [word]) i ↔
      RepeatsPrevious settings.word (Interrupted page settings calls) (shown page settings calls)
        (growth s.pieces) i := by
    apply repeatsPrevious_congr
    . exact fun _ _ => Iff.rfl
    . rw [List.getElem?_append_left (by omega)]
    . exact fun j hj => List.getElem?_append_left (by omega)
  constructor
  . rintro ⟨w, hjoins⟩
    have htraces := h.traces_of_opened hjoins.opened hi hword
    constructor
    . rw [← h.opened i hi, hjoins.opened]
      simp
    . rw [hrepeats, ← h.repeated i (by simp [hjoins.opened]) hi, hjoins.fresh]
      simp
    . exact hjoins.forward
    . exact (htraces.isApart_eq_false_iff hoverlap hgap hdrift hg).mp hjoins.apart
    . rw [← htraces.isRepeat_iff, hjoins.single]
      simp
  . intro hfollows
    obtain ⟨w, hopened⟩ := h.exists_opened hi hfollows.uninterrupted
    have htraces := h.traces_of_opened hopened hi hword
    refine ⟨w, hopened, ?_, ?_, ?_, hfollows.forward⟩
    . have hfresh := hfollows.fresh
      rw [hrepeats, ← h.repeated i (by simp [hopened]) hi] at hfresh
      simpa using hfresh
    . exact (htraces.isApart_eq_false_iff hoverlap hgap hdrift hg).mpr hfollows.continues
    . have hapart := hfollows.single
      rw [← htraces.isRepeat_iff] at hapart
      simpa using hapart

theorem grown_accept_iff {g : Glyph Float} (hg : g.isFinite = true) {i : Nat}
    (hi : (shown page settings calls).length = i + 1) {first : Glyph Float}
    {rest : List (Glyph Float)} (hfirst : (growth s.pieces)[i]? = some (first :: rest))
    {word : List (Glyph Float)}
    (hword : (∃ w, Joins settings s g w ∧ word = w.glyphs ++ [g]) ∨
      ((∀ w, ¬ Joins settings s g w) ∧ word = [anchored g]))
    : (∃ a, word = first :: rest ++ [a]) ↔
        Follows settings.word (Interrupted page settings calls) (shown page settings calls ++ [g])
          (growth s.pieces ++ [word]) i first rest g := by
  rw [← h.exists_joins_iff hoverlap hgap hdrift hg hi hfirst word]
  rcases hword with ⟨w, hjoins, hword⟩ | ⟨hnot, hword⟩
  . refine iff_of_true ⟨g, ?_⟩ ⟨w, hjoins⟩
    rw [h.growth_of_opened hjoins.opened hi, Option.some_inj] at hfirst
    rw [hword, hfirst]
  . refine iff_of_false ?_ (fun ⟨w, hjoins⟩ => hnot w hjoins)
    rintro ⟨a, ha⟩
    have hlength := congrArg List.length ha
    rw [hword] at hlength
    simp at hlength

theorem grew {g : Glyph Float} (hg : g.isFinite = true) {word : List (Glyph Float)}
    (haccounts : Accounts page settings s' ((calls ++ [Call.push g]).filterMap Call.glyph?))
    (htidy : s'.Tidy settings.word)
    (hshown : shown page settings (calls ++ [Call.push g]) = shown page settings calls ++ [g])
    (hends : ¬ Ends page settings calls (Call.push g)) (hopened : s'.opened ≠ none)
    (hrepeated : s'.repeated = repeatsLast settings s g)
    (hgrowth : growth s'.pieces = growth s.pieces ++ [word])
    (hword : (∃ w, Joins settings s g w ∧ word = w.glyphs ++ [g]) ∨
      ((∀ w, ¬ Joins settings s g w) ∧ word = [anchored g]))
    : Continuous page settings (calls ++ [Call.push g]) s' := by
  have hinterrupted : Interrupted page settings (calls ++ [Call.push g]) =
      Interrupted page settings calls := by
    funext i
    exact propext (interrupted_concat_of_not_ends page settings hends i)
  constructor
  . exact haccounts
  . exact htidy
  . rw [hshown]
    simp
  . intro i hi
    rw [hinterrupted]
    refine iff_of_false hopened ?_
    intro hlast
    have hlt := lt_length_shown_of_interrupted page settings hlast
    rw [hshown, List.length_append, List.length_singleton] at hi
    omega
  . intro i _ hi
    rw [hshown, List.length_append, List.length_singleton, Nat.add_right_cancel_iff] at hi
    rw [hrepeated, hshown, hgrowth, hinterrupted]
    exact h.repeatsLast_iff g hi word
  . rw [hshown, hgrowth, hinterrupted]
    apply h.ruled.concat h.length_growth
    . exact fun _ _ => Iff.rfl
    . intro i first rest hi hfirst
      exact h.grown_accept_iff hoverlap hgap hdrift hg hi hfirst hword

theorem push (g : Glyph Float)
    : Continuous page settings (calls ++ [Call.push g]) (s.push page settings g) := by
  have htidy := h.tidy.push hoverlap hgap hdrift page g
  have haccounts : Accounts page settings (s.push page settings g)
      ((calls ++ [Call.push g]).filterMap Call.glyph?) := by
    rw [List.filterMap_append]
    exact h.accounts.push g
  have hends := ends_push_iff page settings calls g
  have hshown := shown_concat_push page settings calls g
  have hsound : ∀ fate, (s.withTally (s.tally.note (isCounted page g) fate)).Sound := by
    intro fate
    apply h.accounts.sound.withTally
    rw [Tally.words_note]
  have hfate : fateAt page settings s.tally.tiny g =
      fate page settings (calls.filterMap Call.glyph?) g := by
    rw [h.accounts.tiny]
    rfl
  rw [← hfate] at hends hshown
  rw [push_eq_meet] at haccounts htidy ⊢
  cases hcase : fateAt page settings s.tally.tiny g with
  | accepted =>
    rw [hcase] at haccounts htidy hends hshown
    obtain ⟨hopened, hrepeated, word, hgrowth, hword⟩ :=
      accept_outcome (hsound .accepted) settings g
    simp only [joins_withTally] at hword
    exact h.grew hoverlap hgap hdrift (fateAt_eq_accepted hcase).1 haccounts htidy hshown
      (by simp [hends]) hopened hrepeated hgrowth hword
  | blank =>
    rw [hcase] at haccounts htidy hends hshown
    exact h.ended haccounts (by simpa using hshown) htidy (pieces_close (hsound .blank))
      (opened_close _) (hends.mpr rfl)
  | _ =>
    rw [hcase] at haccounts hends hshown
    exact h.unchanged haccounts (by simpa using hshown) rfl rfl rfl rfl (by simp [hends])

end Finite

theorem close : Continuous page settings (calls ++ [Call.close]) s.close := by
  apply h.ended
  . rw [filterMap_concat_close]
    exact h.accounts.close
  . apply shown_concat_close
  . exact h.tidy.close
  . exact pieces_close h.accounts.sound
  . apply opened_close
  . trivial

end Accept

end Continuous

section Finite

variable {settings : Settings Float}
variable (hoverlap : settings.word.overlap.isFinite = true)
variable (hgap : settings.word.gap.isFinite = true) (hdrift : settings.word.drift.isFinite = true)
include hoverlap hgap hdrift

theorem after_continuous (page : Box Float) (calls : List (Call Float))
    : Continuous page settings calls (after page settings calls) := by
  induction calls using List.reverseRecOn with
  | nil => exact .empty
  | append_singleton calls event ih =>
    unfold after at ih ⊢
    rw [List.foldl_append]
    cases event with
    | push g => exact ih.push hoverlap hgap hdrift g
    | close => exact ih.close

end Finite

theorem words_continuous (page : Box Float) (settings : Settings Float) (calls : List (Call Float))
    (hoverlap : settings.word.overlap.isFinite = true)
    (hgap : settings.word.gap.isFinite = true) (hdrift : settings.word.drift.isFinite = true)
    : let shown := shown page settings calls
      let words := (after page settings calls).close.words
      let grown := growth (words.map Word.glyphs)
      words.flatMap Word.glyphs = shown.map anchored ∧
        (∀ w ∈ words, Coherent settings.word w.base w.size w.direction w.mode w.glyphs) ∧
        ∀ i g, shown[i + 1]? = some g →
          ∃ first rest, grown[i]? = some (first :: rest) ∧
            (Together (words.map Word.glyphs) i ↔
              Follows settings.word (Interrupted page settings calls) shown grown i first rest
                g) := by
  intro shown words grown
  have h := after_continuous hoverlap hgap hdrift page calls
  have hpieces : words.map Word.glyphs = (after page settings calls).pieces := by
    rw [← pieces_close h.accounts.sound]
    exact (pieces_of_opened_eq_none (opened_close _)).symm
  have hgrown : grown = growth (after page settings calls).pieces := congrArg growth hpieces
  refine ⟨?_, h.tidy.close.words, ?_⟩
  . rw [List.flatMap_def, hpieces, flatten_pieces]
    exact h.accounts.flow
  . intro i g hg
    have hlength := h.length_growth
    rw [← hgrown] at hlength
    have hlt : i + 1 < grown.length := by
      rw [hlength]
      exact (List.getElem?_eq_some_iff.mp hg).1
    have hnext := List.getElem?_eq_getElem hlt
    have hword := List.getElem?_eq_getElem (Nat.lt_of_succ_lt hlt)
    obtain ⟨first, rest, hcons⟩ := exists_cons_of_getElem?_growth hword
    rw [hcons] at hword
    refine ⟨first, rest, hword, ?_⟩
    have hrule := h.ruled i g first rest hg
    rw [← hgrown] at hrule
    rw [← hrule hword, together_iff hword hnext, hnext]
    simp only [Option.some_inj]

/-- A page on which two letters are drawn side by side. -/
def sideBySide : List (Call Float) :=
  let g : Glyph Float := ⟨'a', 97, 0, 10.0, 20.0, 5.0, 0.0, 12.0, .right, .horizontal, "F1"⟩
  [.push g, .push { g with char := 'b', code := 98, index := 1, x := 15.0 }, .close]

theorem words_continuous_sideBySide
    : let page : Box Float := ⟨0.0, 0.0, 100.0, 100.0⟩
      let settings : Settings Float := .default
      let shown := shown page settings sideBySide
      let words := (after page settings sideBySide).close.words
      let grown := growth (words.map Word.glyphs)
      words.flatMap Word.glyphs = shown.map anchored ∧
        (∀ w ∈ words, Coherent settings.word w.base w.size w.direction w.mode w.glyphs) ∧
        ∀ i g, shown[i + 1]? = some g →
          ∃ first rest, grown[i]? = some (first :: rest) ∧
            (Together (words.map Word.glyphs) i ↔
              Follows settings.word (Interrupted page settings sideBySide) shown grown i first rest
                g) :=
  words_continuous ⟨0.0, 0.0, 100.0, 100.0⟩ .default sideBySide (by decide +kernel)
    (by decide +kernel) (by decide +kernel)

/-- Settings by which no glyph, not even the first of its word, is on the baseline of its word. -/
def strictDrift : Settings Float :=
  let settings : Settings Float := .default
  { settings with word := { settings.word with drift := -1.0 } }

theorem exists_glyph_beyond_strictDrift
    : strictDrift.word.duplicateAlong.isFinite = true ∧
        strictDrift.word.duplicateAcross.isFinite = true ∧
        strictDrift.word.overlap.isFinite = true ∧ strictDrift.word.gap.isFinite = true ∧
        strictDrift.word.drift.isFinite = true ∧
        ∃ w ∈ (after ⟨0.0, 0.0, 100.0, 100.0⟩ strictDrift sideBySide).close.words,
          ∃ g ∈ w.glyphs,
            ¬ Scalar.abs (g.baseline w.direction - w.base) ≤ strictDrift.word.drift := by
  decide +kernel

end Segmenter

end Galley
