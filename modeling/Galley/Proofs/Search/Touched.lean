import Mathlib.Data.List.Forall2
import Galley.Binary64
import Galley.Proofs.Regex.Literal
import Galley.Proofs.Search.Owner

/-!
This module contains which words a match names: those that have a byte in common with it, in their
order. Without empty words they follow one another without a gap.
-/

namespace Galley.Search

open Regex

section Repeats

theorem eraseReps_loop (a : Nat) (rest kept : List Nat)
    : List.eraseRepsBy.loop (· == ·) a rest kept =
        kept.reverse ++ List.eraseRepsBy.loop (· == ·) a rest [] := by
  induction rest generalizing a kept with
  | nil => simp [List.eraseRepsBy.loop]
  | cons b rest ih =>
    unfold List.eraseRepsBy.loop
    split
    . apply ih
    . rw [ih, ih b [a]]
      simp

theorem eraseReps_cons_cons (a b : Nat) (rest : List Nat)
    : (a :: b :: rest).eraseReps =
        if a = b then (b :: rest).eraseReps else a :: (b :: rest).eraseReps := by
  have hloop : ∀ (c : Nat) (l : List Nat),
      (c :: l).eraseReps = List.eraseRepsBy.loop (· == ·) c l [] := fun c l => rfl
  rw [hloop, hloop, List.eraseRepsBy.loop.eq_def]
  by_cases h : a = b
  . rw [if_pos h, h]
    simp only [BEq.rfl]
  . have hkept := eraseReps_loop b rest [a]
    rw [if_neg h]
    simp only [beq_false_of_ne h]
    exact hkept

theorem mem_eraseReps {l : List Nat} {i : Nat} : i ∈ l.eraseReps ↔ i ∈ l := by
  induction l with
  | nil => exact Iff.rfl
  | cons a rest ih =>
    cases rest with
    | nil => exact Iff.rfl
    | cons b rest =>
      rw [eraseReps_cons_cons, List.mem_cons (a := i) (b := a)]
      split
      . next h =>
        rw [ih, List.mem_cons]
        constructor
        . exact .inr
        . rintro (hi | hi)
          . exact .inl (hi.trans h)
          . exact hi
      . rw [List.mem_cons, ih]

/-- Numbers that never fall rise once their repeats are gone. -/
theorem pairwise_lt_eraseReps {l : List Nat} (h : l.Pairwise (· ≤ ·))
    : l.eraseReps.Pairwise (· < ·) := by
  induction l with
  | nil => exact .nil
  | cons a rest ih =>
    cases rest with
    | nil => exact List.pairwise_singleton _ a
    | cons b rest =>
      obtain ⟨ha, hrest⟩ := List.pairwise_cons.mp h
      rw [eraseReps_cons_cons]
      split
      . exact ih hrest
      . next hne =>
        refine List.pairwise_cons.mpr ⟨?_, ih hrest⟩
        intro c hc
        have hab := ha b List.mem_cons_self
        have hbc : b ≤ c := by
          rcases List.mem_cons.mp (mem_eraseReps.mp hc) with rfl | hc
          . exact Nat.le_refl c
          . exact List.rel_of_pairwise_cons hrest hc
        omega

/-- Rising numbers that leave none out between two of them are a run. -/
theorem exists_eq_range' {l : List Nat} (hl : l ≠ []) (hrising : l.Pairwise (· < ·))
    (hfull : ∀ i ∈ l, ∀ k ∈ l, ∀ j, i ≤ j → j ≤ k → j ∈ l)
    : ∃ first n, l = List.range' first (n + 1) := by
  induction l with
  | nil => contradiction
  | cons a rest ih =>
    obtain ⟨ha, hrest⟩ := List.pairwise_cons.mp hrising
    cases rest with
    | nil => exact ⟨a, 0, rfl⟩
    | cons b rest =>
      have hab := ha b List.mem_cons_self
      have htail : ∀ i ∈ b :: rest, ∀ k ∈ b :: rest, ∀ j, i ≤ j → j ≤ k → j ∈ b :: rest := by
        intro i hi k hk j hij hjk
        have hai := ha i hi
        have hj := hfull i (List.mem_cons_of_mem a hi) k (List.mem_cons_of_mem a hk) j hij hjk
        rcases List.mem_cons.mp hj with rfl | hj
        . omega
        . exact hj
      obtain ⟨first, n, hrun⟩ := ih (List.cons_ne_nil b rest) hrest htail
      have hnext : a + 1 = b := by
        have hmem := hfull a List.mem_cons_self b (List.mem_cons_of_mem a List.mem_cons_self)
          (a + 1) (Nat.le_succ a) hab
        rcases List.mem_cons.mp hmem with h | hmem
        . omega
        . rcases List.mem_cons.mp hmem with h | hmem
          . exact h
          . have hb := List.rel_of_pairwise_cons hrest hmem
            omega
      rw [List.range'_succ] at hrun
      obtain ⟨rfl, hrun⟩ := List.cons.inj hrun
      refine ⟨a, n + 1, ?_⟩
      rw [List.range'_succ, hnext, List.range'_succ, hrun]

end Repeats

variable {α : Type} [Scalar α]

theorem matchesOf_eq (p : Pattern) (words : List (Word α))
    : matchesOf p words = matchesAt words (p.findAll (searched words).toArray) := by
  unfold matchesOf
  rw [← map_fst_joined, List.map_toArray]

/-- The match at some characters, if a word was found there. -/
def matchAt? (words : List (Word α)) (span : Nat × Nat) : Option (SearchMatch α) :=
  matchOf? words.toArray ((joined words).toArray.extract span.1 span.2).toList

theorem matchesAt_eq (words : List (Word α)) (spans : List (Nat × Nat))
    : matchesAt words spans = spans.filterMap (matchAt? words) := rfl

/-- The words that characters belong to. -/
def wordsAt (words : List (Word α)) (span : Nat × Nat) : List Nat :=
  (((joined words).extract span.1 span.2).filterMap (·.2)).eraseReps

section WordsAt

variable {words : List (Word α)} {span : Nat × Nat}

omit [Scalar α]

theorem mem_wordsAt {i : Nat}
    : i ∈ wordsAt words span ↔ Meets (extent charCount words i) span := by
  unfold wordsAt
  rw [mem_eraseReps, List.mem_filterMap, meets_iff]
  simp only [← owner?_joined_eq_some_iff]
  constructor
  . rintro ⟨c, hmem, howner⟩
    obtain ⟨k, hk⟩ := List.mem_iff_getElem?.mp hmem
    rw [List.extract_eq_take_drop, List.getElem?_take] at hk
    split at hk
    . next hlt =>
      rw [List.getElem?_drop] at hk
      refine ⟨span.1 + k, ?_, by omega⟩
      rw [owner?, hk]
      exact howner
    . contradiction
  . rintro ⟨k, howner, hlow, hhigh⟩
    obtain ⟨c, hc, hword⟩ := Option.bind_eq_some_iff.mp howner
    refine ⟨c, List.mem_iff_getElem?.mpr ⟨k - span.1, ?_⟩, hword⟩
    rw [List.extract_eq_take_drop, List.getElem?_take, if_pos (by omega), List.getElem?_drop,
      Nat.add_sub_cancel' hlow]
    exact hc

theorem pairwise_lt_wordsAt : (wordsAt words span).Pairwise (· < ·) := by
  apply pairwise_lt_eraseReps
  rw [List.pairwise_filterMap]
  have hsublist : List.Sublist ((joined words).extract span.1 span.2) (joined words) := by
    rw [List.extract_eq_take_drop]
    exact (List.take_sublist _ _).trans (List.drop_sublist _ _)
  refine List.Pairwise.sublist hsublist ?_
  rw [List.pairwise_iff_getElem]
  intro k l hk hl hkl i hi j hj
  apply owner?_joined_le (Nat.le_of_lt hkl)
  . unfold owner?
    rw [List.getElem?_eq_getElem hk]
    exact hi
  . unfold owner?
    rw [List.getElem?_eq_getElem hl]
    exact hj

theorem lt_length_of_mem_wordsAt {i : Nat} (h : i ∈ wordsAt words span) : i < words.length := by
  apply Nat.lt_of_not_le
  intro hle
  rw [mem_wordsAt, Meets] at h
  unfold extent at h
  rw [List.getElem?_eq_none hle] at h
  dsimp only [Option.elim_none] at h
  omega

/-- The words are those with a byte among the bytes of the characters. -/
theorem mem_wordsAt_iff (hspan : span.1 ≤ span.2 ∧ span.2 ≤ (searched words).length) {i : Nat}
    : i ∈ wordsAt words span ↔
        i < words.length ∧ Meets (wordBytes words i) (spanBytes words span) := by
  constructor
  . intro h
    have hi := lt_length_of_mem_wordsAt h
    exact ⟨hi, (meets_bytes_iff hspan hi).mpr (mem_wordsAt.mp h)⟩
  . rintro ⟨hi, hmeets⟩
    exact mem_wordsAt.mpr ((meets_bytes_iff hspan hi).mp hmeets)

theorem map_box_wordsAt (words : List (Word α)) (span : Nat × Nat)
    : (wordsAt words span).map (fun i => (words[i]?).map Word.box) =
        (((wordsAt words span).filterMap (words[·]?)).map Word.box).map some := by
  have hvalid : ∀ i ∈ wordsAt words span, i < words.length :=
    fun i hi => lt_length_of_mem_wordsAt hi
  generalize wordsAt words span = touched at hvalid ⊢
  induction touched with
  | nil => rfl
  | cons i rest ih =>
    have hi := List.getElem?_eq_getElem (hvalid i List.mem_cons_self)
    rw [List.map_cons, ih fun j hj => hvalid j (List.mem_cons_of_mem i hj),
      List.filterMap_cons_some hi, hi]
    rfl

end WordsAt

/-- The smaller of two edges, the second where the first is not a number. -/
def lowerEdge (e f : α) : α := if f < e ∨ (e == e) = false then f else e

/-- The larger of two edges, the second where the first is not a number. -/
def upperEdge (e f : α) : α := if e < f ∨ (e == e) = false then f else e

/-- A box whose edges are the outermost ones of other boxes, gathered one after another. -/
structure Encloses (box first : Box α) (rest : List (Box α)) : Prop where
  left : box.x0 = (rest.map Box.x0).foldl lowerEdge first.x0
  bottom : box.y0 = (rest.map Box.y0).foldl lowerEdge first.y0
  right : box.x1 = (rest.map Box.x1).foldl upperEdge first.x1
  top : box.y1 = (rest.map Box.y1).foldl upperEdge first.y1

theorem encloses_foldl_union (first : Box α) (rest : List (Box α))
    : Encloses (rest.foldl Box.union first) first rest := by
  induction rest generalizing first with
  | nil => exact ⟨rfl, rfl, rfl, rfl⟩
  | cons box rest ih =>
    obtain ⟨hleft, hbottom, hright, htop⟩ := ih (first.union box)
    have hunion
        : first.union box
            =
          ⟨lowerEdge first.x0 box.x0, lowerEdge first.y0 box.y0, upperEdge first.x1 box.x1,
            upperEdge first.y1 box.y1⟩ := by
      simp [Box.union, Scalar.least, Scalar.greatest, Scalar.isNaN, lowerEdge, upperEdge]
    rw [hunion] at hleft hbottom hright htop
    rw [List.foldl_cons, hunion]
    exact ⟨hleft, hbottom, hright, htop⟩

/-- What a match names: the words that it touches, in their order, and the box around them. -/
structure Names (words : List (Word α)) (span : Nat × Nat) (m : SearchMatch α) : Prop where
  text : m.text = String.ofList ((searched words).extract span.1 span.2)
  touched : ∀ i, i ∈ m.words ↔
    i < words.length ∧ Meets (wordBytes words i) (spanBytes words span)
  rising : m.words.Pairwise (· < ·)
  box : ∃ first rest, m.words.map (fun i => (words[i]?).map Word.box) = (first :: rest).map some ∧
    Encloses m.box first rest

/-- Whether a word has a byte among the bytes of some characters. -/
def Touches (words : List (Word α)) (span : Nat × Nat) : Prop :=
  ∃ i < words.length, Meets (wordBytes words i) (spanBytes words span)

instance (words : List (Word α)) (span : Nat × Nat) : Decidable (Touches words span) :=
  inferInstanceAs (Decidable (∃ i, i < words.length ∧ _))

/-- The matches at these characters, without those that touch no word. -/
structure Reports (words : List (Word α)) (spans : List (Nat × Nat))
    (found : List (SearchMatch α)) : Prop where
  names : List.Forall₂ (Names words) (spans.filter (Touches words)) found
  inOrder : Pattern.InOrder (searched words).length (spans.filter (Touches words))

section Match

variable {words : List (Word α)} {span : Nat × Nat}

theorem matchAt?_eq (words : List (Word α)) (span : Nat × Nat)
    : matchAt? words span =
        (boxAround? (((wordsAt words span).filterMap (words[·]?)).map Word.box)).map fun box =>
          ⟨String.ofList ((searched words).extract span.1 span.2), box, wordsAt words span⟩ := by
  have htext : ((joined words).extract span.1 span.2).map (·.1) =
      (searched words).extract span.1 span.2 := by
    rw [List.extract_eq_take_drop, List.map_take, List.map_drop, map_fst_joined,
      List.extract_eq_take_drop]
  unfold matchAt? matchOf?
  rw [Array.toList_extract, htext]
  simp only [List.getElem?_toArray]
  rfl

/-- A match is found where words are, and names them. -/
theorem matchAt?_of_touches (hspan : span.1 ≤ span.2 ∧ span.2 ≤ (searched words).length)
    (h : Touches words span) : ∃ m, matchAt? words span = some m ∧ Names words span m := by
  obtain ⟨i, hi⟩ := h
  have hmem := (mem_wordsAt_iff hspan).mpr hi
  have hboxes := map_box_wordsAt words span
  rw [matchAt?_eq]
  cases hcase : ((wordsAt words span).filterMap (words[·]?)).map Word.box with
  | nil =>
    rw [hcase, List.map_nil, List.map_eq_nil_iff] at hboxes
    rw [hboxes] at hmem
    contradiction
  | cons first rest =>
    rw [hcase] at hboxes
    exact ⟨_, rfl, rfl, fun i => mem_wordsAt_iff hspan, pairwise_lt_wordsAt, first, rest, hboxes,
      encloses_foldl_union first rest⟩

theorem matchAt?_of_not_touches (hspan : span.1 ≤ span.2 ∧ span.2 ≤ (searched words).length)
    (h : ¬Touches words span) : matchAt? words span = none := by
  have hnil : wordsAt words span = [] := by
    rw [List.eq_nil_iff_forall_not_mem]
    exact fun i hi => h ⟨i, (mem_wordsAt_iff hspan).mp hi⟩
  rw [matchAt?_eq, hnil]
  rfl

end Match

theorem reports_matchesAt {words : List (Word α)} {spans : List (Nat × Nat)}
    (h : Pattern.InOrder (searched words).length spans)
    : Reports words spans (matchesAt words spans) := by
  refine ⟨?_, fun s hs => h.bounded s (List.mem_of_mem_filter hs), h.increasing.filter _⟩
  have hbounded := h.bounded
  rw [matchesAt_eq]
  clear h
  induction spans with
  | nil => exact .nil
  | cons span rest ih =>
    obtain ⟨hspan, hrest⟩ := List.forall_mem_cons.mp hbounded
    by_cases htouches : Touches words span
    . obtain ⟨m, hm, hnames⟩ := matchAt?_of_touches hspan htouches
      rw [List.filter_cons, if_pos (decide_eq_true htouches), List.filterMap_cons_some hm]
      exact .cons hnames (ih hrest)
    . have hnone := matchAt?_of_not_touches hspan htouches
      rw [List.filter_cons, if_neg (by simpa using htouches), List.filterMap_cons_none hnone]
      exact ih hrest

omit [Scalar α] in
/-- A word that is not empty meets what words on both its sides meet. -/
theorem meets_extent_of_between (size : Word α → Nat) {words : List (Word α)} {t : Nat × Nat}
    {i j k : Nat} {w : Word α} (hw : words[j]? = some w) (hpositive : 0 < size w) (hij : i ≤ j)
    (hjk : j ≤ k) (hi : Meets (extent size words i) t) (hk : Meets (extent size words k) t)
    : Meets (extent size words j) t := by
  rcases Nat.lt_or_eq_of_le hij with hij | rfl
  . rcases Nat.lt_or_eq_of_le hjk with hjk | rfl
    . have hstart := extent_le_extent size words hij
      have hstop := extent_le_extent size words hjk
      rw [extent_eq size hw] at hstart hstop ⊢
      unfold Meets at hi hk ⊢
      dsimp only at hstart hstop ⊢
      omega
    . exact hk
  . exact hi

/-- A search lists what its pattern finds. -/
theorem search?_eq {options : SearchOptions} {text : String} {p : Pattern}
    (hp : pattern? options text = some p) (htext : text ≠ "") (words : List (Word α))
    : search? options text words =
        some (matchesAt words (p.findAll (searched words).toArray)) := by
  unfold search?
  rw [← matchesOf_eq, hp]
  cases words with
  | nil =>
    have hnone : ∀ span, matchAt? ([] : List (Word α)) span = none := by
      intro span
      rw [matchAt?_eq]
      simp [wordsAt, joined_eq, boxAround?]
    rw [matchesOf_eq, matchesAt_eq, List.filterMap_eq_nil_iff.mpr fun span _ => hnone span]
    rfl
  | cons w rest =>
    rw [List.isEmpty_cons, Bool.false_or, if_neg (mt String.isEmpty_iff.mp htext)]
    rfl

/-- From a first to a last word without a gap. -/
def IsRun (words : List (Word α)) (l : List Nat) : Prop :=
  ∃ first last, first ≤ last ∧ last < words.length ∧ l = List.range' first (last + 1 - first)

theorem Names.isRun {words : List (Word α)} {span : Nat × Nat} {m : SearchMatch α}
    (h : Names words span m) (hwords : ∀ w ∈ words, w.text ≠ "") : IsRun words m.words := by
  have hnonempty : m.words ≠ [] := by
    intro hnil
    obtain ⟨first, rest, hboxes, _⟩ := h.box
    rw [hnil] at hboxes
    contradiction
  have hfull : ∀ i ∈ m.words, ∀ k ∈ m.words, ∀ j, i ≤ j → j ≤ k → j ∈ m.words := by
    intro i hi k hk j hij hjk
    obtain ⟨_, hi⟩ := (h.touched i).mp hi
    obtain ⟨hlength, hk⟩ := (h.touched k).mp hk
    have hj : j < words.length := Nat.lt_of_le_of_lt hjk hlength
    have hpositive : 0 < words[j].text.utf8ByteSize := by
      apply Nat.pos_of_ne_zero
      rw [Ne, String.utf8ByteSize_eq_zero_iff]
      exact hwords words[j] (List.getElem_mem hj)
    exact (h.touched j).mpr ⟨hj, meets_extent_of_between _ (List.getElem?_eq_getElem hj) hpositive
      hij hjk hi hk⟩
  obtain ⟨first, n, hrun⟩ := exists_eq_range' hnonempty h.rising hfull
  refine ⟨first, first + n, Nat.le_add_right first n, ?_, ?_⟩
  . have hlast : first + n ∈ m.words := by
      rw [hrun, List.mem_range'_1]
      omega
    exact ((h.touched _).mp hlast).1
  . rw [hrun]
    congr 1
    omega

/-- What holds of each match at one of the places holds of all that is found. -/
theorem Reports.forall_mem {words : List (Word α)} {spans : List (Nat × Nat)}
    {found : List (SearchMatch α)} (h : Reports words spans found) {P : SearchMatch α → Prop}
    (hP : ∀ span ∈ spans, ∀ m, Names words span m → P m) : ∀ m ∈ found, P m := by
  have hnames := h.names
  have htouching : ∀ span ∈ spans.filter (Touches words), ∀ m, Names words span m → P m :=
    fun span hspan => hP span (List.mem_of_mem_filter hspan)
  generalize spans.filter (fun s => decide (Touches words s)) = touching at hnames htouching
  clear h
  induction hnames with
  | nil =>
    intro m hm
    contradiction
  | cons hfirst _ ih =>
    obtain ⟨hspan, hrest⟩ := List.forall_mem_cons.mp htouching
    exact List.forall_mem_cons.mpr ⟨hspan _ hfirst, ih hrest⟩

/--
Matches in order name the words that they touch, whatever looked for them, and the matches of a
pattern are in order.
-/
theorem search?_names_touched {words : List (Word α)} (hwords : ∀ w ∈ words, w.text ≠ "")
    : (∀ spans, Pattern.InOrder (searched words).length spans →
        Reports words spans (matchesAt words spans) ∧
          ∀ m ∈ matchesAt words spans, IsRun words m.words) ∧
      ∀ options text p, text ≠ "" → pattern? options text = some p →
        ∃ found, search? options text words = some found ∧
          Reports words (p.findAll (searched words).toArray) found ∧
            ∀ m ∈ found, IsRun words m.words := by
  have hat : ∀ spans, Pattern.InOrder (searched words).length spans →
      Reports words spans (matchesAt words spans) ∧
        ∀ m ∈ matchesAt words spans, IsRun words m.words := by
    intro spans hspans
    have hreports := reports_matchesAt hspans
    exact ⟨hreports, hreports.forall_mem fun _ _ _ hnames => hnames.isRun hwords⟩
  refine ⟨hat, fun options text p htext hp => ?_⟩
  exact ⟨_, search?_eq hp htext words, hat _ (Pattern.inOrder_findAll p _)⟩

/-- Two words, the second one with a letter of two bytes. -/
def accented : List (Word Float) :=
  [⟨"ab", [], ⟨0.0, 0.0, 10.0, 12.0⟩, 3.0, 12.0, .right, .horizontal, [0.0, 5.0, 10.0], 0⟩,
    ⟨"ü", [], ⟨14.0, 0.0, 20.0, 12.0⟩, 3.0, 12.0, .right, .horizontal, [14.0, 20.0], 1⟩]

theorem search?_names_touched_accented
    : (∀ w ∈ accented, w.text ≠ "") ∧
      (Pattern.InOrder (searched accented).length [(0, 1), (2, 3), (3, 4)] ∧
        Reports accented [(0, 1), (2, 3), (3, 4)]
          (matchesAt accented [(0, 1), (2, 3), (3, 4)])) ∧
      ∃ p, pattern? { regex := true } "b.ü" = some p ∧
        ∃ found, search? { regex := true } "b.ü" accented = some found ∧
          Reports accented (p.findAll (searched accented).toArray) found ∧
            ∀ m ∈ found, IsRun accented m.words := by
  have hwords : ∀ w ∈ accented, w.text ≠ "" := by simp [accented]
  have horder : Pattern.InOrder (searched accented).length [(0, 1), (2, 3), (3, 4)] :=
    ⟨by decide, by decide⟩
  obtain ⟨hat, hsearch⟩ := search?_names_touched hwords
  exact ⟨hwords, ⟨horder, (hat _ horder).1⟩, _, rfl, hsearch _ _ _ (by decide) rfl⟩

end Galley.Search
