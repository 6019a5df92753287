import Galley.Proofs.Regex.Positions
import Galley.Regex.Parser

/-!
This module contains patterns that stand for a text: each is read as the characters of the text, and
its matches are the places where the text is found from left to right.
-/

namespace Galley.Regex

namespace Parser

theorem escape?_meta {c : Char} (h : metaCharacters.contains c = true) (rest : List Char)
    : escape? (c :: rest) = some (.literal c, rest) := by
  unfold escape?
  dsimp only
  rw [if_pos]
  unfold isEscapable
  rw [h, Bool.true_or]

theorem repetition_eq_none {c : Char} (h : c ∉ ['?', '*', '+', '\x7b']) (rest : List Char)
    : repetition (c :: rest) = none := by
  unfold repetition
  split
  all_goals first | rfl | (next heq => cases heq; simp at h)

section Quoted

variable {flags : Flags} (hverbose : flags.verbose = false)
include hverbose

theorem skipVerbose_eq (cs : List Char) : skipVerbose flags cs = cs := by
  unfold skipVerbose
  rw [hverbose, if_neg (by decide)]

variable (fuel : Nat) (done : List Pattern) (parts : List (Option Pattern))

theorem alternatives?_meta {c : Char} (h : metaCharacters.contains c = true) (rest : List Char)
    : alternatives? (fuel + 1) flags done parts ('\\' :: c :: rest) =
        alternatives? fuel flags done (some (setPattern flags (.single c)) :: parts) rest := by
  have hrepetition : repetition ('\\' :: c :: rest) = none := repetition_eq_none (by decide) _
  rw [alternatives?]
  dsimp only
  rw [skipVerbose_eq hverbose, hrepetition]
  simp only [escape?_meta h]

theorem alternatives?_not_meta {c : Char} (h : metaCharacters.contains c = false)
    (rest : List Char)
    : alternatives? (fuel + 1) flags done parts (c :: rest) =
        alternatives? fuel flags done (some (setPattern flags (.single c)) :: parts) rest := by
  have hplain : c ∉ metaCharacters := by
    rw [List.contains_eq_mem, decide_eq_false_iff_not] at h
    exact h
  have hrepetition : repetition (c :: rest) = none := by
    apply repetition_eq_none
    have hmarks : ['?', '*', '+', '\x7b'] ⊆ metaCharacters := by decide
    exact fun hc => hplain (hmarks hc)
  rw [alternatives?]
  dsimp only
  rw [skipVerbose_eq hverbose, hrepetition]
  dsimp only
  split
  case h_10 heq =>
    injection heq with hc hrest
    rw [hc, hrest]
  all_goals
    next heq =>
      cases heq
      try exact absurd (by decide) hplain

/-- Quoted characters are read one by one. -/
theorem alternatives?_quoted (text : List Char) (h : text.length < fuel)
    : alternatives? fuel flags done parts
          (text.flatMap fun c => if metaCharacters.contains c then ['\\', c] else [c]) =
        some (choice done (sequence
          ((text.map fun c => some (setPattern flags (.single c))).reverse ++ parts)), []) := by
  induction text generalizing fuel parts with
  | nil =>
    cases fuel with
    | zero => contradiction
    | succ fuel =>
      rw [alternatives?]
      dsimp only [List.flatMap_nil]
      rw [skipVerbose_eq hverbose]
      rfl
  | cons c rest ih =>
    cases fuel with
    | zero => contradiction
    | succ fuel =>
      have hrest := ih fuel (some (setPattern flags (.single c)) :: parts)
        (Nat.lt_of_succ_lt_succ h)
      rw [List.map_cons, List.reverse_cons, List.append_assoc, List.singleton_append, ← hrest,
        List.flatMap_cons]
      cases hc : metaCharacters.contains c with
      | true =>
        rw [if_pos rfl]
        exact alternatives?_meta hverbose fuel done parts hc _
      | false =>
        rw [if_neg (by decide)]
        exact alternatives?_not_meta hverbose fuel done parts hc _

end Quoted
end Parser

theorem length_le_length_escape (text : String)
    : text.toList.length ≤ (escape text).toList.length := by
  unfold escape
  rw [String.toList_ofList]
  induction text.toList with
  | nil => exact Nat.le_refl 0
  | cons c rest ih =>
    rw [List.flatMap_cons, List.length_append, List.length_cons]
    have hone : 1 ≤ (if Parser.metaCharacters.contains c then ['\\', c] else [c]).length := by
      split
      . exact Nat.le_succ 1
      . exact Nat.le_refl 1
    omega

/-- What is read from a quoted text: its characters one after another. -/
theorem Pattern.parse?_escape (fold : Bool) (text : String)
    : Pattern.parse? fold (escape text) =
        some (Parser.sequence
          (text.toList.map fun c => some (Parser.setPattern { fold } (.single c))).reverse) := by
  unfold Pattern.parse?
  dsimp only
  have hfuel : text.toList.length < (escape text).toList.length + 1 :=
    Nat.lt_succ_of_le (length_le_length_escape text)
  generalize (escape text).toList.length + 1 = fuel at hfuel ⊢
  unfold escape
  rw [String.toList_ofList, Parser.alternatives?_quoted rfl fuel [] [] _ hfuel, List.append_nil]
  rfl

/-- Where a piece is found, from left to right, each time behind where it was found before. -/
def occurrences (piece : List Char) (pos : Nat) (text : List Char) : List (Nat × Nat) :=
  match text with
  | [] => []
  | c :: rest =>
    if piece <+: c :: rest then
      (pos, pos + piece.length) ::
        occurrences piece (pos + piece.length) (rest.drop (piece.length - 1))
    else occurrences piece (pos + 1) rest
termination_by text.length

example : occurrences "aa".toList 0 "aaaba".toList = [(0, 2)] := by simp [occurrences]

theorem drop_add_of_drop_eq_cons {whole rest : List Char} {c : Char} {pos n : Nat}
    (h : whole.drop pos = c :: rest) (hn : n ≠ 0)
    : whole.drop (pos + n) = rest.drop (n - 1) := by
  rw [← List.drop_drop, h]
  cases n with
  | zero => contradiction
  | succ n => rfl

theorem extract_of_mem_occurrences {piece whole : List Char} (hpiece : piece ≠ [])
    {pos : Nat} {text : List Char} (htext : whole.drop pos = text) {s : Nat × Nat}
    (h : s ∈ occurrences piece pos text) : whole.extract s.1 s.2 = piece := by
  induction pos, text using occurrences.induct piece with
  | case1 pos =>
    rw [occurrences] at h
    contradiction
  | case2 pos c rest hprefix ih =>
    rw [occurrences, if_pos hprefix] at h
    rcases List.mem_cons.mp h with rfl | h
    . rw [List.extract_eq_take_drop, htext, Nat.add_sub_cancel_left]
      exact (List.prefix_iff_eq_take.mp hprefix).symm
    . exact ih (drop_add_of_drop_eq_cons htext (mt List.length_eq_zero_iff.mp hpiece)) h
  | case3 pos c rest hprefix ih =>
    rw [occurrences, if_neg hprefix] at h
    exact ih (drop_add_of_drop_eq_cons htext Nat.one_ne_zero) h

namespace Pattern

/-- From each position a pattern reads just this text. -/
def Reads (text : Array Char) (p : Pattern) (piece : List Char) : Prop :=
  ∀ pos, p.ends text pos =
    if piece <+: text.toList.drop pos then [pos + piece.length] else []

section Reads

variable {text : Array Char}

theorem reads_empty : empty.Reads text [] := by
  intro pos
  rw [if_pos List.nil_prefix]
  rfl

theorem reads_single (c : Char) : (set (.single c)).Reads text [c] := by
  intro pos
  have hcontains : ∀ d : Char, (CharSet.single c).contains d = decide (c = d) := by
    intro d
    rw [← Bool.coe_iff_coe]
    unfold CharSet.single CharSet.contains
    rw [Bool.and_eq_true, decide_eq_true_iff, decide_eq_true_iff, decide_eq_true_iff,
      ← Nat.le_antisymm_iff]
    exact Char.toNat_inj
  unfold ends
  rw [← Array.getElem?_toList, ← List.head?_drop]
  cases text.toList.drop pos with
  | nil => rfl
  | cons d rest =>
    dsimp only [List.head?_cons]
    rw [hcontains]
    simp

theorem keepFirst_singleton (pos : Nat) : keepFirst [pos] = [pos] := by
  unfold keepFirst
  rw [List.foldl_cons, List.foldl_nil, Found.add, Found.empty, Nat.zero_testBit,
    if_neg (by decide)]
  rfl

theorem Reads.cat {p q : Pattern} {first second : List Char} (hp : p.Reads text first)
    (hq : q.Reads text second) : (p.cat q).Reads text (first ++ second) := by
  intro pos
  unfold ends
  rw [hp pos]
  by_cases hfirst : first <+: text.toList.drop pos
  . obtain ⟨rest, hrest⟩ := hfirst
    have hbehind : text.toList.drop (pos + first.length) = rest := by
      rw [← List.drop_drop, ← hrest, List.drop_left]
    rw [← hrest, if_pos (List.prefix_append first rest), List.flatMap_singleton, hq, hbehind]
    by_cases hsecond : second <+: rest
    . rw [if_pos hsecond, if_pos ((List.prefix_append_right_inj first).mpr hsecond),
        List.length_append, Nat.add_assoc]
      exact keepFirst_singleton _
    . rw [if_neg hsecond, if_neg (mt (List.prefix_append_right_inj first).mp hsecond)]
      rfl
  . have hboth : ¬first ++ second <+: text.toList.drop pos :=
      fun h => hfirst ((List.prefix_append first second).trans h)
    rw [if_neg hfirst, if_neg hboth]
    rfl

/-- Characters one after another read the text that they make up. -/
theorem reads_sequence (piece : List Char)
    : (Parser.sequence
        (piece.map fun c => some (Parser.setPattern {} (.single c))).reverse).Reads text piece := by
  have hfold : ∀ (rest : List Char) (p : Pattern) (first : List Char), p.Reads text first →
      ((rest.map fun c => Parser.setPattern {} (.single c)).foldl cat p).Reads text
        (first ++ rest) := by
    intro rest
    induction rest with
    | nil =>
      intro p first hp
      rw [List.append_nil]
      exact hp
    | cons c rest ih =>
      intro p first hp
      rw [List.append_cons]
      exact ih _ _ (hp.cat (reads_single c))
  have hsome : (id ∘ fun c => some (Parser.setPattern {} (.single c))) =
      some ∘ fun c => Parser.setPattern {} (.single c) := rfl
  unfold Parser.sequence
  rw [List.reverse_reverse, List.filterMap_map, hsome, List.filterMap_eq_map]
  cases piece with
  | nil => exact reads_empty
  | cons c rest =>
    exact hfold rest _ [c] (reads_single c)

end Reads

section Occurrences

variable {text : Array Char} {p : Pattern} {piece : List Char}
  (hreads : p.Reads text piece) (hpiece : piece ≠ [])
include hreads hpiece

/-- The leftmost match is the first occurrence, and the others are behind it. -/
theorem occurrences_of_reads {start : Nat} (hstart : start ≤ text.size)
    : occurrences piece start (text.toList.drop start) =
        match p.find? text start with
        | none => []
        | some (first, stop) =>
          (first, stop) :: occurrences piece stop (text.toList.drop stop) := by
  generalize htext : text.toList.drop start = rest
  induction start, rest using occurrences.induct piece with
  | case1 start =>
    have hnone : p.find? text start = none := by
      apply find?_eq_none_iff.mpr
      intro pos hpos _
      have hnil : text.toList.drop pos = [] := by
        rw [List.drop_eq_nil_iff] at htext ⊢
        exact Nat.le_trans htext hpos
      rw [hreads, hnil, if_neg]
      exact mt List.prefix_nil.mp hpiece
    rw [hnone, occurrences]
  | case2 start c rest hprefix ih =>
    have hends : (p.ends text start).head? = some (start + piece.length) := by
      rw [hreads, htext, if_pos hprefix, List.head?_cons]
    rw [find?_of_head?_ends hends hstart, occurrences, if_pos hprefix]
    dsimp only
    rw [drop_add_of_drop_eq_cons htext (mt List.length_eq_zero_iff.mp hpiece)]
  | case3 start c rest hprefix ih =>
    have hends : p.ends text start = [] := by rw [hreads, htext, if_neg hprefix]
    have hlt : start < text.size := by
      apply Nat.lt_of_not_le
      intro hle
      rw [← Array.length_toList, ← List.drop_eq_nil_iff, htext] at hle
      contradiction
    rw [find?_of_ends_eq_nil hends hstart, occurrences, if_neg hprefix]
    exact ih hlt (drop_add_of_drop_eq_cons htext Nat.one_ne_zero)

theorem go_of_reads (fuel start : Nat) (last : Option Nat) (hstart : start ≤ text.size)
    (hfuel : text.size - start < fuel)
    : findAll.go p text fuel start last =
        occurrences piece start (text.toList.drop start) := by
  induction fuel generalizing start last with
  | zero => contradiction
  | succ fuel ih =>
    unfold findAll.go
    rw [occurrences_of_reads hreads hpiece hstart]
    cases hfind : p.find? text start with
    | none => rfl
    | some span =>
      obtain ⟨first, stop⟩ := span
      obtain ⟨hfirst, _, hsize, hhead⟩ := bounds_of_find? hfind
      -- a piece that is not empty moves the search on
      have hmoved : first < stop := by
        rw [hreads first] at hhead
        split at hhead
        . rw [List.head?_cons, Option.some_inj] at hhead
          have hpositive := List.length_pos_iff.mpr hpiece
          omega
        . contradiction
      dsimp only
      rw [if_neg (fun h => Nat.ne_of_lt hmoved h.1), ih stop (some stop) hsize (by omega)]

/-- The matches of a pattern that reads a text are the occurrences of the text. -/
theorem findAll_of_reads : p.findAll text = occurrences piece 0 text.toList :=
  go_of_reads hreads hpiece _ 0 none (Nat.zero_le _) (by omega)

end Occurrences

end Pattern

end Galley.Regex
