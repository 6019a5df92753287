import Mathlib.Data.List.SplitBy
import Mathlib.Tactic.Linarith
import Galley.Proofs.Column.Runs

/-!
This module contains how gaps are joined and chosen: neighbouring gaps that are near one another
become one, and of many gaps the widest are kept.
-/

namespace Galley

namespace Gap

section Join

variable {α : Type} [Scalar α]

/-- Whether the facing ends of two neighbouring gaps are less than `minGap` apart. -/
def isNear (minGap : α) (g h : Gap α) : Bool := decide (h.start - g.stop < minGap)

/-- From the start of the first of these gaps to the end of the last one. -/
def hull? (block : List (Gap α)) : Option (Gap α) :=
  match block.head?, block.getLast? with
  | some g, some h => some (between g.start h.stop)
  | _, _ => none

/-- Neighbouring gaps as one, as long as each is near the next. -/
def joined (minGap : α) (gaps : List (Gap α)) : List (Gap α) :=
  (gaps.splitBy (isNear minGap)).filterMap hull?

/-- Gaps that are as wide as they say. -/
def Measured (gaps : List (Gap α)) : Prop := ∀ g ∈ gaps, g = between g.start g.stop

theorem hull?_eq_some {block : List (Gap α)} {first last : Gap α}
    (hfirst : block.head? = some first)
    (hlast : block.getLast? = some last) : hull? block = some (between first.start last.stop) := by
  unfold hull?
  rw [hfirst, hlast]

/-- Gaps that are near one another make up one gap. -/
theorem joined_of_isChain {minGap : α} {first last : Gap α} {block : List (Gap α)}
    (hfirst : block.head? = some first) (hlast : block.getLast? = some last)
    (hchain : block.IsChain fun g h => isNear minGap g h = true)
    : joined minGap block = [between first.start last.stop] := by
  have hne : block ≠ [] := by
    rintro rfl
    contradiction
  unfold joined
  rw [List.splitBy_of_isChain hne hchain, List.filterMap_cons, hull?_eq_some hfirst hlast]
  rfl

theorem joined_append_cons {minGap : α} {last next : Gap α} {block : List (Gap α)}
    (hlast : block.getLast? = some last) (hfar : isNear minGap last next = false)
    (rest : List (Gap α))
    : joined minGap (block ++ next :: rest)
        =
      joined minGap block ++ joined minGap (next :: rest) := by
  unfold joined
  rw [List.splitBy_append_cons, List.filterMap_append]
  intro g hg
  rw [hlast, Option.mem_some_iff] at hg
  rw [← hg]
  exact hfar

theorem join_go_eq_joined {minGap : α} {first last : Gap α} {block rest : List (Gap α)}
    (hfirst : block.head? = some first) (hlast : block.getLast? = some last)
    (hchain : block.IsChain fun g h => isNear minGap g h = true) (hrest : Measured rest)
    : join.go minGap (between first.start last.stop) rest = joined minGap (block ++ rest) := by
  induction rest generalizing block last first with
  | nil => rw [List.append_nil, joined_of_isChain hfirst hlast hchain, join.go]
  | cons next rest ih =>
    obtain ⟨hnext, hrest⟩ := List.forall_mem_cons.mp hrest
    unfold join.go
    cases hnear : isNear minGap last next with
    | true =>
      have hlt : next.start - (between first.start last.stop).stop < minGap :=
        of_decide_eq_true hnear
      have hfirst' : (block ++ [next]).head? = some first := by
        rw [List.head?_append, hfirst]
        rfl
      rw [if_pos hlt, List.append_cons]
      apply ih hfirst' List.getLast?_concat _ hrest
      . rw [List.isChain_append]
        refine ⟨hchain, List.isChain_singleton _, ?_⟩
        intro g hg h hh
        rw [hlast, Option.mem_some_iff] at hg
        rw [List.head?_singleton, Option.mem_some_iff] at hh
        rw [← hg, ← hh]
        exact hnear
    | false =>
      have hge : ¬ next.start - (between first.start last.stop).stop < minGap :=
        of_decide_eq_false hnear
      have hgo : join.go minGap (between next.start next.stop) rest =
          joined minGap ([next] ++ rest) := ih rfl rfl (List.isChain_singleton next) hrest
      rw [← hnext] at hgo
      rw [if_neg hge, joined_append_cons hlast hnear, joined_of_isChain hfirst hlast hchain, hgo]
      rfl

theorem join_eq_joined (minGap : α) {gaps : List (Gap α)} (h : Measured gaps)
    : join minGap gaps = joined minGap gaps := by
  cases gaps with
  | nil => rfl
  | cons g rest =>
    obtain ⟨hg, hrest⟩ := List.forall_mem_cons.mp h
    have hgo : join.go minGap (between g.start g.stop) rest = joined minGap ([g] ++ rest) :=
      join_go_eq_joined rfl rfl (List.isChain_singleton g) hrest
    rw [← hg] at hgo
    exact hgo

/-- A joined gap is the hull of some neighbouring gaps. -/
theorem exists_block {minGap : α} {gaps : List (Gap α)} {g : Gap α} (hg : g ∈ joined minGap gaps)
    : ∃ block first last, block <:+: gaps ∧ block.head? = some first ∧ block.getLast? = some last ∧
        (block.IsChain fun g h => isNear minGap g h = true) ∧
          g = between first.start last.stop := by
  obtain ⟨block, hblock, hhull⟩ := List.mem_filterMap.mp hg
  have hinfix : block <:+: gaps := by
    obtain ⟨before, behind, hsplit⟩ := List.append_of_mem hblock
    refine ⟨before.flatten, behind.flatten, ?_⟩
    rw [← List.flatten_splitBy (isNear minGap) gaps, hsplit, List.flatten_append,
      List.flatten_cons, List.append_assoc]
  unfold hull? at hhull
  split at hhull
  . next first last hfirst hlast =>
    injection hhull with hhull
    have hchain := List.isChain_of_mem_splitBy hblock
    exact ⟨block, first, last, hinfix, hfirst, hlast, hchain, hhull.symm⟩
  . contradiction

end Join

section Apart

/-- Gaps in order, none narrower than a width and none closer than that to the next. -/
structure Apart (minGap : ℝ) (gaps : List (Gap ℝ)) : Prop where
  pairwise : gaps.Pairwise fun g h => minGap ≤ h.start - g.stop
  wide : ∀ g ∈ gaps, minGap ≤ g.stop - g.start

variable {minGap : ℝ} {g : Gap ℝ} {gaps kept rest : List (Gap ℝ)}

theorem Apart.sublist (h : Apart minGap gaps) (hsublist : kept.Sublist gaps)
    : Apart minGap kept where
  pairwise := h.pairwise.sublist hsublist
  wide := fun g hg => h.wide g (hsublist.subset hg)

theorem Apart.pairwise_start (h : Apart minGap gaps) (hpos : 0 < minGap)
    : gaps.Pairwise fun g h => g.start < h.start := by
  apply h.pairwise.imp_of_mem
  intro g k hg _ hapart
  have hwide := h.wide g hg
  linarith

theorem apart_join_go (hpos : 0 < minGap)
    (hordered : (g :: rest).Pairwise fun g h => g.stop ≤ h.start)
    (hwide : ∀ k ∈ g :: rest, minGap ≤ k.stop - k.start)
    : Apart minGap (join.go minGap g rest) ∧ ∀ k ∈ join.go minGap g rest, g.start ≤ k.start := by
  induction rest generalizing g with
  | nil =>
    unfold join.go
    exact ⟨⟨List.pairwise_singleton .., hwide⟩, by simp⟩
  | cons next rest ih =>
    obtain ⟨hbefore, hrest⟩ := List.pairwise_cons.mp hordered
    have hnext := hbefore next (by simp)
    rw [List.forall_mem_cons, List.forall_mem_cons] at hwide
    obtain ⟨hg, hwidenext, hwiderest⟩ := hwide
    unfold join.go
    split
    . apply ih
      . exact List.pairwise_cons.mpr (List.pairwise_cons.mp hrest)
      . refine List.forall_mem_cons.mpr ⟨?_, hwiderest⟩
        change minGap ≤ next.stop - g.start
        linarith
    . next hfar =>
      obtain ⟨hapart, hbehind⟩ := ih hrest (List.forall_mem_cons.mpr ⟨hwidenext, hwiderest⟩)
      rw [not_lt] at hfar
      refine ⟨⟨List.pairwise_cons.mpr ⟨?_, hapart.pairwise⟩, ?_⟩, ?_⟩
      . intro k hk
        have hle := hbehind k hk
        linarith
      . exact List.forall_mem_cons.mpr ⟨hg, hapart.wide⟩
      . refine List.forall_mem_cons.mpr ⟨le_rfl, ?_⟩
        intro k hk
        have hle := hbehind k hk
        linarith

theorem apart_join (hpos : 0 < minGap) (hordered : gaps.Pairwise fun g h => g.stop ≤ h.start)
    (hwide : ∀ g ∈ gaps, minGap ≤ g.stop - g.start) : Apart minGap (join minGap gaps) := by
  cases gaps with
  | nil => exact ⟨.nil, by simp [join]⟩
  | cons g rest => exact (apart_join_go hpos hordered hwide).1

end Apart

section Flank

/-- Whether two gaps are neighbours within a third one and near one another. -/
structure Flank (minGap : ℝ) (gaps : List (Gap ℝ)) (g r s : Gap ℝ) : Prop where
  neighbours : [r, s] <:+: gaps
  near : s.start - r.stop < minGap
  start_le : g.start ≤ r.start
  le_stop : s.stop ≤ g.stop

variable {minGap x : ℝ} {first last : Gap ℝ} {block : List (Gap ℝ)}

theorem stop_le_getLast (hlast : block.getLast? = some last)
    (hordered : block.Pairwise fun g h => g.stop ≤ h.start)
    (hproper : ∀ g ∈ block, g.start ≤ g.stop) : ∀ g ∈ block, g.stop ≤ last.stop := by
  obtain ⟨before, rfl⟩ := List.getLast?_eq_some_iff.mp hlast
  intro g hg
  rcases List.mem_append.mp hg with hbefore | hg
  . have hle := (List.pairwise_append.mp hordered).2.2 g hbefore last (by simp)
    exact hle.trans (hproper last (by simp))
  . rw [List.mem_singleton.mp hg]

/-- A point between the ends of near gaps and in none of them is between two neighbours. -/
theorem exists_flank (hfirst : block.head? = some first) (hlast : block.getLast? = some last)
    (hchain : block.IsChain fun g h => isNear minGap g h = true)
    (hordered : block.Pairwise fun g h => g.stop ≤ h.start)
    (hproper : ∀ g ∈ block, g.start ≤ g.stop) (hout : ∀ g ∈ block, x ∉ Set.Ioo g.start g.stop)
    (hstart : first.start < x) (hstop : x < last.stop)
    : ∃ r s, Flank minGap block (between first.start last.stop) r s ∧ r.stop ≤ x ∧ x ≤ s.start := by
  induction block generalizing first with
  | nil => contradiction
  | cons g rest ih =>
    rw [List.head?_cons, Option.some_inj] at hfirst
    subst hfirst
    have hbehind : g.stop ≤ x := by
      by_contra hlt
      exact hout g (by simp) ⟨hstart, not_le.mp hlt⟩
    cases rest with
    | nil =>
      rw [List.getLast?_singleton, Option.some_inj] at hlast
      rw [← hlast] at hstop
      exact absurd hbehind hstop.not_ge
    | cons next rest =>
      obtain ⟨hnear, hchain⟩ := List.isChain_cons_cons.mp hchain
      rcases le_or_gt x next.start with hle | hlt
      . refine ⟨g, next, ⟨⟨[], rest, rfl⟩, of_decide_eq_true hnear, le_rfl, ?_⟩, hbehind, hle⟩
        exact stop_le_getLast hlast hordered hproper next (by simp)
      . rw [List.getLast?_cons_cons] at hlast
        obtain ⟨hbefore, hordered⟩ := List.pairwise_cons.mp hordered
        rw [List.forall_mem_cons] at hproper hout
        obtain ⟨r, s, hflank, hr, hs⟩ := ih rfl hlast hchain hordered hproper.2 hout.2 hlt
        refine ⟨r, s, ⟨List.infix_cons hflank.neighbours, hflank.near, ?_, hflank.le_stop⟩, hr, hs⟩
        exact (hproper.1.trans (hbefore next (by simp))).trans hflank.start_le

end Flank

section Best

/-- The `n` widest of these gaps, or all when there are no more, in the same order. Of two that are
equally wide the one farther left is taken first. -/
structure IsWidest (n : ℕ) (gaps kept : List (Gap ℝ)) : Prop where
  sublist : kept.Sublist gaps
  length : kept.length = min n gaps.length
  wider : ∀ g ∈ kept, ∀ h ∈ gaps, h ∉ kept →
    h.width < g.width ∨ h.width = g.width ∧ g.start < h.start

theorem preferred_iff (g h : Gap ℝ)
    : preferred g h = true ↔ h.width < g.width ∨ h.width = g.width ∧ g.start ≤ h.start :=
  (Scalar.order_lexicographic (h.width, g.start) (g.width, h.start)).trans
    Prod.Lex.toLex_le_toLex

theorem pairwise_mergeSort_preferred (gaps : List (Gap ℝ))
    : (gaps.mergeSort preferred).Pairwise fun g h => preferred g h = true := by
  have hkey : ∀ g h : Gap ℝ, preferred g h = true ↔
      toLex (-g.width, g.start) ≤ toLex (-h.width, h.start) := by
    intro g h
    rw [preferred_iff, Prod.Lex.toLex_le_toLex]
    simp [eq_comm]
  exact (Scalar.pairwise_mergeSort_of_key _ hkey gaps).imp fun h => (hkey _ _).mpr h

/-- Of gaps in order the preferred ones, in order again, are some of them in the same order. -/
theorem sublist_of_subperm {gaps kept : List (Gap ℝ)}
    (hgaps : gaps.Pairwise fun g h => g.start < h.start) (hsubperm : kept.Subperm gaps)
    (hkept : kept.Pairwise fun g h => g.start ≤ h.start) : kept.Sublist gaps := by
  have hne : kept.Pairwise fun g h => g.start ≠ h.start := by
    obtain ⟨other, hperm, hsublist⟩ := hsubperm
    have hother := (hgaps.imp ne_of_lt).sublist hsublist
    exact (hperm.pairwise_iff fun h => Ne.symm h).mp hother
  have hlt : kept.Pairwise fun g h => g.start < h.start :=
    (hkept.and hne).imp fun h => lt_of_le_of_ne h.1 h.2
  have : Std.Antisymm fun g h : Gap ℝ => g.start < h.start := ⟨fun _ _ h h' => absurd h' h.not_gt⟩
  exact List.sublist_of_subperm_of_pairwise hsubperm hlt hgaps

theorem isWidest_keepBest (n : ℕ) {gaps : List (Gap ℝ)}
    (hgaps : gaps.Pairwise fun g h => g.start < h.start) : IsWidest n gaps (keepBest n gaps) := by
  unfold keepBest
  split
  . next hall =>
    exact ⟨.refl gaps, (Nat.min_eq_right hall).symm, fun g _ h hh hne => absurd hh hne⟩
  . next hmore =>
    have hsorted := List.mergeSort_perm gaps preferred
    have hkept := List.mergeSort_perm ((gaps.mergeSort preferred).take n)
      fun g h => Scalar.order g.start h.start != .gt
    have hsubperm := (hkept.subperm.trans (List.take_sublist _ _).subperm).trans hsorted.subperm
    have hsublist := sublist_of_subperm hgaps hsubperm
      (Scalar.pairwise_mergeSort_of_key Gap.start (fun g h => Scalar.order_bne_gt _ _) _)
    refine ⟨hsublist, ?_, ?_⟩
    . rw [List.length_mergeSort, List.length_take, List.length_mergeSort]
    . intro g hg h hh hdropped
      have hpreferred := pairwise_mergeSort_preferred gaps
      have hdrop : h ∈ (gaps.mergeSort preferred).drop n := by
        rw [← hsorted.mem_iff, ← List.take_append_drop n (gaps.mergeSort preferred),
          List.mem_append] at hh
        exact hh.resolve_left fun htake => hdropped (hkept.mem_iff.mpr htake)
      rw [← List.take_append_drop n (gaps.mergeSort preferred)] at hpreferred
      have hgh := (List.pairwise_append.mp hpreferred).2.2 g (hkept.mem_iff.mp hg) h hdrop
      rcases (preferred_iff g h).mp hgh with hlt | ⟨heq, hle⟩
      . exact .inl hlt
      . right
        refine ⟨heq, lt_of_le_of_ne hle ?_⟩
        intro hstart
        have hdistinct : (gaps.map Gap.start).Nodup := List.pairwise_map.mpr (hgaps.imp ne_of_lt)
        have hsame := List.inj_on_of_nodup_map hdistinct (hsublist.subset hg) hh hstart
        exact hdropped (hsame ▸ hg)

end Best

end Gap

end Galley
