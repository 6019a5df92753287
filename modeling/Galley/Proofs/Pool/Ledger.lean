import Mathlib.Data.List.Induction
import Mathlib.Order.Bounds.Basic
import Galley.Proofs.Line.Bucketing

/-!
This module contains what a pool is after any additions: its words in the stable order of their
buckets. A pool that keeps its bounds and its size beside its buckets never disagrees with them.
-/

namespace Galley

namespace Pool

section Filed

variable {α : Type} {place : Word α → Int} {buckets : List (Int × List (Word α))}

theorem Filed.lookup (h : Filed place buckets) (i : Int)
    : (buckets.lookup i).getD [] =
        (buckets.flatMap (·.2)).filter fun w => decide (place w = i) := by
  induction buckets with
  | nil => rfl
  | cons bucket rest ih =>
    obtain ⟨j, words⟩ := bucket
    obtain ⟨hlt, hown, hrest⟩ := cons_iff.mp h
    rw [List.flatMap_cons, List.filter_append, List.lookup_cons, ← ih hrest]
    by_cases hij : i = j
    . have hhere : words.filter (fun w => decide (place w = i)) = words := by
        rw [List.filter_eq_self]
        intro w hw
        rw [decide_eq_true_iff, hij]
        exact hown w hw
      have hbehind : (rest.flatMap (·.2)).filter (fun w => decide (place w = i)) = [] := by
        rw [List.filter_eq_nil_iff]
        intro w hw
        obtain ⟨b, hb, hwb⟩ := List.mem_flatMap.mp hw
        have hplace := hrest.own b hb w hwb
        have hless := hlt b hb
        rw [decide_eq_true_iff]
        omega
      rw [beq_iff_eq.mpr hij, ih hrest, hhere, hbehind, List.append_nil]
      rfl
    . have hhere : words.filter (fun w => decide (place w = i)) = [] := by
        rw [List.filter_eq_nil_iff]
        intro w hw
        rw [decide_eq_true_iff, hown w hw]
        exact Ne.symm hij
      rw [beq_eq_false_iff_ne.mpr hij, hhere, List.nil_append]

theorem Filed.pairwise_place (h : Filed place buckets)
    : (buckets.flatMap (·.2)).Pairwise fun v w => place v ≤ place w := by
  rw [List.pairwise_flatMap]
  constructor
  . intro b hb
    apply List.pairwise_of_forall_mem_list
    intro v hv w hw
    rw [h.own b hb v hv, h.own b hb w hw]
  . apply h.increasing.imp_of_mem
    intro a b ha hb hlt v hv w hw
    rw [h.own a ha v hv, h.own b hb w hw]
    exact Int.le_of_lt hlt

theorem occupied_insertAt (index : Int) (w : Word α) (h : ∀ b ∈ buckets, b.2 ≠ [])
    : ∀ b ∈ insertAt index w buckets, b.2 ≠ [] := by
  induction buckets with
  | nil => simp [insertAt]
  | cons bucket rest ih =>
    obtain ⟨i, words⟩ := bucket
    rw [List.forall_mem_cons] at h
    unfold insertAt
    split
    . rw [List.forall_mem_cons, List.forall_mem_cons]
      exact ⟨by simp, h⟩
    . split
      . rw [List.forall_mem_cons]
        exact ⟨by simp, h.2⟩
      . rw [List.forall_mem_cons]
        exact ⟨h.1, ih h.2⟩

theorem mem_map_fst_insertAt (index : Int) (w : Word α) (k : Int)
    : k ∈ (insertAt index w buckets).map Prod.fst ↔ k = index ∨ k ∈ buckets.map Prod.fst := by
  induction buckets with
  | nil => simp [insertAt]
  | cons bucket rest ih =>
    obtain ⟨i, words⟩ := bucket
    unfold insertAt
    split
    . rw [List.map_cons, List.mem_cons]
    . split
      next hhere =>
        rw [List.map_cons, List.map_cons, List.mem_cons, hhere]
        tauto
      next =>
        rw [List.map_cons, List.map_cons, List.mem_cons, List.mem_cons, ih]
        tauto

end Filed

section Bounds

variable {α : Type}

/-- The indices of the buckets that are stored. -/
def indices (p : Pool α) : Set Int := {i | i ∈ p.buckets.map Prod.fst}

theorem isGreatest_last {first : Int × List (Word α)} {rest : List (Int × List (Word α))}
    (h : (first :: rest).Pairwise fun a b => a.1 < b.1)
    : IsGreatest {i | i ∈ (first :: rest).map Prod.fst}
        ((rest.getLast?.map (·.1)).getD first.1) := by
  induction rest generalizing first with
  | nil => simp [isGreatest_singleton]
  | cons second rest ih =>
    rw [List.pairwise_cons] at h
    have hlast := ih h.2
    have hsecond := h.1 second List.mem_cons_self
    have heq : ((second :: rest).getLast?.map (·.1)).getD first.1 =
        (rest.getLast?.map (·.1)).getD second.1 := by
      rw [List.getLast?_cons]
      cases rest.getLast? <;> rfl
    rw [heq]
    refine ⟨List.mem_cons_of_mem _ hlast.1, ?_⟩
    intro i hi
    rw [Set.mem_ofPred_eq, List.map_cons, List.mem_cons] at hi
    rcases hi with hi | hi
    . have hle := hlast.2 (show second.1 ∈ _ from List.mem_cons_self)
      omega
    . exact hlast.2 hi

theorem isLeast_first {first : Int × List (Word α)} {rest : List (Int × List (Word α))}
    (h : (first :: rest).Pairwise fun a b => a.1 < b.1)
    : IsLeast {i | i ∈ (first :: rest).map Prod.fst} first.1 := by
  refine ⟨List.mem_cons_self, ?_⟩
  intro i hi
  rw [Set.mem_ofPred_eq, List.map_cons, List.mem_cons] at hi
  rcases hi with hi | hi
  . rw [hi]
  . obtain ⟨b, hb, rfl⟩ := List.mem_map.mp hi
    exact Int.le_of_lt ((List.pairwise_cons.mp h).1 b hb)

theorem bounds?_eq_some_iff {p : Pool α} (h : p.buckets.Pairwise fun a b => a.1 < b.1)
    (low high : Int)
    : p.bounds? = some (low, high) ↔ IsLeast p.indices low ∧ IsGreatest p.indices high := by
  unfold bounds? indices
  cases hbuckets : p.buckets with
  | nil => simp [IsLeast]
  | cons first rest =>
    rw [hbuckets] at h
    rw [Option.some_inj, Prod.mk.injEq]
    constructor
    . rintro ⟨rfl, rfl⟩
      exact ⟨isLeast_first h, isGreatest_last h⟩
    . rintro ⟨hlow, hhigh⟩
      exact ⟨(isLeast_first h).unique hlow, (isGreatest_last h).unique hhigh⟩

theorem bounds?_eq_none_iff (p : Pool α) : p.bounds? = none ↔ p.buckets = [] := by
  unfold bounds?
  cases p.buckets <;> simp

end Bounds

section Added

variable {α : Type} [Scalar α]

/-- The bounds with one more index. -/
def widened (bounds : Option (Int × Int)) (index : Int) : Int × Int :=
  match bounds with
  | some (low, high) => (min low index, max high index)
  | none => (index, index)

theorem indices_add (p : Pool α) (w : Word α)
    : (p.add w).indices = insert (p.placeOf w) p.indices := by
  apply Set.ext
  intro k
  exact mem_map_fst_insertAt (p.placeOf w) w k

theorem bounds?_add {p : Pool α} (h : Filed p.placeOf p.buckets) (w : Word α)
    : (p.add w).bounds? = some (widened p.bounds? (p.placeOf w)) := by
  have hadd : (p.add w).buckets.Pairwise fun a b => a.1 < b.1 := (h.insertAt w).increasing
  unfold widened
  cases hp : p.bounds? with
  | none =>
    have hempty : p.indices = ∅ := by
      unfold indices
      rw [(bounds?_eq_none_iff p).mp hp]
      simp
    rw [bounds?_eq_some_iff hadd, indices_add, hempty, insert_empty_eq]
    exact ⟨isLeast_singleton, isGreatest_singleton⟩
  | some bounds =>
    obtain ⟨low, high⟩ := bounds
    obtain ⟨hlow, hhigh⟩ := (bounds?_eq_some_iff h.increasing low high).mp hp
    rw [bounds?_eq_some_iff hadd, indices_add, min_comm, max_comm]
    exact ⟨hlow.insert _, hhigh.insert _⟩

/-- A pool that keeps its bounds and its size beside its buckets. -/
structure Ledger (α : Type) where
  pool : Pool α
  bounds : Option (Int × Int)
  size : Nat

namespace Ledger

omit [Scalar α] in
def empty (direction : Direction) (bucketHeight : α) : Ledger α :=
  ⟨.empty direction bucketHeight, none, 0⟩

/-- Add a word and enter it, without a look at what the buckets hold. -/
def add (l : Ledger α) (w : Word α) : Ledger α :=
  { pool := l.pool.add w
    bounds := some (widened l.bounds (l.pool.bucketOf w.base))
    size := l.size + 1 }

omit [Scalar α] in
/-- The pool with the bounds and the size that are found in its buckets. -/
def ofPool (p : Pool α) : Ledger α := ⟨p, p.bounds?, p.size⟩

theorem add_ofPool {p : Pool α} (h : Filed p.placeOf p.buckets) (w : Word α)
    : (ofPool p).add w = ofPool (p.add w) := by
  have hsize : (p.add w).size = p.size + 1 := (p.words_add_perm w).length_eq
  unfold add ofPool
  rw [bounds?_add h, hsize]
  rfl

theorem foldl_add_ofPool {p : Pool α} (h : Filed p.placeOf p.buckets) (added : List (Word α))
    : added.foldl add (ofPool p) = ofPool (added.foldl Pool.add p) := by
  induction added generalizing p with
  | nil => rfl
  | cons w rest ih =>
    rw [List.foldl_cons, List.foldl_cons, add_ofPool h]
    exact ih (h.insertAt w)

end Ledger

omit [Scalar α] in
theorem words_eq_nil_iff {p : Pool α} (h : ∀ b ∈ p.buckets, b.2 ≠ [])
    : p.words = [] ↔ p.buckets = [] := by
  unfold words
  rw [List.flatMap_eq_nil_iff]
  constructor
  . intro hnil
    rw [List.eq_nil_iff_forall_not_mem]
    intro b hb
    exact h b hb (hnil b hb)
  . intro hnil
    simp [hnil]

/-- The pool of these words. -/
def ofWords (direction : Direction) (bucketHeight : α) (added : List (Word α)) : Pool α :=
  added.foldl add (empty direction bucketHeight)

section OfWords

variable (direction : Direction) (bucketHeight : α) (added : List (Word α))

omit [Scalar α] in
theorem filed_empty (place : Word α → Int)
    : Filed place (empty direction bucketHeight).buckets where
  increasing := by simp [empty]
  own := by simp [empty]

@[simp]
theorem bucketHeight_ofWords
    : (ofWords direction bucketHeight added).bucketHeight = bucketHeight := by
  induction added using List.reverseRecOn with
  | nil => rfl
  | append_singleton rest w ih =>
    unfold ofWords
    rw [List.foldl_concat]
    exact ih

@[simp]
theorem direction_ofWords : (ofWords direction bucketHeight added).direction = direction := by
  apply direction_foldl_add

theorem placeOf_ofWords
    : (ofWords direction bucketHeight added).placeOf = (empty direction bucketHeight).placeOf := by
  funext w
  unfold placeOf bucketOf
  rw [bucketHeight_ofWords]
  rfl

theorem filed_ofWords
    : Filed (ofWords direction bucketHeight added).placeOf
        (ofWords direction bucketHeight added).buckets :=
  filed_foldl_add (filed_empty direction bucketHeight _) added

theorem words_ofWords_perm : (ofWords direction bucketHeight added).words.Perm added := by
  have h := words_foldl_add_perm (empty direction bucketHeight) added
  rw [show (empty direction bucketHeight).words = [] from rfl, List.append_nil] at h
  exact h

theorem filter_words_ofWords (i : Int)
    : (ofWords direction bucketHeight added).words.filter
        (fun w => decide ((ofWords direction bucketHeight added).placeOf w = i)) =
        added.filter fun w => decide ((ofWords direction bucketHeight added).placeOf w = i) := by
  rw [placeOf_ofWords]
  unfold ofWords
  rw [filter_foldl_add (filed_empty direction bucketHeight _)]
  . rfl
  . intro v w hv hw
    rw [decide_eq_true_iff] at hv hw
    rw [hv, hw]

theorem occupied_ofWords : ∀ b ∈ (ofWords direction bucketHeight added).buckets, b.2 ≠ [] := by
  induction added using List.reverseRecOn with
  | nil => simp [ofWords, empty]
  | append_singleton rest w ih =>
    unfold ofWords
    rw [List.foldl_concat]
    exact occupied_insertAt _ w ih

end OfWords

/-- What a pool knows of the words that were added to it. -/
structure Holds (p : Pool α) (added : List (Word α)) : Prop where
  words : p.words = added.mergeSort (atMost p.placeOf)
  bucket : ∀ i, p.bucket i = added.filter fun w => decide (p.placeOf w = i)
  increasing : p.buckets.Pairwise fun a b => a.1 < b.1
  occupied : ∀ b ∈ p.buckets, b.2 ≠ []
  size : p.size = added.length
  unbounded : p.bounds? = none ↔ added = []
  bounds : ∀ low high,
    p.bounds? = some (low, high) ↔ IsLeast p.indices low ∧ IsGreatest p.indices high

theorem holds_ofWords (direction : Direction) (bucketHeight : α) (added : List (Word α))
    : (ofWords direction bucketHeight added).Holds added where
  words := by
    have hfiled := filed_ofWords direction bucketHeight added
    have hsorted := List.pairwise_mergeSort (atMost_trans _)
      (atMost_total (ofWords direction bucketHeight added).placeOf) added
    apply eq_of_filter_key hfiled.pairwise_place (hsorted.imp of_decide_eq_true)
    intro i
    rw [filter_mergeSort]
    apply filter_words_ofWords
  bucket := by
    intro i
    rw [← filter_words_ofWords]
    exact (filed_ofWords direction bucketHeight added).lookup i
  increasing := (filed_ofWords direction bucketHeight added).increasing
  occupied := occupied_ofWords direction bucketHeight added
  size := (words_ofWords_perm direction bucketHeight added).length_eq
  unbounded := by
    have hperm := words_ofWords_perm direction bucketHeight added
    rw [bounds?_eq_none_iff, ← words_eq_nil_iff (occupied_ofWords direction bucketHeight added),
      ← List.length_eq_zero_iff, hperm.length_eq, List.length_eq_zero_iff]
  bounds := bounds?_eq_some_iff (filed_ofWords direction bucketHeight added).increasing

end Added
end Pool

namespace Pools

variable {α : Type} [Scalar α]

theorem pool_ofWords_eq (bucketHeight : α) (added : List (Word α)) (r : Direction)
    : (ofWords bucketHeight added).pool r =
        .ofWords r bucketHeight (added.filter fun w => decide (w.direction = r)) :=
  pool_ofWords bucketHeight added r

/-- The ledgers of a page, one for each direction. -/
structure Ledgers (α : Type) where
  ledger : Direction → Pool.Ledger α

namespace Ledgers

/-- Add a word to the ledger of its direction. -/
def add (l : Ledgers α) (w : Word α) : Ledgers α :=
  ⟨Function.update l.ledger w.direction ((l.ledger w.direction).add w)⟩

def ofWords (bucketHeight : α) (added : List (Word α)) : Ledgers α :=
  added.foldl add ⟨fun r => .empty r bucketHeight⟩

theorem ledger_foldl_add (l : Ledgers α) (added : List (Word α)) (r : Direction)
    : (added.foldl add l).ledger r =
        (added.filter fun w => decide (w.direction = r)).foldl Pool.Ledger.add (l.ledger r) := by
  induction added generalizing l with
  | nil => rfl
  | cons w rest ih =>
    rw [List.foldl_cons, ih, List.filter_cons]
    dsimp only [add]
    by_cases hw : w.direction = r
    . rw [if_pos (decide_eq_true hw), List.foldl_cons, ← hw, Function.update_self]
    . rw [if_neg (by simpa using hw), Function.update_of_ne (Ne.symm hw)]

theorem ledger_ofWords (bucketHeight : α) (added : List (Word α)) (r : Direction)
    : (ofWords bucketHeight added).ledger r =
        .ofPool ((Pools.ofWords bucketHeight added).pool r) := by
  unfold ofWords
  rw [ledger_foldl_add, pool_ofWords_eq]
  exact Pool.Ledger.foldl_add_ofPool (Pool.filed_empty r bucketHeight _) _

end Ledgers

omit [Scalar α] in
theorem size_eq_sum (p : Pools α) : p.size = (p.all.map Pool.size).sum := by
  unfold size words
  rw [List.length_flatMap]
  rfl

theorem ofWords_holds (bucketHeight : α) (added : List (Word α))
    : let p := ofWords bucketHeight added
      (∀ r, (p.pool r).direction = r ∧ (p.pool r).bucketHeight = bucketHeight ∧
        (p.pool r).Holds (added.filter fun w => decide (w.direction = r)) ∧
        (Ledgers.ofWords bucketHeight added).ledger r = .ofPool (p.pool r)) ∧
      p.size = (p.all.map Pool.size).sum ∧ p.size = added.length ∧
      p.words = p.right.words ++ (p.up.words ++ (p.left.words ++ p.down.words)) := by
  refine ⟨?_, size_eq_sum _, (words_ofWords_perm bucketHeight added).length_eq, words_eq _⟩
  intro r
  have hledger := Ledgers.ledger_ofWords bucketHeight added r
  rw [pool_ofWords_eq] at *
  exact ⟨Pool.direction_ofWords .., Pool.bucketHeight_ofWords .., Pool.holds_ofWords .., hledger⟩

end Pools
end Galley
