import Mathlib.Algebra.Ring.Nat
import Mathlib.Data.List.Basic
import Galley.Search

/-!
This module contains the text that is searched: it is the texts of the words with a space between
any two of them, and a place in it belongs to a word just if it lies where the word stands.
-/

namespace Galley.Search

variable {α : Type}

/-- The text that is searched. -/
def searched (words : List (Word α)) : List Char :=
  [' '].intercalate (words.map fun w => w.text.toList)

@[simp]
theorem searched_singleton (w : Word α) : searched [w] = w.text.toList := by
  simp [searched]

theorem searched_cons_cons (w v : Word α) (rest : List (Word α))
    : searched (w :: v :: rest) = w.text.toList ++ ' ' :: searched (v :: rest) := by
  simp [searched, List.intercalate_cons_cons]

/-- Where a word begins if each word takes this much room, and a space between two of them one. -/
def offset (size : Word α → Nat) (words : List (Word α)) (i : Nat) : Nat :=
  ((words.take i).map fun w => size w + 1).sum

section Offset

variable (size : Word α → Nat)

@[simp]
theorem offset_zero (words : List (Word α)) : offset size words 0 = 0 := rfl

@[simp]
theorem offset_cons_succ (w : Word α) (rest : List (Word α)) (i : Nat)
    : offset size (w :: rest) (i + 1) = size w + 1 + offset size rest i := rfl

theorem offset_succ {words : List (Word α)} {i : Nat} {w : Word α} (h : words[i]? = some w)
    : offset size words (i + 1) = offset size words i + size w + 1 := by
  unfold offset
  rw [List.take_add_one, h]
  simp [Nat.add_assoc]

theorem offset_le_offset (words : List (Word α)) {i j : Nat} (h : i ≤ j)
    : offset size words i ≤ offset size words j := by
  unfold offset
  rw [← Nat.add_sub_cancel' h, List.take_add, List.map_append, List.sum_append]
  exact Nat.le_add_right _ _

/-- Where a word begins and where it ends. -/
def extent (words : List (Word α)) (i : Nat) : Nat × Nat :=
  (offset size words i, offset size words i + (words[i]?).elim 0 size)

theorem extent_eq {words : List (Word α)} {i : Nat} {w : Word α} (h : words[i]? = some w)
    : extent size words i = (offset size words i, offset size words i + size w) := by
  unfold extent
  rw [h]
  rfl

/-- A word ends before a later one begins. -/
theorem extent_le_extent (words : List (Word α)) {i j : Nat} (h : i < j)
    : (extent size words i).2 ≤ (extent size words j).1 := by
  have hstop := offset_le_offset size words (Nat.succ_le_of_lt h)
  cases hw : words[i]? with
  | none =>
    have hi := offset_le_offset size words (Nat.le_of_lt h)
    unfold extent
    rw [hw]
    exact hi
  | some w =>
    rw [extent_eq size hw]
    rw [offset_succ size hw] at hstop
    exact Nat.le_trans (Nat.le_succ _) hstop

end Offset

/-- How many characters a word has. -/
def charCount (w : Word α) : Nat := w.text.toList.length

/-- The text that is searched, when the words before these were counted already. -/
def joinedFrom (n : Nat) (words : List (Word α)) : List (Char × Option Nat) :=
  [(' ', none)].intercalate (words.mapIdx fun i w => owned (n + i) w)

theorem joined_eq (words : List (Word α)) : joined words = joinedFrom 0 words := by
  simp [joined, joinedFrom]

@[simp]
theorem joinedFrom_nil (n : Nat) : joinedFrom n ([] : List (Word α)) = [] := rfl

@[simp]
theorem joinedFrom_singleton (n : Nat) (w : Word α) : joinedFrom n [w] = owned n w := by
  simp [joinedFrom]

theorem joinedFrom_cons_cons (n : Nat) (w v : Word α) (rest : List (Word α))
    : joinedFrom n (w :: v :: rest) =
        owned n w ++ (' ', none) :: joinedFrom (n + 1) (v :: rest) := by
  have hcount : (fun i (u : Word α) => owned (n + (i + 1)) u) =
      fun i u => owned (n + 1 + i) u := by
    funext i u
    rw [Nat.add_right_comm, Nat.add_assoc]
  unfold joinedFrom
  rw [List.mapIdx_cons, hcount, List.mapIdx_cons, List.intercalate_cons_cons, List.append_assoc]
  rfl

theorem map_fst_owned (n : Nat) (w : Word α) : (owned n w).map (·.1) = w.text.toList := by
  unfold owned
  rw [List.map_map]
  exact List.map_id _

theorem map_fst_joinedFrom (n : Nat) (words : List (Word α))
    : (joinedFrom n words).map (·.1) = searched words := by
  induction words generalizing n with
  | nil => rfl
  | cons w rest ih =>
    cases rest with
    | nil => rw [joinedFrom_singleton, searched_singleton, map_fst_owned]
    | cons v rest =>
      rw [joinedFrom_cons_cons, searched_cons_cons, List.map_append, map_fst_owned, List.map_cons,
        ih]

theorem map_fst_joined (words : List (Word α)) : (joined words).map (·.1) = searched words := by
  rw [joined_eq, map_fst_joinedFrom]

/-- The word that the character at a place belongs to. -/
def owner? (text : List (Char × Option Nat)) (k : Nat) : Option Nat := (text[k]?).bind (·.2)

theorem owner?_append_left {s : List (Char × Option Nat)} (t : List (Char × Option Nat)) {k : Nat}
    (h : k < s.length) : owner? (s ++ t) k = owner? s k := by
  unfold owner?
  rw [List.getElem?_append_left h]

theorem owner?_append_right {s : List (Char × Option Nat)} (t : List (Char × Option Nat)) {k : Nat}
    (h : s.length ≤ k) : owner? (s ++ t) k = owner? t (k - s.length) := by
  unfold owner?
  rw [List.getElem?_append_right h]

theorem length_owned (n : Nat) (w : Word α) : (owned n w).length = charCount w := by
  unfold owned
  rw [List.length_map, charCount]

theorem owner?_owned (n : Nat) (w : Word α) (k : Nat)
    : owner? (owned n w) k = if k < charCount w then some n else none := by
  unfold owner? owned
  rw [List.getElem?_map]
  split
  . next h =>
    rw [List.getElem?_eq_getElem h]
    rfl
  . next h =>
    rw [List.getElem?_eq_none (Nat.le_of_not_lt h)]
    rfl

theorem owner?_joinedFrom_cons (n : Nat) (w : Word α) (rest : List (Word α)) (k : Nat)
    : owner? (joinedFrom n (w :: rest)) k =
        if k < charCount w then some n
        else if k = charCount w then none
        else owner? (joinedFrom (n + 1) rest) (k - charCount w - 1) := by
  have hlength := length_owned n w
  cases rest with
  | nil =>
    rw [joinedFrom_singleton, owner?_owned, joinedFrom_nil]
    split
    . rfl
    . split
      . rfl
      . rfl
  | cons v rest =>
    rw [joinedFrom_cons_cons]
    split
    . next h => rw [owner?_append_left _ (by omega), owner?_owned, if_pos h]
    . next h =>
      rw [owner?_append_right _ (by omega), hlength]
      split
      . next hspace =>
        rw [hspace, Nat.sub_self]
        rfl
      . next hspace =>
        rw [show k - charCount w = k - charCount w - 1 + 1 by omega]
        rfl

theorem owner?_joinedFrom_eq_some_iff (n : Nat) (words : List (Word α)) (k j : Nat)
    : owner? (joinedFrom n words) k = some j ↔
        ∃ i w, j = n + i ∧ words[i]? = some w ∧ offset charCount words i ≤ k ∧
          k < offset charCount words i + charCount w := by
  induction words generalizing n k with
  | nil =>
    simp only [List.getElem?_nil]
    constructor
    . intro h
      contradiction
    . rintro ⟨_, _, _, h, _⟩
      contradiction
  | cons w rest ih =>
    rw [owner?_joinedFrom_cons]
    constructor
    . intro h
      split at h
      . next hk =>
        injection h with h
        exact ⟨0, w, h.symm, rfl, Nat.zero_le k, by simpa using hk⟩
      . split at h
        . contradiction
        . next hk hspace =>
          obtain ⟨i, v, hj, hv, hlow, hhigh⟩ := (ih _ _).mp h
          refine ⟨i + 1, v, by omega, hv, ?_⟩
          rw [offset_cons_succ]
          omega
    . rintro ⟨i, v, rfl, hv, hlow, hhigh⟩
      cases i with
      | zero =>
        rw [List.getElem?_cons_zero, Option.some_inj] at hv
        subst hv
        rw [offset_zero] at hhigh
        rw [if_pos (by omega), Nat.add_zero]
      | succ i =>
        rw [offset_cons_succ] at hlow hhigh
        rw [if_neg (by omega), if_neg (by omega), (ih _ _).mpr]
        exact ⟨i, v, by omega, hv, by omega, by omega⟩

/-- The characters of a word, and no others, belong to it. -/
theorem owner?_joined_eq_some_iff (words : List (Word α)) (k i : Nat)
    : owner? (joined words) k = some i ↔
        (extent charCount words i).1 ≤ k ∧ k < (extent charCount words i).2 := by
  rw [joined_eq, owner?_joinedFrom_eq_some_iff]
  constructor
  . rintro ⟨j, w, hj, hw, hk⟩
    obtain rfl : i = j := by omega
    rw [extent_eq charCount hw]
    exact hk
  . rintro ⟨hlow, hhigh⟩
    unfold extent at hlow hhigh
    cases hw : words[i]? with
    | none =>
      rw [hw] at hhigh
      exact absurd hhigh (Nat.not_lt.mpr hlow)
    | some w =>
      rw [hw] at hhigh
      exact ⟨i, w, (Nat.zero_add i).symm, hw, hlow, hhigh⟩

/-- Later characters belong to later words. -/
theorem owner?_joined_le {words : List (Word α)} {k l i j : Nat} (hkl : k ≤ l)
    (hi : owner? (joined words) k = some i) (hj : owner? (joined words) l = some j) : i ≤ j := by
  rw [owner?_joined_eq_some_iff] at hi hj
  apply Nat.le_of_not_lt
  intro hlt
  have hstop := extent_le_extent charCount words hlt
  omega

section Bytes

/-- How many bytes characters take. -/
def byteCount (cs : List Char) : Nat := (String.ofList cs).utf8ByteSize

theorem byteCount_append (cs ds : List Char)
    : byteCount (cs ++ ds) = byteCount cs + byteCount ds := by
  unfold byteCount
  rw [String.ofList_append, String.utf8ByteSize_append]

theorem byteCount_toList (s : String) : byteCount s.toList = s.utf8ByteSize := by
  unfold byteCount
  rw [String.ofList_toList]

theorem byteCount_pos {cs : List Char} (h : cs ≠ []) : 0 < byteCount cs := by
  apply Nat.pos_of_ne_zero
  intro hzero
  apply h
  rw [byteCount, String.utf8ByteSize_eq_zero_iff] at hzero
  rw [← String.toList_ofList (l := cs), hzero]
  rfl

theorem byteCount_take_lt {cs : List Char} {k l : Nat} (hkl : k < l) (hl : l ≤ cs.length)
    : byteCount (cs.take k) < byteCount (cs.take l) := by
  have hmore : (cs.drop k).take (l - k) ≠ [] := by
    intro h
    have hlength := congrArg List.length h
    rw [List.length_take, List.length_drop, List.length_nil] at hlength
    omega
  rw [← Nat.add_sub_cancel' (Nat.le_of_lt hkl), List.take_add, byteCount_append]
  exact Nat.lt_add_of_pos_right (byteCount_pos hmore)

theorem byteCount_take_lt_iff {cs : List Char} {k l : Nat} (hk : k ≤ cs.length)
    (hl : l ≤ cs.length) : byteCount (cs.take k) < byteCount (cs.take l) ↔ k < l := by
  constructor
  . intro h
    apply Nat.lt_of_not_le
    intro hle
    rcases Nat.lt_or_eq_of_le hle with hlt | rfl
    . exact Nat.lt_asymm h (byteCount_take_lt hlt hk)
    . exact Nat.lt_irrefl _ h
  . exact fun h => byteCount_take_lt h hl

/-- Where a word stands in the text, counted in characters and in bytes. -/
theorem exists_searched_eq {words : List (Word α)} {i : Nat} {w : Word α} (h : words[i]? = some w)
    : ∃ before behind, searched words = before ++ w.text.toList ++ behind ∧
        before.length = offset charCount words i ∧
        byteCount before = offset (fun w => w.text.utf8ByteSize) words i := by
  induction words generalizing i with
  | nil => contradiction
  | cons v rest ih =>
    cases i with
    | zero =>
      rw [List.getElem?_cons_zero, Option.some_inj] at h
      subst h
      cases rest with
      | nil => exact ⟨[], [], by simp, rfl, rfl⟩
      | cons u rest =>
        exact ⟨[], ' ' :: searched (u :: rest), searched_cons_cons v u rest, rfl, rfl⟩
    | succ i =>
      rw [List.getElem?_cons_succ] at h
      obtain ⟨before, behind, htext, hlength, hbytes⟩ := ih h
      cases rest with
      | nil => contradiction
      | cons u rest =>
        refine ⟨v.text.toList ++ ' ' :: before, behind, ?_, ?_, ?_⟩
        . rw [searched_cons_cons, htext]
          simp
        . rw [List.length_append, List.length_cons, hlength, offset_cons_succ, charCount]
          omega
        . rw [List.append_cons, byteCount_append, byteCount_append, byteCount_toList, hbytes,
            offset_cons_succ]
          rfl

end Bytes

/-- The bytes of a word in the text that is searched: the first one and the one behind the last. -/
def wordBytes (words : List (Word α)) (i : Nat) : Nat × Nat :=
  extent (fun w => w.text.utf8ByteSize) words i

/-- The bytes of some of the characters of the text that is searched. -/
def spanBytes (words : List (Word α)) (span : Nat × Nat) : Nat × Nat :=
  (byteCount ((searched words).take span.1), byteCount ((searched words).take span.2))

/-- Whether two ranges have anything in common, their ends not included. -/
def Meets (s t : Nat × Nat) : Prop := max s.1 t.1 < min s.2 t.2

instance (s t : Nat × Nat) : Decidable (Meets s t) := inferInstanceAs (Decidable (_ < _))

theorem meets_iff (s t : Nat × Nat)
    : Meets s t ↔ ∃ k, (s.1 ≤ k ∧ k < s.2) ∧ t.1 ≤ k ∧ k < t.2 := by
  unfold Meets
  constructor
  . intro h
    exact ⟨max s.1 t.1, by omega⟩
  . rintro ⟨k, hs, ht⟩
    omega

/-- Bytes in common are characters in common. -/
theorem meets_bytes_iff {words : List (Word α)} {span : Nat × Nat}
    (h : span.1 ≤ span.2 ∧ span.2 ≤ (searched words).length) {i : Nat} (hi : i < words.length)
    : Meets (wordBytes words i) (spanBytes words span) ↔
        Meets (extent charCount words i) span := by
  have hw := List.getElem?_eq_getElem hi
  obtain ⟨before, behind, htext, hlength, hbytes⟩ := exists_searched_eq hw
  have hchars : extent charCount words i =
      (before.length, (before ++ words[i].text.toList).length) := by
    rw [extent_eq charCount hw, hlength, List.length_append, charCount, hlength]
  have hword : wordBytes words i = spanBytes words (extent charCount words i) := by
    unfold wordBytes spanBytes
    rw [extent_eq _ hw, hchars, htext]
    dsimp only
    rw [List.take_left, List.append_assoc, List.take_left, byteCount_append, hbytes,
      byteCount_toList]
  have hwithin : (extent charCount words i).1 ≤ (searched words).length ∧
      (extent charCount words i).2 ≤ (searched words).length := by
    rw [hchars, htext]
    simp
  rw [hword]
  unfold Meets spanBytes
  simp only [Nat.max_lt, Nat.lt_min]
  rw [byteCount_take_lt_iff hwithin.1 hwithin.2, byteCount_take_lt_iff hwithin.1 h.2,
    byteCount_take_lt_iff (Nat.le_trans h.1 h.2) hwithin.2,
    byteCount_take_lt_iff (Nat.le_trans h.1 h.2) h.2]

end Galley.Search
