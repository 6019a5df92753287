import Galley.Proofs.Content.Spelling

/-!
This module shows that every list of operators without reals has a spelling.
-/

namespace Galley.Content

open Encoding

theorem decimalValue_concat (digits : List (Fin 10)) (digit : Fin 10)
    : decimalValue (digits ++ [digit]) = decimalValue digits * 10 + digit.val := by
  unfold decimalValue
  rw [List.foldl_append]
  rfl

theorem exists_decimalValue_eq (n : Nat)
    : ∃ digits : List (Fin 10), digits ≠ [] ∧ decimalValue digits = n := by
  induction n using Nat.strongRecOn with
  | ind n ih =>
    have hlt : n % 10 < 10 := Nat.mod_lt n (by decide)
    by_cases hn : n < 10
    . refine ⟨[⟨n, hn⟩], List.cons_ne_nil _ _, ?_⟩
      unfold decimalValue
      rw [List.foldl_cons, List.foldl_nil, Nat.zero_mul, Nat.zero_add]
    . rcases ih (n / 10) (by omega) with ⟨digits, _, hdigits⟩
      have hne : digits ++ [⟨n % 10, hlt⟩] ≠ [] :=
        List.append_ne_nil_of_right_ne_nil _ (List.cons_ne_nil _ _)
      refine ⟨digits ++ [⟨n % 10, hlt⟩], hne, ?_⟩
      rw [decimalValue_concat, hdigits]
      dsimp only
      omega

theorem exists_apply_eq (value : Int) : ∃ sign : Sign, sign.apply value.natAbs = value := by
  by_cases hvalue : 0 ≤ value
  . refine ⟨.absent, ?_⟩
    unfold Sign.apply
    dsimp only
    omega
  . refine ⟨.minus, ?_⟩
    unfold Sign.apply
    dsimp only
    omega

theorem exists_spellsName (bytes : List UInt8) : ∃ spelled, SpellsName bytes spelled := by
  induction bytes with
  | nil => exact ⟨[], .nil⟩
  | cons b bytes ih =>
    rcases ih with ⟨spelled, hspelled⟩
    exact ⟨_, .escaped false false hspelled⟩

theorem exists_spellsByte (b : UInt8) : ∃ spelling, SpellsByte b spelling := by
  have hb := b.toNat_lt
  have hoctal := SpellsByte.octal ⟨b.toNat / 64, by omega⟩ ⟨b.toNat / 8 % 8, by omega⟩
    ⟨b.toNat % 8, by omega⟩
  have hvalue : (b.toNat / 64 * 8 + b.toNat / 8 % 8) * 8 + b.toNat % 8 = b.toNat := by
    omega
  dsimp only at hoctal
  rw [hvalue, UInt8.ofNat_toNat] at hoctal
  exact ⟨_, hoctal⟩

theorem exists_spellsLiteral (bytes : List UInt8) : ∃ spelled, SpellsLiteral bytes spelled := by
  induction bytes with
  | nil => exact ⟨[], .nil⟩
  | cons b bytes ih =>
    rcases ih with ⟨spelled, hspelled⟩
    rcases exists_spellsByte b with ⟨spelling, hspelling⟩
    exact ⟨_, .byte hspelling hspelled⟩

theorem exists_spellsHex (bytes : List UInt8) : ∃ spelled, SpellsHex bytes spelled := by
  induction bytes with
  | nil => exact ⟨[], .nil⟩
  | cons b bytes ih =>
    rcases ih with ⟨spelled, hspelled⟩
    exact ⟨_, .byte false false (List.forall_mem_nil _) hspelled⟩

variable {α : Type}

theorem exists_spellsAll {xs : List (Lexeme α)} (hxs : ∀ x ∈ xs, ∃ spelled, Spells x spelled)
    : ∃ spelled, SpellsAll xs spelled := by
  induction xs with
  | nil => exact ⟨[], .nil⟩
  | cons x xs ih =>
    rcases hxs x List.mem_cons_self with ⟨spelled, hx⟩
    cases xs with
    | nil => exact ⟨spelled, .one hx⟩
    | cons y xs =>
      rcases ih fun z hz => hxs z (List.mem_cons_of_mem x hz) with ⟨rest, hrest⟩
      exact ⟨_, .cons hx (.blank (b := 0x20) rfl .nil) (List.cons_ne_nil _ _) hrest⟩

namespace Operand

theorem isWord_true : IsWord "true" :=
  ⟨0x74, [0x72, 0x75, 0x65], rfl, rfl, List.all_eq_true.mp rfl⟩

theorem isWord_false : IsWord "false" :=
  ⟨0x66, [0x61, 0x6C, 0x73, 0x65], rfl, rfl, List.all_eq_true.mp rfl⟩

theorem isWord_null : IsWord "null" :=
  ⟨0x6E, [0x75, 0x6C, 0x6C], rfl, rfl, List.all_eq_true.mp rfl⟩

theorem exists_spells_int {value : Int} (h : (Operand.int (α := α) value).IsSpellable)
    : ∃ spelled, Spells (α := α) (.atom (.int value)) spelled := by
  rcases exists_decimalValue_eq value.natAbs with ⟨digits, hne, hdigits⟩
  rcases exists_apply_eq value with ⟨sign, hsign⟩
  rw [← hdigits] at hsign
  unfold IsSpellable at h
  rw [← hsign] at h ⊢
  exact ⟨_, .int sign digits hne h.1 h.2⟩

theorem exists_spells_singleton {y : Lexeme α} (h : ∃ spelled, Spells y spelled)
    : ∀ x ∈ [y], ∃ spelled, Spells x spelled := by
  intro x hx
  rw [List.mem_singleton.mp hx]
  exact h

theorem exists_spells_bracketed {first last : Lexeme α} {xs : List (Lexeme α)}
    (hfirst : ∃ spelled, Spells first spelled) (hlast : ∃ spelled, Spells last spelled)
    (hxs : ∀ x ∈ xs, ∃ spelled, Spells x spelled)
    : ∀ x ∈ first :: (xs ++ [last]), ∃ spelled, Spells x spelled := by
  rw [List.forall_mem_cons, List.forall_mem_append]
  exact ⟨hfirst, hxs, exists_spells_singleton hlast⟩

mutual

theorem exists_spells_lexemes (o : Operand α) (h : o.IsSpellable)
    : ∀ x ∈ o.lexemes, ∃ spelled, Spells x spelled := by
  match o with
  | .int value => exact exists_spells_singleton (exists_spells_int h)
  | .real value => exact h.elim
  | .name text =>
    rcases exists_spellsName (utf8 text) with ⟨spelled, hspelled⟩
    exact exists_spells_singleton ⟨_, .name hspelled⟩
  | .literal bytes =>
    rcases exists_spellsLiteral bytes with ⟨spelled, hspelled⟩
    exact exists_spells_singleton ⟨_, .literal hspelled⟩
  | .hex bytes =>
    rcases exists_spellsHex bytes with ⟨spelled, hspelled⟩
    exact exists_spells_singleton ⟨_, .hex hspelled⟩
  | .bool true => exact exists_spells_singleton ⟨_, .word isWord_true⟩
  | .bool false => exact exists_spells_singleton ⟨_, .word isWord_false⟩
  | .null => exact exists_spells_singleton ⟨_, .word isWord_null⟩
  | .array items =>
    exact exists_spells_bracketed ⟨_, .arrayOpen⟩ ⟨_, .arrayClose⟩
      (exists_spells_itemLexemes items h)
  | .dictionary entries =>
    exact exists_spells_bracketed ⟨_, .dictionaryOpen⟩ ⟨_, .dictionaryClose⟩
      (exists_spells_entryLexemes entries h)

theorem exists_spells_itemLexemes (items : List (Operand α)) (h : AreSpellable items)
    : ∀ x ∈ itemLexemes items, ∃ spelled, Spells x spelled := by
  match items with
  | [] => exact List.forall_mem_nil _
  | o :: items =>
    exact List.forall_mem_append.mpr
      ⟨exists_spells_lexemes o h.1, exists_spells_itemLexemes items h.2⟩

theorem exists_spells_entryLexemes (entries : List (String × Operand α))
    (h : AreSpellableEntries entries)
    : ∀ x ∈ entryLexemes entries, ∃ spelled, Spells x spelled := by
  match entries with
  | [] => exact List.forall_mem_nil _
  | (key, o) :: entries =>
    rcases exists_spellsName (utf8 key) with ⟨spelled, hspelled⟩
    have hafter := List.forall_mem_append.mpr
      ⟨exists_spells_lexemes o h.1, exists_spells_entryLexemes entries h.2⟩
    exact List.forall_mem_cons.mpr ⟨⟨_, .name hspelled⟩, hafter⟩

end

end Operand

namespace Operator

theorem exists_spelled (ops : List (Operator α)) (hnames : ∀ op ∈ ops, IsOperatorName op.name)
    (hoperands : ∀ op ∈ ops, Operand.AreSpellable op.operands)
    : ∃ bytes, Spelled ops bytes := by
  have hlexemes : ∀ x ∈ ops.flatMap lexemes, ∃ spelled, Spells x spelled := by
    intro x hx
    rcases List.mem_flatMap.mp hx with ⟨op, hop, hmem⟩
    unfold lexemes at hmem
    rw [List.mem_append] at hmem
    cases hmem with
    | inl hmem => exact Operand.exists_spells_itemLexemes _ (hoperands op hop) x hmem
    | inr hmem =>
      rw [List.mem_singleton.mp hmem]
      exact ⟨_, .word (hnames op hop).isWord⟩
  rcases exists_spellsAll hlexemes with ⟨spelled, hspelled⟩
  exact ⟨_, .mk .nil hspelled .nil⟩

end Operator
end Galley.Content
