import Galley.Binary64
import Galley.Proofs.Content.Outline
import Galley.Proofs.Content.Scanning
import Galley.Proofs.Content.Writing

/-!
This module shows that spelling operators and reading the bytes back gives the same operators.
-/

namespace Galley.Content

open Encoding

variable {α : Type}

namespace Reader

/--
The reader takes lexemes one after the other, none of them within the header of an inline image.
-/
inductive Feeds : Reader α → List (Lexeme α) → Reader α → Prop where
  | nil (r : Reader α) : Feeds r [] r
  | cons {r s t : Reader α} {x : Lexeme α} {xs : List (Lexeme α)} (himage : r.inImage = false)
      (haccept : r.accept x = .ok s) (hrest : Feeds s xs t)
    : Feeds r (x :: xs) t

namespace Feeds

theorem single {r s : Reader α} {x : Lexeme α} (himage : r.inImage = false)
    (haccept : r.accept x = .ok s)
    : Feeds r [x] s :=
  .cons himage haccept (.nil s)

theorem append {r s t : Reader α} {xs ys : List (Lexeme α)} (hxs : Feeds r xs s)
    (hys : Feeds s ys t)
    : Feeds r (xs ++ ys) t := by
  induction hxs with
  | nil => exact hys
  | cons himage haccept hrest ih => exact .cons himage haccept (ih hys)

end Feeds

theorem ne_name_of_constant? {text : String} {o : Operand α} (h : constant? text = some o)
    (key : String)
    : o ≠ .name key := by
  intro heq
  subst heq
  unfold constant? at h
  split at h
  all_goals cases h

theorem word_constant {r s : Reader α} {text : String} {o : Operand α} (himage : r.inImage = false)
    (hconstant : constant? text = some o) (h : r.deliver o = .ok s)
    : r.word text = .ok s := by
  unfold word
  split
  -- a constant is no key
  . next hopened =>
    unfold deliver at h
    rw [hopened] at h
    dsimp only at h
    split at h
    . next key => exact absurd rfl (ne_name_of_constant? hconstant key)
    . cases h
  . rw [hconstant]
    exact h
  . rw [himage, hconstant]
    exact h

theorem closeArray_of_deliver {r s : Reader α} {items : List (Operand α)}
    (h : r.deliver (.array items) = .ok s)
    : closeArray { r with opened := .array items.reverse :: r.opened } = .ok s := by
  unfold closeArray
  dsimp only
  rw [List.reverse_reverse]
  exact h

theorem closeDictionary_of_deliver {r s : Reader α} {entries : List (String × Operand α)}
    (h : r.deliver (.dictionary entries) = .ok s)
    : closeDictionary { r with opened := .dictionary entries.reverse none :: r.opened }
        =
      .ok s := by
  unfold closeDictionary
  dsimp only
  rw [List.reverse_reverse]
  exact h

mutual

theorem feeds_lexemes (o : Operand α) {r s : Reader α} (himage : r.inImage = false)
    (h : r.deliver o = .ok s)
    : Feeds r o.lexemes s := by
  match o with
  | .int value => exact .single himage h
  | .real value => exact .single himage h
  | .name text => exact .single himage h
  | .literal bytes => exact .single himage h
  | .hex bytes => exact .single himage h
  | .bool true => exact .single himage (word_constant himage rfl h)
  | .bool false => exact .single himage (word_constant himage rfl h)
  | .null => exact .single himage (word_constant himage rfl h)
  | .array items =>
    have hitems := feeds_itemLexemes items [] himage
    rw [List.append_nil] at hitems
    have hclose : Feeds { r with opened := .array items.reverse :: r.opened } [.arrayClose] s :=
      .single himage (closeArray_of_deliver h)
    exact .cons himage rfl (hitems.append hclose)
  | .dictionary entries =>
    have hentries := feeds_entryLexemes entries [] himage
    rw [List.append_nil] at hentries
    have hclose
        : Feeds { r with opened := .dictionary entries.reverse none :: r.opened }
            [.dictionaryClose] s :=
      .single himage (closeDictionary_of_deliver h)
    exact .cons himage rfl (hentries.append hclose)

theorem feeds_itemLexemes (items latest : List (Operand α)) {r : Reader α}
    (himage : r.inImage = false)
    : Feeds { r with opened := .array latest :: r.opened } (Operand.itemLexemes items)
        { r with opened := .array (items.reverse ++ latest) :: r.opened } := by
  match items with
  | [] => exact .nil _
  | o :: items =>
    have ho := feeds_lexemes o (r := { r with opened := .array latest :: r.opened }) himage rfl
    have hitems := feeds_itemLexemes items (o :: latest) himage
    rw [List.reverse_cons, List.append_assoc]
    exact ho.append hitems

theorem feeds_entryLexemes (entries latest : List (String × Operand α)) {r : Reader α}
    (himage : r.inImage = false)
    : Feeds { r with opened := .dictionary latest none :: r.opened } (Operand.entryLexemes entries)
        { r with opened := .dictionary (entries.reverse ++ latest) none :: r.opened } := by
  match entries with
  | [] => exact .nil _
  | (key, o) :: entries =>
    have ho := feeds_lexemes o
      (r := { r with opened := .dictionary latest (some key) :: r.opened }) himage rfl
    have hentries := feeds_entryLexemes entries ((key, o) :: latest) himage
    rw [List.reverse_cons, List.append_assoc]
    exact .cons himage rfl (ho.append hentries)

end

theorem feeds_operands (read : List (Operator α)) (operands latest : List (Operand α))
    : Feeds ⟨read, latest, false, []⟩ (Operand.itemLexemes operands)
        ⟨read, operands.reverse ++ latest, false, []⟩ := by
  induction operands generalizing latest with
  | nil => exact .nil _
  | cons o operands ih =>
    have ho : Feeds ⟨read, latest, false, []⟩ o.lexemes ⟨read, o :: latest, false, []⟩ :=
      feeds_lexemes o rfl rfl
    rw [List.reverse_cons, List.append_assoc]
    exact ho.append (ih (o :: latest))

theorem word_operator (read : List (Operator α)) (operands : List (Operand α)) {name : String}
    (hname : IsOperatorName name)
    : word ⟨read, operands.reverse, false, []⟩ name
        =
      .ok ⟨⟨name, operands⟩ :: read, [], false, []⟩ := by
  have hfree := hname.isFree
  simp only [List.mem_cons, List.not_mem_nil, or_false, not_or] at hfree
  have hconstant : constant? (α := α) name = none := by
    unfold constant?
    split
    . exact absurd rfl hfree.1
    . exact absurd rfl hfree.2.1
    . exact absurd rfl hfree.2.2.1
    . rfl
  unfold word
  dsimp only
  rw [if_neg Bool.false_ne_true, hconstant]
  dsimp only
  rw [if_neg hfree.2.2.2, List.reverse_reverse]

theorem feeds_operators (read ops : List (Operator α)) (hnames : ∀ op ∈ ops, IsOperatorName op.name)
    : Feeds ⟨read, [], false, []⟩ (ops.flatMap Operator.lexemes)
        ⟨ops.reverse ++ read, [], false, []⟩ := by
  induction ops generalizing read with
  | nil => exact .nil _
  | cons op ops ih =>
    have hoperands := feeds_operands read op.operands []
    rw [List.append_nil] at hoperands
    have hname := word_operator read op.operands (hnames op List.mem_cons_self)
    have hop := hoperands.append (.single (x := .word op.name) rfl hname)
    have hothers : ∀ other ∈ ops, IsOperatorName other.name :=
      fun other hother => hnames other (List.mem_cons_of_mem op hother)
    rw [List.flatMap_cons, List.reverse_cons, List.append_assoc]
    exact hop.append (ih (op :: read) hothers)

variable [Scalar α]

omit [Scalar α] in
theorem step_of_accept {r s : Reader α} {x : Lexeme α} (himage : r.inImage = false)
    (haccept : r.accept x = .ok s) (rest : List UInt8)
    : r.step x rest = .ok (s, rest) := by
  have hdata : ¬r.beginsData x = true := by
    unfold beginsData beginsImageData
    rw [himage]
    cases x <;> exact Bool.false_ne_true
  unfold step
  rw [if_neg hdata, haccept]

theorem run_next {r s : Reader α} {x : Lexeme α} {bytes rest : List UInt8}
    (himage : r.inImage = false) (haccept : r.accept x = .ok s)
    (hnext : nextLexeme bytes = .ok (some (x, rest)))
    : r.run bytes = s.run rest := by
  rw [r.run_step hnext, step_of_accept himage haccept]

end Reader

theorem Trivia.append {gap rest : List UInt8} (hgap : Trivia gap) (hrest : Trivia rest)
    : Trivia (gap ++ rest) := by
  induction hgap with
  | nil => exact hrest
  | blank hblank _ ih => exact .blank hblank ih
  | comment htext heol _ ih =>
    rw [List.cons_append, List.append_assoc, List.cons_append]
    exact .comment htext heol ih

variable [Scalar α]

theorem run_spelled {r s : Reader α} {xs : List (Lexeme α)} {lead spelled trail : List UInt8}
    (hlead : Trivia lead) (htrail : Trivia trail) (hspelled : SpellsAll xs spelled)
    (hfeeds : r.Feeds xs s)
    : r.run (lead ++ spelled ++ trail) = s.finish.mapError (⟨·, 0⟩) := by
  induction hspelled generalizing r lead with
  | nil =>
    cases hfeeds
    rw [List.append_nil]
    exact Reader.run_end _ (nextLexeme_trivia (hlead.append htrail))
  | one hx =>
    cases hfeeds with
    | cons himage haccept hrest =>
      cases hrest
      rw [List.append_assoc]
      rw [Reader.run_next himage haccept (nextLexeme_spelled hlead hx (.of_trail htrail))]
      exact Reader.run_end _ (nextLexeme_trivia htrail)
  | @cons x y xs spelled gap rest hx hgap hne hrest ih =>
    cases hfeeds with
    | cons himage haccept hafter =>
      have hends := Ends.of_trivia (rest ++ trail) hgap hne
      have hnext := nextLexeme_spelled hlead hx hends
      have hbytes
          : lead ++ (spelled ++ gap ++ rest) ++ trail
              =
            lead ++ (spelled ++ (gap ++ (rest ++ trail))) := by
        rw [List.append_assoc, List.append_assoc, List.append_assoc]
      rw [hbytes, Reader.run_next himage haccept hnext]
      rw [← List.append_assoc]
      exact ih hgap hafter

theorem tokenize_spelled (ops : List (Operator α)) (hnames : ∀ op ∈ ops, IsOperatorName op.name)
    (hoperands : ∀ op ∈ ops, Operand.AreSpellable op.operands)
    : (∃ bytes, Operator.Spelled ops bytes) ∧
        ∀ bytes, Operator.Spelled ops bytes → tokenize bytes = .ok ops := by
  constructor
  . exact Operator.exists_spelled ops hnames hoperands
  . intro bytes hspelled
    cases hspelled with
    | mk hlead hspelled htrail =>
      have hfeeds := Reader.feeds_operators [] ops hnames
      rw [List.append_nil] at hfeeds
      have hrun := run_spelled hlead htrail hspelled hfeeds
      have hfinish : (Reader.mk ops.reverse [] false []).finish = .ok ops := by
        unfold Reader.finish
        dsimp only
        rw [if_neg Bool.false_ne_true, List.reverse_reverse]
      unfold tokenize Reader.empty
      rw [hrun, hfinish]
      rfl

def kernedText : List (Operator Float) :=
  [⟨"TJ", [.array [.dictionary [("A ", .hex [0x41])], .literal [0x28, 0x41, 0x32], .int (-7)]]⟩]

-- the bytes are "[ << /A#20 <4 1> >> (\(\1012) -07 ]%", a line feed and "TJ"
theorem tokenize_kernedText
    : let bytes :=
        [0x5B, 0x20, 0x3C, 0x3C, 0x20, 0x2F, 0x41, 0x23, 0x32, 0x30, 0x20, 0x3C, 0x34, 0x20, 0x31,
          0x3E, 0x20, 0x3E, 0x3E, 0x20, 0x28, 0x5C, 0x28, 0x5C, 0x31, 0x30, 0x31, 0x32, 0x29, 0x20,
          0x2D, 0x30, 0x37, 0x20, 0x5D, 0x25, 0x0A, 0x54, 0x4A]
      (∀ op ∈ kernedText, IsOperatorName op.name) ∧
        (∀ op ∈ kernedText, Operand.AreSpellable op.operands) ∧
          Operator.Spelled kernedText bytes ∧ tokenize bytes = .ok kernedText := by
  have hword : IsWord "TJ" := ⟨0x54, [0x4A], rfl, rfl, List.all_eq_true.mp rfl⟩
  have hnames : ∀ op ∈ kernedText, IsOperatorName op.name := by
    intro op hop
    rw [List.mem_singleton.mp hop]
    exact ⟨hword, by decide⟩
  have hoperands : ∀ op ∈ kernedText, Operand.AreSpellable op.operands := by
    intro op hop
    rw [List.mem_singleton.mp hop]
    exact ⟨⟨⟨trivial, trivial⟩, trivial, ⟨by decide, by decide⟩, trivial⟩, trivial⟩
  have hkey : SpellsName (utf8 "A ") [0x41, 0x23, 0x32, 0x30] :=
    .raw rfl (by decide) (.escaped false false .nil)
  have hblanks : ∀ c ∈ [(0x20 : UInt8)], isBlank c = true := List.all_eq_true.mp rfl
  have hhex : SpellsHex [0x41] [0x34, 0x20, 0x31] := .byte false false hblanks .nil
  have hparenthesis : SpellsByte 0x28 [0x5C, 0x28] := .escaped (by decide)
  have htwo : SpellsByte 0x32 [0x32] := .raw (by decide)
  have hliteral := SpellsLiteral.byte hparenthesis (.byte (.octal 1 0 1) (.byte htwo .nil))
  have hgap : Trivia [0x20] := .blank rfl .nil
  have hcomment : Trivia [0x25, 0x0A] := .comment (List.forall_mem_nil _) (.inl rfl) .nil
  have hne : ∀ b : UInt8, ∀ bytes, b :: bytes ≠ [] := List.cons_ne_nil
  have hname := SpellsAll.one (α := Float) (.word hword)
  have hclose := SpellsAll.cons .arrayClose hcomment (hne _ _) hname
  have hint := SpellsAll.cons (.int .minus [0, 7] (by decide) (by decide) (by decide)) hgap
    (hne _ _) hclose
  have hstring := SpellsAll.cons (.literal hliteral) hgap (hne _ _) hint
  have hend := SpellsAll.cons .dictionaryClose hgap (hne _ _) hstring
  have hvalue := SpellsAll.cons (.hex hhex) hgap (hne _ _) hend
  have hentry := SpellsAll.cons (.name hkey) hgap (hne _ _) hvalue
  have hdictionary := SpellsAll.cons .dictionaryOpen hgap (hne _ _) hentry
  have harray := SpellsAll.cons .arrayOpen hgap (hne _ _) hdictionary
  have hspelled : Operator.Spelled kernedText ([] ++ _ ++ []) := .mk .nil harray .nil
  exact ⟨hnames, hoperands, hspelled, (tokenize_spelled _ hnames hoperands).2 _ hspelled⟩

end Galley.Content
