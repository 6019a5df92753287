import Galley.Proofs.Json.Numbers
import Galley.Proofs.Json.Strings
import Mathlib.Data.List.DropRight

/-!
This module contains the reading of what was written: the text of a value, on one line or on many,
is read as that value.
-/

namespace Galley.Json

section Space

/-- Nothing but white space. -/
def Blank (cs : List Char) : Prop := ∀ c ∈ cs, isSpace c = true

theorem Blank.nil : Blank [] := by
  intro c hc
  contradiction

theorem blank_space : Blank [' '] := by
  intro c hc
  rw [List.mem_singleton.mp hc]
  rfl

theorem blank_lineBreak (level : Nat) : Blank (lineBreak level).toList := by
  intro c hc
  unfold lineBreak at hc
  rw [String.toList_ofList, List.mem_cons, List.mem_replicate] at hc
  obtain rfl | ⟨-, rfl⟩ := hc
  . rfl
  . rfl

theorem skipSpace_append {spaces : List Char} (h : Blank spaces) (cs : List Char)
    : skipSpace (spaces ++ cs) = skipSpace cs :=
  List.dropWhile_append_of_pos h

theorem skipSpace_skipSpace (cs : List Char) : skipSpace (skipSpace cs) = skipSpace cs :=
  List.dropWhile_idempotent isSpace cs

theorem skipSpace_of_head {c : Char} (h : isSpace c = false) (cs : List Char)
    : skipSpace (c :: cs) = c :: cs :=
  List.dropWhile_cons_of_neg (by simp [h])

theorem stops_of_isSpace {c : Char} (h : isSpace c = true) (cs : List Char) : Stops (c :: cs) := by
  unfold isSpace at h
  simp only [Bool.or_eq_true, beq_iff_eq] at h
  obtain ((rfl | rfl) | rfl) | rfl := h
  all_goals exact .cons (by decide) (by decide) (by decide) cs

theorem stops_mark {c : Char} (h : c ∈ [',', ']', '\x7d']) (cs : List Char) : Stops (c :: cs) := by
  simp only [List.mem_cons, List.not_mem_nil, or_false] at h
  obtain rfl | rfl | rfl := h
  all_goals exact .cons (by decide) (by decide) (by decide) cs

theorem isSpace_of_isDigit {c : Char} (h : isDigit c = true) : isSpace c = false := by
  cases hspace : isSpace c with
  | false => rfl
  | true =>
    rw [(stops_of_isSpace hspace []).digit c rfl] at h
    contradiction

theorem Stops.of_skipSpace {cs : List Char} (h : Stops (skipSpace cs)) : Stops cs := by
  cases cs with
  | nil => exact .nil
  | cons c cs =>
    cases hspace : isSpace c with
    | false =>
      rw [skipSpace_of_head hspace] at h
      exact h
    | true => exact stops_of_isSpace hspace cs

theorem value?_skipSpace (fuel : Nat) (cs : List Char)
    : value? fuel (skipSpace cs) = value? fuel cs := by
  cases fuel with
  | zero => rfl
  | succ fuel => rw [value?, value?, skipSpace_skipSpace]

theorem items?_skipSpace (fuel : Nat) (cs : List Char)
    : items? fuel (skipSpace cs) = items? fuel cs := by
  cases fuel with
  | zero => rfl
  | succ fuel => rw [items?, items?, value?_skipSpace]

theorem fields?_skipSpace (fuel : Nat) (cs : List Char)
    : fields? fuel (skipSpace cs) = fields? fuel cs := by
  cases fuel with
  | zero => rfl
  | succ fuel => rw [fields?, fields?, skipSpace_skipSpace]

end Space

section Values

theorem value?_quote (fuel : Nat) (cs : List Char)
    : value? (fuel + 1) ('"' :: cs) = string? cs := by
  rfl

theorem value?_bracket (fuel : Nat) (cs : List Char)
    : value? (fuel + 1) ('[' :: cs) =
        match skipSpace cs with
        | ']' :: after => some (.array [], after)
        | inner => (items? fuel inner).map fun (items, after) => (.array items, after) := by
  rfl

theorem value?_brace (fuel : Nat) (cs : List Char)
    : value? (fuel + 1) ('\x7b' :: cs) =
        match skipSpace cs with
        | '\x7d' :: after => some (.object [], after)
        | inner => (fields? fuel inner).map fun (fields, after) => (.object fields, after) := by
  rfl

theorem value?_number {cs after : List Char} {j : Json} (h : number? cs = some (j, after))
    (fuel : Nat) : value? (fuel + 1) cs = some (j, after) := by
  obtain ⟨c, tail, rfl, hc⟩ := number?_start h
  have hspace : skipSpace (c :: tail) = c :: tail := by
    apply skipSpace_of_head
    obtain rfl | hdigit := hc
    . rfl
    . exact isSpace_of_isDigit hdigit
  rw [value?, hspace]
  split
  all_goals first
    | exact h
    | next heq =>
      injection heq with heq
      rw [heq] at hc
      exact absurd hc (by decide)

theorem items?_bracket (fuel : Nat) (cs : List Char) : items? fuel (']' :: cs) = none := by
  cases fuel with
  | zero => rfl
  | succ fuel =>
    cases fuel with
    | zero => rfl
    | succ fuel => rfl

theorem fields?_brace (fuel : Nat) (cs : List Char) : fields? fuel ('\x7d' :: cs) = none := by
  cases fuel with
  | zero => rfl
  | succ fuel => rfl

/-- What begins like an item does not begin like the end of the array. -/
theorem value?_array {fuel : Nat} {cs after : List Char} {items : List Json}
    (h : items? fuel cs = some (items, after))
    : value? (fuel + 1) ('[' :: cs) = some (.array items, after) := by
  rw [← items?_skipSpace] at h
  rw [value?_bracket]
  split
  next tail hclose =>
    rw [hclose, items?_bracket] at h
    contradiction
  next =>
    rw [h]
    rfl

theorem value?_object {fuel : Nat} {cs after : List Char} {fields : List (String × Json)}
    (h : fields? fuel cs = some (fields, after))
    : value? (fuel + 1) ('\x7b' :: cs) = some (.object fields, after) := by
  rw [← fields?_skipSpace] at h
  rw [value?_brace]
  split
  next tail hclose =>
    rw [hclose, fields?_brace] at h
    contradiction
  next =>
    rw [h]
    rfl

end Values

section Parts

/-- The text of a value: wherever it stands, it is read as the value. -/
def Reads (j : Json) (cs : List Char) : Prop :=
  ∀ fuel rest, cs.length ≤ fuel → Stops rest → value? fuel (cs ++ rest) = some (j, rest)

/-- The text of the items of an array. -/
def ReadsItems (items : List Json) (cs : List Char) : Prop :=
  ∀ fuel rest after, cs.length < fuel → skipSpace rest = ']' :: after →
    items? fuel (cs ++ rest) = some (items, after)

/-- The text of the fields of an object. -/
def ReadsFields (fields : List (String × Json)) (cs : List Char) : Prop :=
  ∀ fuel rest after, cs.length < fuel → skipSpace rest = '\x7d' :: after →
    fields? fuel (cs ++ rest) = some (fields, after)

theorem Reads.blank_append {j : Json} {cs spaces : List Char} (h : Reads j cs)
    (hspaces : Blank spaces) : Reads j (spaces ++ cs) := by
  intro fuel rest hfuel hrest
  rw [List.length_append] at hfuel
  rw [List.append_assoc, ← value?_skipSpace, skipSpace_append hspaces, value?_skipSpace]
  exact h fuel rest (by omega) hrest

theorem Reads.items {item : Json} {cs : List Char} (h : Reads item cs) : ReadsItems [item] cs := by
  intro fuel rest after hfuel hclose
  obtain ⟨fuel, rfl⟩ := Nat.exists_eq_succ_of_ne_zero (Nat.ne_zero_of_lt hfuel)
  have hstops : Stops rest := by
    apply Stops.of_skipSpace
    rw [hclose]
    exact stops_mark (by decide) after
  rw [items?, h fuel rest (by omega) hstops]
  dsimp only [Option.bind_eq_bind, Option.bind_some]
  rw [hclose]
  rfl

theorem ReadsItems.cons {item : Json} {items : List Json} {cs more : List Char}
    (h : ReadsItems items more) (hitem : Reads item cs)
    : ReadsItems (item :: items) (cs ++ ',' :: more) := by
  intro fuel rest after hfuel hclose
  rw [List.length_append, List.length_cons] at hfuel
  obtain ⟨fuel, rfl⟩ := Nat.exists_eq_succ_of_ne_zero (Nat.ne_zero_of_lt hfuel)
  have hstops : Stops (',' :: (more ++ rest)) := stops_mark (by decide) _
  rw [List.append_assoc, List.cons_append, items?, hitem fuel _ (by omega) hstops,
    Option.bind_eq_bind, Option.bind_some]
  show (items? fuel (more ++ rest)).bind _ = _
  rw [h fuel rest after (by omega) hclose]
  rfl

/-- The text of a field, behind white space. -/
inductive FieldText (name : String) (value : Json) : List Char → Prop
  | mk {spaces cs : List Char} (hspaces : Blank spaces) (hvalue : Reads value cs) :
      FieldText name value (spaces ++ ((writeText name).toList ++ ':' :: cs))

/-- An object is read up to the end of the value of its first field. -/
theorem fields?_field {name : String} {value : Json} {cs : List Char}
    (h : FieldText name value cs) {fuel : Nat} {rest : List Char} (hfuel : cs.length ≤ fuel)
    (hrest : Stops rest)
    : fields? (fuel + 1) (cs ++ rest) =
        match skipSpace rest with
        | '\x7d' :: after => some ([(name, value)], after)
        | ',' :: next =>
          (fields? fuel next).bind fun (fields, after) => some ((name, value) :: fields, after)
        | _ => none := by
  obtain @⟨spaces, cs, hspaces, hvalue⟩ := h
  simp only [List.length_append, List.length_cons] at hfuel
  obtain ⟨parts, hparts, htext⟩ := stringParts?_escaped name.toList (':' :: (cs ++ rest))
  have hquote : skipSpace ((writeText name).toList ++ ':' :: cs ++ rest) =
      '"' :: (escaped name.toList ++ '"' :: ':' :: (cs ++ rest)) := by
    rw [toList_writeText, List.cons_append, List.cons_append, skipSpace_of_head (by decide)]
    simp only [List.append_assoc, List.cons_append, List.nil_append]
  rw [fields?, List.append_assoc, skipSpace_append hspaces, hquote]
  show (stringParts? _).bind _ = _
  rw [hparts]
  show (joinParts? parts).bind _ = _
  rw [htext]
  show (value? fuel (cs ++ rest)).bind _ = _
  rw [hvalue fuel rest (by omega) hrest, String.ofList_toList]
  rfl

theorem FieldText.fields {name : String} {value : Json} {cs : List Char}
    (h : FieldText name value cs) : ReadsFields [(name, value)] cs := by
  intro fuel rest after hfuel hclose
  obtain ⟨fuel, rfl⟩ := Nat.exists_eq_succ_of_ne_zero (Nat.ne_zero_of_lt hfuel)
  have hstops : Stops rest := by
    apply Stops.of_skipSpace
    rw [hclose]
    exact stops_mark (by decide) after
  rw [fields?_field h (by omega) hstops, hclose]
  rfl

theorem ReadsFields.cons {name : String} {value : Json} {fields : List (String × Json)}
    {cs more : List Char} (h : ReadsFields fields more) (hfield : FieldText name value cs)
    : ReadsFields ((name, value) :: fields) (cs ++ ',' :: more) := by
  intro fuel rest after hfuel hclose
  rw [List.length_append, List.length_cons] at hfuel
  obtain ⟨fuel, rfl⟩ := Nat.exists_eq_succ_of_ne_zero (Nat.ne_zero_of_lt hfuel)
  have hstops : Stops (',' :: (more ++ rest)) := stops_mark (by decide) _
  rw [List.append_assoc, List.cons_append, fields?_field hfield (by omega) hstops]
  show (fields? fuel (more ++ rest)).bind _ = _
  rw [h fuel rest after (by omega) hclose]
  rfl

end Parts

section Joined

/-- Texts with commas between them. -/
def commaed : List String → String
  | [] => ""
  | [first] => first
  | first :: rest => first ++ "," ++ commaed rest

theorem toList_commaed (first next : String) (rest : List String)
    : (commaed (first :: next :: rest)).toList =
        first.toList ++ ',' :: (commaed (next :: rest)).toList := by
  rw [commaed, String.toList_append, String.toList_append, List.append_assoc]
  . rfl
  . exact List.cons_ne_nil _ _

theorem readsItems_commaed {items : List Json} {write : Json → String}
    (h : ∀ item ∈ items, Reads item (write item).toList) (hne : items ≠ [])
    : ReadsItems items (commaed (items.map write)).toList := by
  induction items with
  | nil => contradiction
  | cons item items ih =>
    rw [List.forall_mem_cons] at h
    cases items with
    | nil => exact h.1.items
    | cons next items =>
      rw [List.map_cons, List.map_cons, toList_commaed]
      exact (ih h.2 (List.cons_ne_nil _ _)).cons h.1

theorem readsFields_commaed {fields : List (String × Json)} {write : String × Json → String}
    (h : ∀ field ∈ fields, FieldText field.1 field.2 (write field).toList) (hne : fields ≠ [])
    : ReadsFields fields (commaed (fields.map write)).toList := by
  induction fields with
  | nil => contradiction
  | cons field fields ih =>
    rw [List.forall_mem_cons] at h
    cases fields with
    | nil => exact h.1.fields
    | cons next fields =>
      rw [List.map_cons, List.map_cons, toList_commaed]
      exact (ih h.2 (List.cons_ne_nil _ _)).cons h.1

theorem compactItems_eq (items : List Json) : compactItems items = commaed (items.map compact) := by
  induction items with
  | nil => rfl
  | cons item items ih =>
    cases items with
    | nil => rfl
    | cons next items =>
      rw [compactItems, ih]
      . rfl
      . exact List.cons_ne_nil _ _

theorem compactFields_eq (fields : List (String × Json))
    : compactFields fields =
        commaed (fields.map fun field => writeText field.1 ++ ":" ++ compact field.2) := by
  induction fields with
  | nil => rfl
  | cons field fields ih =>
    cases fields with
    | nil => rfl
    | cons next fields =>
      rw [compactFields, ih]
      . rfl
      . exact List.cons_ne_nil _ _

theorem prettyItems_eq (level : Nat) (items : List Json)
    : prettyItems level items =
        commaed (items.map fun item => lineBreak level ++ prettyAt level item) := by
  induction items with
  | nil => rfl
  | cons item items ih =>
    cases items with
    | nil => rfl
    | cons next items =>
      rw [prettyItems, ih]
      . rfl
      . exact List.cons_ne_nil _ _

theorem prettyFields_eq (level : Nat) (fields : List (String × Json))
    : prettyFields level fields =
        commaed (fields.map fun field =>
          lineBreak level ++ writeText field.1 ++ ": " ++ prettyAt level field.2) := by
  induction fields with
  | nil => rfl
  | cons field fields ih =>
    cases fields with
    | nil => rfl
    | cons next fields =>
      rw [prettyFields, ih]
      . rfl
      . exact List.cons_ne_nil _ _

end Joined

/-- A value whose text gives it back: its integers have 64 bits, and its doubles read as written. -/
inductive Legible : Json → Prop
  | null : Legible .null
  | bool (value : Bool) : Legible (.bool value)
  | int {value : Int} (hlow : Int64.minValue.toInt ≤ value) (hhigh : value < UInt64.size) :
      Legible (.int value)
  | float {value : Float} (hfinite : value.isFinite = true) (hreread : reread? value = some value) :
      Legible (.float value)
  | text (value : String) : Legible (.text value)
  | array {items : List Json} (h : ∀ item ∈ items, Legible item) : Legible (.array items)
  | object {fields : List (String × Json)} (h : ∀ field ∈ fields, Legible field.2) :
      Legible (.object fields)

@[simp]
theorem legible_array (items : List Json)
    : (Json.array items).Legible ↔ ∀ item ∈ items, item.Legible := by
  constructor
  . intro h
    cases h
    assumption
  . exact .array

@[simp]
theorem legible_object (fields : List (String × Json))
    : (Json.object fields).Legible ↔ ∀ field ∈ fields, field.2.Legible := by
  constructor
  . intro h
    cases h
    assumption
  . exact .object

section Decision

mutual

/-- Whether the text of a value gives it back. -/
def isLegible : Json → Bool
  | .int value => decide (Int64.minValue.toInt ≤ value) && decide (value < UInt64.size)
  | .float value => value.isFinite && decide (reread? value = some value)
  | .array items => itemsLegible items
  | .object fields => fieldsLegible fields
  | .brokenText => false
  | _ => true

def itemsLegible : List Json → Bool
  | [] => true
  | item :: rest => isLegible item && itemsLegible rest

def fieldsLegible : List (String × Json) → Bool
  | [] => true
  | (_, value) :: rest => isLegible value && fieldsLegible rest

end

theorem itemsLegible_eq (items : List Json) : itemsLegible items = items.all isLegible := by
  induction items with
  | nil => rfl
  | cons item items ih => rw [itemsLegible, List.all_cons, ih]

theorem fieldsLegible_eq (fields : List (String × Json))
    : fieldsLegible fields = fields.all fun field => isLegible field.2 := by
  induction fields with
  | nil => rfl
  | cons field fields ih => rw [fieldsLegible, List.all_cons, ih]

theorem Legible.isLegible {j : Json} (h : Legible j) : isLegible j = true := by
  induction h with
  | null => rfl
  | bool => rfl
  | text => rfl
  | int hlow hhigh =>
    rw [Json.isLegible, Bool.and_eq_true, decide_eq_true_eq, decide_eq_true_eq]
    exact ⟨hlow, hhigh⟩
  | float hfinite hreread =>
    rw [Json.isLegible, Bool.and_eq_true, decide_eq_true_eq]
    exact ⟨hfinite, hreread⟩
  | array _ ih =>
    rw [Json.isLegible, itemsLegible_eq, List.all_eq_true]
    exact ih
  | object _ ih =>
    rw [Json.isLegible, fieldsLegible_eq, List.all_eq_true]
    exact ih

mutual

theorem legible_of_isLegible (j : Json) (h : isLegible j = true) : Legible j := by
  cases j with
  | null => exact .null
  | bool value => exact .bool value
  | text value => exact .text value
  | brokenText => contradiction
  | int value =>
    simp only [isLegible, Bool.and_eq_true, decide_eq_true_eq] at h
    exact .int h.1 h.2
  | float value =>
    simp only [isLegible, Bool.and_eq_true, decide_eq_true_eq] at h
    exact .float h.1 h.2
  | array items => exact .array (legible_of_itemsLegible items h)
  | object fields => exact .object (legible_of_fieldsLegible fields h)

theorem legible_of_itemsLegible (items : List Json) (h : itemsLegible items = true)
    : ∀ item ∈ items, Legible item := by
  cases items with
  | nil => exact List.forall_mem_nil _
  | cons item items =>
    rw [itemsLegible, Bool.and_eq_true] at h
    rw [List.forall_mem_cons]
    exact ⟨legible_of_isLegible item h.1, legible_of_itemsLegible items h.2⟩

theorem legible_of_fieldsLegible (fields : List (String × Json)) (h : fieldsLegible fields = true)
    : ∀ field ∈ fields, Legible field.2 := by
  match fields with
  | [] => exact List.forall_mem_nil _
  | (name, value) :: fields =>
    rw [fieldsLegible, Bool.and_eq_true] at h
    rw [List.forall_mem_cons]
    exact ⟨legible_of_isLegible value h.1, legible_of_fieldsLegible fields h.2⟩

end

instance : DecidablePred Legible := fun j =>
  decidable_of_iff (isLegible j = true) ⟨legible_of_isLegible j, Legible.isLegible⟩

end Decision

section Written

theorem reads_cons {j : Json} {c : Char} {cs : List Char}
    (h : ∀ fuel rest, cs.length ≤ fuel → Stops rest →
      value? (fuel + 1) (c :: (cs ++ rest)) = some (j, rest)) : Reads j (c :: cs) := by
  intro fuel rest hfuel hrest
  obtain ⟨fuel, rfl⟩ := Nat.exists_eq_succ_of_ne_zero (Nat.ne_zero_of_lt hfuel)
  exact h fuel rest (Nat.le_of_succ_le_succ hfuel) hrest

theorem reads_number {j : Json} {cs : List Char}
    (h : ∀ rest, Stops rest → number? (cs ++ rest) = some (j, rest)) : Reads j cs := by
  cases cs with
  | nil =>
    have hnone := h [] .nil
    contradiction
  | cons c cs => exact reads_cons fun fuel rest _ hrest => value?_number (h rest hrest) fuel

theorem reads_null : Reads .null (writeAtom .null).toList :=
  reads_cons fun _ _ _ _ => rfl

theorem reads_bool (value : Bool) : Reads (.bool value) (writeAtom (.bool value)).toList := by
  cases value with
  | false => exact reads_cons fun _ _ _ _ => rfl
  | true => exact reads_cons fun _ _ _ _ => rfl

theorem reads_int {value : Int} (hlow : Int64.minValue.toInt ≤ value)
    (hhigh : value < UInt64.size) : Reads (.int value) (writeAtom (.int value)).toList :=
  reads_number fun _ hrest => number?_toString hrest hlow hhigh

theorem reads_float {value : Float} (h : reread? value = some value)
    : Reads (.float value) (writeAtom (.float value)).toList := by
  rw [reread?_eq_some_iff] at h
  obtain ⟨digits, hdigits, hvalue⟩ := h
  rw [writeAtom, hdigits]
  exact reads_number fun rest hrest => number?_append hrest hvalue

theorem reads_text (value : String) : Reads (.text value) (writeAtom (.text value)).toList := by
  rw [writeAtom, toList_writeText]
  refine reads_cons fun fuel rest _ _ => ?_
  rw [value?_quote, List.append_assoc]
  exact string?_escaped value rest

theorem reads_emptyArray : Reads (.array []) ['[', ']'] :=
  reads_cons fun _ _ _ _ => rfl

theorem reads_emptyObject : Reads (.object []) ['\x7b', '\x7d'] :=
  reads_cons fun _ _ _ _ => rfl

theorem reads_array {items : List Json} {cs spaces : List Char} (h : ReadsItems items cs)
    (hspaces : Blank spaces) : Reads (.array items) ('[' :: (cs ++ (spaces ++ [']']))) := by
  refine reads_cons fun fuel rest hfuel _ => ?_
  simp only [List.length_append, List.length_cons] at hfuel
  have hclose : skipSpace (spaces ++ ']' :: rest) = ']' :: rest := by
    rw [skipSpace_append hspaces]
    rfl
  rw [← value?_array (h fuel (spaces ++ ']' :: rest) rest (by omega) hclose)]
  simp only [List.append_assoc, List.cons_append, List.nil_append]

theorem reads_object {fields : List (String × Json)} {cs spaces : List Char}
    (h : ReadsFields fields cs) (hspaces : Blank spaces)
    : Reads (.object fields) ('\x7b' :: (cs ++ (spaces ++ ['\x7d']))) := by
  refine reads_cons fun fuel rest hfuel _ => ?_
  simp only [List.length_append, List.length_cons] at hfuel
  have hclose : skipSpace (spaces ++ '\x7d' :: rest) = '\x7d' :: rest := by
    rw [skipSpace_append hspaces]
    rfl
  rw [← value?_object (h fuel (spaces ++ '\x7d' :: rest) rest (by omega) hclose)]
  simp only [List.append_assoc, List.cons_append, List.nil_append]

theorem Legible.reads_compact {j : Json} (h : Legible j) : Reads j (compact j).toList := by
  induction h with
  | null => exact reads_null
  | bool value => exact reads_bool value
  | int hlow hhigh => exact reads_int hlow hhigh
  | float hfinite hreread => exact reads_float hreread
  | text value => exact reads_text value
  | @array items _ ih =>
    by_cases hne : items = []
    . rw [hne]
      exact reads_emptyArray
    . rw [compact, compactItems_eq, String.toList_append, String.toList_append, List.append_assoc]
      have hread := reads_array (readsItems_commaed ih hne) .nil
      exact hread
  | @object fields _ ih =>
    -- no field stands between the braces of an empty object, so it is not a case of the general one
    by_cases hne : fields = []
    . rw [hne]
      exact reads_emptyObject
    . rw [compact, compactFields_eq, String.toList_append, String.toList_append, List.append_assoc]
      have hfields : ∀ field ∈ fields,
          FieldText field.1 field.2 (writeText field.1 ++ ":" ++ compact field.2).toList := by
        intro field hfield
        rw [String.toList_append, String.toList_append, List.append_assoc]
        exact .mk .nil (ih field hfield)
      have hread := reads_object (readsFields_commaed hfields hne) .nil
      exact hread

theorem Legible.reads_pretty {j : Json} (h : Legible j) (level : Nat)
    : Reads j (prettyAt level j).toList := by
  induction h generalizing level with
  | null => exact reads_null
  | bool value => exact reads_bool value
  | int hlow hhigh => exact reads_int hlow hhigh
  | float hfinite hreread => exact reads_float hreread
  | text value => exact reads_text value
  | @array items _ ih =>
    by_cases hne : items = []
    . rw [hne, prettyAt]
      exact reads_emptyArray
    . rw [prettyAt, prettyItems_eq]
      . simp only [String.toList_append, List.append_assoc]
        refine reads_array (readsItems_commaed (fun item hitem => ?_) hne) (blank_lineBreak level)
        rw [String.toList_append]
        exact (ih item hitem (level + 1)).blank_append (blank_lineBreak (level + 1))
      . exact hne
  | @object fields _ ih =>
    by_cases hne : fields = []
    . rw [hne, prettyAt]
      exact reads_emptyObject
    . have hfields : ∀ field ∈ fields, FieldText field.1 field.2
          (lineBreak (level + 1) ++ writeText field.1 ++ ": " ++
            prettyAt (level + 1) field.2).toList := by
        intro field hfield
        simp only [String.toList_append, List.append_assoc]
        have hvalue := (ih field hfield (level + 1)).blank_append blank_space
        exact .mk (blank_lineBreak (level + 1)) hvalue
      rw [prettyAt, prettyFields_eq]
      . simp only [String.toList_append, List.append_assoc]
        exact reads_object (readsFields_commaed hfields hne) (blank_lineBreak level)
      . exact hne

theorem Reads.parse? {j : Json} {text : String} (h : Reads j text.toList)
    : parse? text = some j := by
  have hread := h (text.toList.length + 1) [] (by omega) .nil
  rw [List.append_nil] at hread
  unfold Json.parse?
  dsimp only
  rw [hread]
  rfl

/-- A value is read back from its text on one line. -/
theorem Legible.parse?_compact {j : Json} (h : Legible j) : parse? (compact j) = some j :=
  h.reads_compact.parse?

/-- A value is read back from its text over several lines. -/
theorem Legible.parse?_pretty {j : Json} (h : Legible j) : parse? (pretty j) = some j :=
  (h.reads_pretty 0).parse?

end Written

end Galley.Json
