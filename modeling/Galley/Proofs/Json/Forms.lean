import Galley.Json.PageForm
import Galley.Json.SearchForm
import Galley.Json.SettingsForm
import Galley.Proofs.Json.Reading

/-!
This module contains the forms of values as JSON: from the JSON of a value the value is read back.
-/

namespace Galley

open Json (parse? compact pretty)

/-- A form from which every value is read back. -/
class LawfulJsonForm (T : Type) [JsonForm T] : Prop where
  ofJson?_toJson (value : T) (h : (toJson value).Legible) : ofJson? (toJson value) = some value

export LawfulJsonForm (ofJson?_toJson)

attribute [simp] ofJson?_toJson

/-- The value that a text gives. -/
def readText? {T : Type} [JsonForm T] (text : String) : Option T := (parse? text).bind ofJson?

/-- Whether a value is read back from what is written of it, on one line and on many. -/
def RoundTrips {T : Type} [JsonForm T] (value : T) : Prop :=
  readText? (compact (toJson value)) = some value ∧ readText? (pretty (toJson value)) = some value

theorem roundTrips {T : Type} [JsonForm T] [LawfulJsonForm T] {value : T}
    (h : (toJson value).Legible) : RoundTrips value := by
  unfold RoundTrips readText?
  rw [h.parse?_compact, h.parse?_pretty, Option.bind_some, ofJson?_toJson value h]
  exact ⟨rfl, rfl⟩

namespace JsonRecord

theorem ofJson?_object {names : List String} {fields : List (String × Json)}
    (hknown : ∀ field ∈ fields, field.1 ∈ names) (hdistinct : (fields.map (·.1)).Nodup)
    : JsonRecord.ofJson? names (.object fields) = some ⟨fields, false⟩ := by
  have hall : fields.filter (fun field => names.contains field.1) = fields := by
    rw [List.filter_eq_self]
    intro field hfield
    rw [List.contains_iff_mem]
    exact hknown field hfield
  unfold JsonRecord.ofJson?
  dsimp only
  rw [hall, if_pos hdistinct]

section Fields

variable {T : Type} [JsonForm T] {name other : String} {j : Json}
variable {fields : List (String × Json)} {isArray : Bool}

theorem lookup_ne (h : name ≠ other) : ((other, j) :: fields).lookup name = fields.lookup name := by
  rw [List.lookup_cons, beq_false_of_ne h]

@[simp]
theorem required_self
    : (required ⟨(name, j) :: fields, isArray⟩ name : Option T) = JsonForm.ofJson? j := by
  unfold required
  rw [List.lookup_cons_self]
  rfl

@[simp]
theorem required_ne (h : name ≠ other)
    : (required ⟨(other, j) :: fields, isArray⟩ name : Option T) =
        required ⟨fields, isArray⟩ name := by
  unfold required
  rw [lookup_ne h]

@[simp]
theorem optional_self
    : (optional ⟨(name, j) :: fields, isArray⟩ name : Option (Option T)) =
        JsonForm.ofJson? j := by
  unfold optional
  rw [List.lookup_cons_self]

@[simp]
theorem optional_ne (h : name ≠ other)
    : (optional ⟨(other, j) :: fields, isArray⟩ name : Option (Option T)) =
        optional ⟨fields, isArray⟩ name := by
  unfold optional
  rw [lookup_ne h]

@[simp]
theorem withDefault_self (default : T)
    : withDefault ⟨(name, j) :: fields, isArray⟩ name default = JsonForm.ofJson? j := by
  unfold withDefault
  rw [List.lookup_cons_self]

@[simp]
theorem withDefault_ne (h : name ≠ other) (default : T)
    : withDefault ⟨(other, j) :: fields, isArray⟩ name default =
        withDefault ⟨fields, isArray⟩ name default := by
  unfold withDefault
  rw [lookup_ne h]

end Fields

theorem read {T : Type} {names : List String} {fields : List (String × Json)} {value : T}
    {read? : JsonRecord → Option T} (h : (Json.object fields).Legible)
    (hknown : ∀ field ∈ fields, field.1 ∈ names) (hdistinct : (fields.map (·.1)).Nodup)
    (hread : (∀ field ∈ fields, field.2.Legible) → read? ⟨fields, false⟩ = some value)
    : (JsonRecord.ofJson? names (.object fields)).bind read? = some value := by
  rw [ofJson?_object hknown hdistinct, Option.bind_some]
  exact hread ((Json.legible_object fields).mp h)

end JsonRecord

section Leaves

instance : LawfulJsonForm Float where
  ofJson?_toJson x h := by
    cases h with
    | float hfinite hreread => exact if_pos hfinite

instance : LawfulJsonForm Bool where
  ofJson?_toJson _ _ := rfl

instance : LawfulJsonForm String where
  ofJson?_toJson _ _ := rfl

instance : LawfulJsonForm Char where
  ofJson?_toJson c _ := by
    show (match c.toString.toList with | [c] => some c | _ => none) = some c
    rw [Char.toString_eq_singleton, String.toList_singleton]

theorem intIn?_of_mem {low high value : Int} (hlow : low ≤ value) (hhigh : value ≤ high)
    : Json.intIn? low high (.int value) = some value :=
  if_pos ⟨hlow, hhigh⟩

instance : LawfulJsonForm Nat where
  ofJson?_toJson n h := by
    cases h with
    | int hlow hhigh =>
      show (Json.intIn? 0 (UInt64.size - 1) (.int n)).map Int.toNat = some n
      rw [intIn?_of_mem (Int.natCast_nonneg n) (by omega)]
      rfl

instance : LawfulJsonForm UInt32 where
  ofJson?_toJson n _ := by
    show (Json.intIn? 0 (UInt32.size - 1) (.int n.toNat)).map _ = some n
    have hn : n.toNat < UInt32.size := n.toNat_lt
    rw [intIn?_of_mem (Int.natCast_nonneg _) (by omega)]
    show some (UInt32.ofNat n.toNat) = some n
    rw [UInt32.ofNat_toNat]

theorem ofJson?_option {T : Type} [JsonForm T] {j : Json} (h : j ≠ .null)
    : (ofJson? j : Option (Option T)) = (ofJson? j).map some := by
  cases j with
  | null => contradiction
  | _ => rfl

/-- A value that may be absent is read back if no present one is written as `null`. -/
theorem lawful_option {T : Type} [JsonForm T] [LawfulJsonForm T]
    (hne : ∀ value : T, toJson value ≠ .null) : LawfulJsonForm (Option T) where
  ofJson?_toJson value h := by
    cases value with
    | none => rfl
    | some value =>
      have hread : ofJson? (toJson value) = some value := ofJson?_toJson value h
      show ofJson? (toJson value) = some (some value)
      rw [ofJson?_option (hne value), hread, Option.map_some]

instance : LawfulJsonForm (Option Float) := lawful_option fun _ h => by contradiction

instance : LawfulJsonForm (Option Nat) := lawful_option fun _ h => by contradiction

instance : LawfulJsonForm (Option String) := lawful_option fun _ h => by contradiction

instance {T : Type} [JsonForm T] [LawfulJsonForm T] : LawfulJsonForm (List T) where
  ofJson?_toJson values h := by
    have h := (Json.legible_array _).mp h
    show Json.readAll? ofJson? (values.map toJson) = some values
    induction values with
    | nil => rfl
    | cons value values ih =>
      rw [List.map_cons, List.forall_mem_cons] at h
      rw [List.map_cons, Json.readAll?, ofJson?_toJson value h.1, ih (.array h.2) h.2]

end Leaves

section Names

instance : LawfulJsonForm Normalization where
  ofJson?_toJson form _ := by
    cases form <;> rfl

instance : LawfulJsonForm Direction where
  ofJson?_toJson direction _ := by
    cases direction <;> rfl

instance : LawfulJsonForm WritingMode where
  ofJson?_toJson mode _ := by
    cases mode <;> rfl

instance : LawfulJsonForm WarningCode where
  ofJson?_toJson code h := by
    refine JsonRecord.read h (by simp) (by simp) fun _ => ?_
    cases code <;> rfl

end Names

section Records

instance : LawfulJsonForm (Box Float) where
  ofJson?_toJson _ h := JsonRecord.read h (by simp) (by simp) (by simp +contextual)

instance : LawfulJsonForm (Glyph Float) where
  ofJson?_toJson _ h := JsonRecord.read h (by simp) (by simp) (by simp +contextual)

instance : LawfulJsonForm (Word Float) where
  ofJson?_toJson _ h := JsonRecord.read h (by simp) (by simp) (by simp +contextual)

instance : LawfulJsonForm (Line Float) where
  ofJson?_toJson _ h := JsonRecord.read h (by simp) (by simp) (by simp +contextual)

instance : LawfulJsonForm (Gap Float) where
  ofJson?_toJson _ h := JsonRecord.read h (by simp) (by simp) (by simp +contextual)

instance : LawfulJsonForm (Column Float) where
  ofJson?_toJson _ h := JsonRecord.read h (by simp) (by simp) (by simp +contextual)

instance : LawfulJsonForm (ColumnLayout Float) where
  ofJson?_toJson _ h := JsonRecord.read h (by simp) (by simp) (by simp +contextual)

instance : LawfulJsonForm Warning where
  ofJson?_toJson _ h := JsonRecord.read h (by simp) (by simp) (by simp +contextual)

instance : LawfulJsonForm Tally where
  ofJson?_toJson _ h := JsonRecord.read h (by simp) (by simp) (by simp +contextual)

instance : LawfulJsonForm SearchOptions where
  ofJson?_toJson _ h := JsonRecord.read h (by simp) (by simp) (by simp +contextual)

instance : LawfulJsonForm (WordTolerances Float) where
  ofJson?_toJson _ h := JsonRecord.read h (by simp) (by simp) (by simp +contextual)

instance : LawfulJsonForm (SpacingThresholds Float) where
  ofJson?_toJson _ h := JsonRecord.read h (by simp) (by simp) (by simp +contextual)

instance : LawfulJsonForm (GridOptions Float) where
  ofJson?_toJson _ h := JsonRecord.read h (by simp) (by simp) (by simp +contextual)

instance : LawfulJsonForm (ColumnOptions Float) where
  ofJson?_toJson _ h := JsonRecord.read h (by simp) (by simp) (by simp +contextual)

instance : LawfulJsonForm (Settings Float) where
  ofJson?_toJson _ h := JsonRecord.read h (by simp) (by simp) (by simp +contextual)

end Records

end Galley
