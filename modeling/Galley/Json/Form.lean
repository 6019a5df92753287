import Galley.Binary64
import Galley.Json.Basic

/-!
Values as JSON: how they are written, which JSON reads as one of them, and how records are read
field by field.
-/

namespace Galley

/-- A type whose values are written as JSON and read from it. -/
class JsonForm (T : Type) where
  toJson : T → Json
  ofJson? : Json → Option T

export JsonForm (toJson ofJson?)

namespace Json

/-- An integer from `low` to `high`. -/
def intIn? (low high : Int) (j : Json) : Option Int :=
  match j with
  | .int value => if low ≤ value ∧ value ≤ high then some value else none
  | _ => none

/-- The name of a variant without contents: a string, or an object with it as its only name. -/
def variant? (j : Json) : Option String :=
  match j with
  | .text name => some name
  | .object [(name, .null)] => some name
  | _ => none

/-- All members of a list, if every one can be read. -/
def readAll? {T : Type} (read : Json → Option T) : List Json → Option (List T)
  | [] => some []
  | item :: rest =>
    match read item, readAll? read rest with
    | some value, some values => some (value :: values)
    | _, _ => none

end Json

instance : JsonForm Float where
  toJson := .float
  ofJson? j :=
    match j with
    | .int value => some (Scalar.ofInt value)
    | .float value => if value.isFinite then some value else none
    | _ => none

instance : JsonForm Bool where
  toJson := .bool
  ofJson? j :=
    match j with
    | .bool value => some value
    | _ => none

/-- A count that fits into 64 bits. -/
instance : JsonForm Nat where
  toJson n := .int n
  ofJson? j := (Json.intIn? 0 (UInt64.size - 1) j).map Int.toNat

instance : JsonForm UInt32 where
  toJson n := .int n.toNat
  ofJson? j := (Json.intIn? 0 (UInt32.size - 1) j).map fun n => UInt32.ofNat n.toNat

instance : JsonForm String where
  toJson := .text
  ofJson? j :=
    match j with
    | .text value => some value
    | _ => none

/-- A text of one character. -/
instance : JsonForm Char where
  toJson c := .text c.toString
  ofJson? j :=
    match j with
    | .text value =>
      match value.toList with
      | [c] => some c
      | _ => none
    | _ => none

instance {T : Type} [JsonForm T] : JsonForm (Option T) where
  toJson value :=
    match value with
    | some value => toJson value
    | none => .null
  ofJson? j :=
    match j with
    | .null => some none
    | j => (ofJson? j).map some

instance {T : Type} [JsonForm T] : JsonForm (List T) where
  toJson values := .array (values.map toJson)
  ofJson? j :=
    match j with
    | .array items => Json.readAll? ofJson? items
    | _ => none

/-- The fields found of a record. -/
structure JsonRecord where
  fields : List (String × Json)
  /-- Whether the record came as an array of its fields in order. -/
  isArray : Bool

namespace JsonRecord

/--
Read the fields of a record with these names. In an object unknown names mean nothing, and known
ones must not repeat; an array must not be longer than the names.
-/
def ofJson? (names : List String) (j : Json) : Option JsonRecord :=
  match j with
  | .object fields =>
    let known := fields.filter fun field => names.contains field.1
    if (known.map (·.1)).Nodup then some ⟨known, false⟩ else none
  | .array items => if items.length ≤ names.length then some ⟨names.zip items, true⟩ else none
  | _ => none

/-- The value of a field that must be there. -/
def required {T : Type} [JsonForm T] (r : JsonRecord) (name : String) : Option T :=
  (r.fields.lookup name).bind JsonForm.ofJson?

/-- The value of a field that an object may leave out. -/
def optional {T : Type} [JsonForm T] (r : JsonRecord) (name : String) : Option (Option T) :=
  match r.fields.lookup name with
  | some j => JsonForm.ofJson? j
  | none => if r.isArray then none else some none

/-- The value of a field that keeps `default` when it is left out. -/
def withDefault {T : Type} [JsonForm T] (r : JsonRecord) (name : String) (default : T) :
    Option T :=
  match r.fields.lookup name with
  | some j => JsonForm.ofJson? j
  | none => some default

end JsonRecord
end Galley
