import Galley.Font
import Galley.Json.Form
import Galley.Json.Parser

/-!
Fonts described by a JSON document: an object with the names that content uses, and for each of
them what is known of the font.
-/

namespace Galley

namespace FontTables

/-- The code that the name of a field spells: a natural number without leading zeros. -/
def codeOfName? (name : String) : Option UInt32 :=
  match Json.number? name.toList with
  | some (j, []) => JsonForm.ofJson? j
  | _ => none

/-- The texts of codes. Of two for one code the later counts, so it is listed first. -/
def textsOfJson? (j : Json) : Option (List (UInt32 × String)) :=
  match j with
  | .object fields =>
    (fields.mapM fun (name, value) => do
      return (← codeOfName? name, ← JsonForm.ofJson? value)).map List.reverse
  | _ => none

/-- A font that content calls `name`. Everything may be left out, its own name too. -/
def ofJson? (name : String) (j : Json) : Option (FontTables Float) := do
  let r ← JsonRecord.ofJson?
    ["base_font", "first_char", "widths", "missing_width", "to_unicode", "identity", "vertical"] j
  let ownName : Option String ← r.withDefault "base_font" none
  let widths : List Float ← r.withDefault "widths" []
  let texts ←
    match r.fields.lookup "to_unicode" with
    | some texts => textsOfJson? texts
    | none => some []
  return {
    name := ownName.getD name
    firstCode := ← r.withDefault "first_char" 0
    widths := widths.toArray
    missingWidth := ← r.withDefault "missing_width" none
    texts := texts
    isTwoByte := ← r.withDefault "identity" false
    isVertical := ← r.withDefault "vertical" false }

end FontTables

namespace FontBook

/-- The fonts that a document describes. Of two with one name the later counts. -/
def ofJson? (j : Json) : Option (FontBook Float) :=
  match j with
  | .object fields =>
    fields.foldlM (fun book (name, font) => do
      return book.insert name (← FontTables.ofJson? name font).font) empty
  | _ => none

/-- The fonts that a text describes. -/
def parse? (text : String) : Option (FontBook Float) := (Json.parse? text).bind ofJson?

end FontBook
end Galley
