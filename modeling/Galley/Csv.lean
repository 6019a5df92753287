/-!
Rows of text, separated by commas or by tabs.
-/

namespace Galley.Csv

/-- Whether a field has to stand between quotes: it holds a comma, a quote or a line feed. -/
def needsQuotes (text : String) : Bool :=
  text.toList.any fun c => c == ',' || c == '"' || c == '\n'

/-- Quotes inside a field are written twice. -/
def doubleQuotes (text : String) : List Char :=
  text.toList.flatMap fun c => if c = '"' then ['"', '"'] else [c]

/-- A field as it is written. -/
def field (text : String) : String :=
  if needsQuotes text then String.ofList ('"' :: doubleQuotes text ++ ['"']) else text

/-- A header and the rows below it. -/
structure Table where
  header : List String
  rows : List (List String)
deriving Repr

namespace Table

/-- The table with commas between its fields, one row a line. -/
def commas (t : Table) : String :=
  String.join ((t.header :: t.rows).map fun row => ",".intercalate (row.map field) ++ "\n")

/-- The table with tabs between its fields, which are written as they are. -/
def tabs (t : Table) : String :=
  String.join ((t.header :: t.rows).map fun row => "\t".intercalate row ++ "\n")

end Table
end Galley.Csv
