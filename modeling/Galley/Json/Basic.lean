/-!
JSON values.
-/

namespace Galley

/--
A JSON value. A number without point and exponent in the 64-bit range, signed or unsigned, is an
`int`, except for a negative zero; all others are a `float`, infinite if beyond the range of
doubles.
-/
inductive Json
  | null
  | bool (value : Bool)
  | int (value : Int)
  | float (value : Float)
  | text (value : String)
  /-- A string with half of a surrogate pair, which is well-formed but spells no text. -/
  | brokenText
  | array (items : List Json)
  /-- The fields in the order in which they are written; names may repeat. -/
  | object (fields : List (String × Json))
deriving Inhabited

end Galley
