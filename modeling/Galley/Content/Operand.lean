/-!
The objects of a page's content: operators and the operands in front of them.
-/

namespace Galley.Content

/-- A value in a content stream, over the numbers `α`. -/
inductive Operand (α : Type)
  | int (value : Int)
  | real (value : α)
  | name (text : String)
  | literal (bytes : List UInt8)
  | hex (bytes : List UInt8)
  | array (items : List (Operand α))
  | bool (value : Bool)
  | null
  | dictionary (entries : List (String × Operand α))
deriving Inhabited, Repr

/-- An operator with the operands that precede it. -/
structure Operator (α : Type) where
  name : String
  operands : List (Operand α)
deriving Inhabited, Repr

end Galley.Content
