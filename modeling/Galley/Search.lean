import Galley.Regex.Parser
import Galley.Word

/-!
Searching the words of a page: the words are joined by single spaces, and each match names the
words that it touches.
-/

namespace Galley

/-- How a search pattern is understood. -/
structure SearchOptions where
  /-- Whether the pattern is a regular expression and not the text itself. -/
  regex : Bool := true
  caseSensitive : Bool := true
deriving DecidableEq, Repr, Inhabited

/-- A piece of text that was found. -/
structure SearchMatch (α : Type) where
  text : String
  /-- The smallest box around the words that it touches. -/
  box : Box α
  /-- The positions of these words among the words searched. -/
  words : List Nat
deriving DecidableEq, Repr, Inhabited

namespace Search

variable {α : Type}

/-- The pattern of a search, `none` if it is not well-formed. -/
def pattern? (options : SearchOptions) (text : String) : Option Regex.Pattern :=
  Regex.Pattern.parse? (!options.caseSensitive)
    (if options.regex then text else Regex.escape text)

/-- The characters of a word, each with the position of the word. -/
def owned (index : Nat) (w : Word α) : List (Char × Option Nat) :=
  w.text.toList.map fun c => (c, some index)

/-- The text that is searched: each character with the word it belongs to, the spaces with none. -/
def joined (words : List (Word α)) : List (Char × Option Nat) :=
  [(' ', none)].intercalate (words.mapIdx owned)

variable [Scalar α]

/-- The smallest box around boxes, if there are any. -/
def boxAround? (boxes : List (Box α)) : Option (Box α) :=
  match boxes with
  | [] => none
  | box :: rest => some (rest.foldl Box.union box)

/-- What was found at some characters. Nothing counts as found without a word. -/
def matchOf? (words : Array (Word α)) (found : List (Char × Option Nat)) :
    Option (SearchMatch α) :=
  let touched := (found.filterMap (·.2)).eraseReps
  (boxAround? ((touched.filterMap (words[·]?)).map Word.box)).map fun box =>
    ⟨String.ofList (found.map (·.1)), box, touched⟩

/-- What was found between these positions of the text that is searched. -/
def matchesAt (words : List (Word α)) (spans : List (Nat × Nat)) : List (SearchMatch α) :=
  let text := (joined words).toArray
  spans.filterMap fun (start, stop) => matchOf? words.toArray (text.extract start stop).toList

/-- All matches of a pattern. -/
def matchesOf (p : Regex.Pattern) (words : List (Word α)) : List (SearchMatch α) :=
  matchesAt words (p.findAll ((joined words).toArray.map (·.1)))

/--
All matches of a pattern in words, `none` if the pattern is not well-formed. Without words, or
without a pattern, nothing is looked for.
-/
def search? (options : SearchOptions) (text : String) (words : List (Word α)) :
    Option (List (SearchMatch α)) :=
  if words.isEmpty || text.isEmpty then some []
  else (pattern? options text).map fun p => matchesOf p words

end Search
end Galley
