import Galley.Regex.Pattern

/-!
Reading patterns. Look-around, back references and property classes are not part of the language.
-/

namespace Galley.Regex

/-- What `(?…)` can switch on and off. -/
structure Flags where
  /-- Ignore case. -/
  fold : Bool := false
  /-- `^` and `$` match at every line. -/
  multiLine : Bool := false
  /-- `.` matches the end of a line too. -/
  dotAll : Bool := false
  /-- Repetitions are lazy unless marked. -/
  swapGreed : Bool := false
  /-- White space and comments mean nothing. -/
  verbose : Bool := false
deriving DecidableEq, Repr, Inhabited

/-- What an escape stands for. -/
inductive Escape
  | literal (c : Char)
  | class (s : CharSet)
  | assert (a : Assertion)
deriving DecidableEq, Repr

namespace Parser

/-- Characters with a meaning of their own. -/
def metaCharacters : List Char :=
  ['\\', '.', '+', '*', '?', '(', ')', '|', '[', ']', '\x7b', '\x7d', '^', '$', '#', '&', '-', '~']

/-- Whether a backslash before the character makes it stand for itself. -/
def isEscapable (c : Char) : Bool :=
  metaCharacters.contains c ||
    (c.toNat < 0x80 && !c.isAlphanum && c != '<' && c != '>')

def hexValue? (c : Char) : Option Nat :=
  if c.isDigit then some (c.toNat - 0x30)
  else if 'a' ≤ c ∧ c ≤ 'f' then some (c.toNat - 0x57)
  else if 'A' ≤ c ∧ c ≤ 'F' then some (c.toNat - 0x37)
  else none

/-- The character whose code hexadecimal digits spell. -/
def hexChar? (digits : List Char) : Option Char := do
  if digits.isEmpty then none
  let values ← digits.mapM hexValue?
  let code := values.foldl (fun n v => n * 16 + v) 0
  if h : code.isValidChar then some (Char.ofNatAux code h) else none

/-- The code behind `\x`, `\u` or `\U`: so many digits, or any number in braces. -/
def hexEscape? (count : Nat) (cs : List Char) : Option (Char × List Char) :=
  match cs with
  | '\x7b' :: rest =>
    let digits := rest.takeWhile (· != '\x7d')
    match rest.dropWhile (· != '\x7d') with
    | _ :: after => (hexChar? digits).map (·, after)
    | [] => none
  | _ =>
    if cs.length < count then none else (hexChar? (cs.take count)).map (·, cs.drop count)

/-- The name in braces that may follow `\b`, such as `\b{start}`. -/
def boundaryName (cs : List Char) : Option (Option Assertion × List Char) :=
  let isNameChar (c : Char) : Bool := c.isAlpha || c == '-'
  match cs with
  | '\x7b' :: c :: _ =>
    if isNameChar c then
      let name := cs.tail.takeWhile isNameChar
      match cs.tail.dropWhile isNameChar with
      | '\x7d' :: after =>
        match String.ofList name with
        | "start" => some (some .wordStart, after)
        | "end" => some (some .wordEnd, after)
        | "start-half" => some (some .wordStartHalf, after)
        | "end-half" => some (some .wordEndHalf, after)
        | _ => none
      | _ => none
    else some (none, cs)
  | _ => some (none, cs)

/-- What the characters behind a backslash stand for. -/
def escape? (cs : List Char) : Option (Escape × List Char) :=
  match cs with
  | [] => none
  | c :: rest =>
    if isEscapable c then some (.literal c, rest)
    else
      match c with
      | 'd' => some (.class .digit, rest)
      | 's' => some (.class .space, rest)
      | 'w' => some (.class .word, rest)
      | 'D' => some (.class (.compl .digit), rest)
      | 'S' => some (.class (.compl .space), rest)
      | 'W' => some (.class (.compl .word), rest)
      | 'x' => (hexEscape? 2 rest).map fun (c, after) => (.literal c, after)
      | 'u' => (hexEscape? 4 rest).map fun (c, after) => (.literal c, after)
      | 'U' => (hexEscape? 8 rest).map fun (c, after) => (.literal c, after)
      | 'a' => some (.literal '\x07', rest)
      | 'f' => some (.literal '\x0c', rest)
      | 't' => some (.literal '\t', rest)
      | 'n' => some (.literal '\n', rest)
      | 'r' => some (.literal '\r', rest)
      | 'v' => some (.literal '\x0b', rest)
      | 'A' => some (.assert .textStart, rest)
      | 'z' => some (.assert .textEnd, rest)
      | 'b' =>
        (boundaryName rest).map fun (a, after) => (.assert (a.getD .wordBoundary), after)
      | 'B' => some (.assert .noWordBoundary, rest)
      | '<' => some (.assert .wordStart, rest)
      | '>' => some (.assert .wordEnd, rest)
      | _ => none

/-- The operations between the parts of a class. -/
inductive SetOp
  | inter
  | diff
  | symmDiff

def SetOp.apply : SetOp → CharSet → CharSet → CharSet
  | inter => .inter
  | diff => .diff
  | symmDiff => .symmDiff

/-- A class with its part on the left of the last operation, if there was one. -/
def closeClass (fold : Bool) (left : Option (CharSet × SetOp)) (current : CharSet) : CharSet :=
  let closed (s : CharSet) : CharSet := if fold then .fold s else s
  match left with
  | none => closed current
  | some (s, op) => op.apply (closed s) (closed current)

/-- A member of a class or the end of a range in it. -/
def classItem? (cs : List Char) : Option (Escape × List Char) :=
  match cs with
  | [] => none
  | '\\' :: rest =>
    match escape? rest with
    | some (.assert _, _) => none
    | found => found
  | c :: rest => some (.literal c, rest)

/-- A character, a range or a class escape, as a member of a class. -/
def classRange? (cs : List Char) : Option (CharSet × List Char) := do
  let (first, rest) ← classItem? cs
  let single : CharSet :=
    match first with
    | .literal c => .single c
    | .class s => s
    | .assert _ => .none
  match rest with
  | [] => none
  | '-' :: ']' :: _ => return (single, rest)
  | '-' :: '-' :: _ => return (single, rest)
  | '-' :: after =>
    let (last, rest) ← classItem? after
    match first, last with
    | .literal a, .literal b =>
      if a.toNat ≤ b.toNat then return (.range a.toNat b.toNat, rest) else none
    | _, _ => none
  | _ => return (single, rest)

/-- An ASCII class such as `[:alpha:]` or `[:^alpha:]`. -/
def asciiClass? (cs : List Char) : Option (CharSet × List Char) :=
  match cs with
  | '[' :: ':' :: rest =>
    let (negated, rest) :=
      match rest with
      | '^' :: tail => (true, tail)
      | _ => (false, rest)
    match rest.dropWhile (· != ':') with
    | ':' :: ']' :: after =>
      (CharSet.ascii? (String.ofList (rest.takeWhile (· != ':')))).map fun s =>
        (if negated then .compl s else s, after)
    | _ => none
  | _ => none

/-- The members of a class up to its `]`. `current` holds those behind the last operation. -/
def classMembers? (fold : Bool) : (fuel : Nat) → Option (CharSet × SetOp) → CharSet →
    List Char → Option (CharSet × List Char)
  | 0, _, _, _ => none
  | fuel + 1, left, current, cs =>
    let operation (op : SetOp) (rest : List Char) : Option (CharSet × List Char) :=
      classMembers? fold fuel (some (closeClass fold left current, op)) .none rest
    match cs with
    | ']' :: rest => some (closeClass fold left current, rest)
    | '&' :: '&' :: rest => operation .inter rest
    | '-' :: '-' :: rest => operation .diff rest
    | '~' :: '~' :: rest => operation .symmDiff rest
    | '[' :: rest =>
      match asciiClass? cs with
      | some (s, after) => classMembers? fold fuel left (.union current s) after
      | none =>
        let (negated, start, body) := openClass rest
        match classMembers? fold fuel none start body with
        | some (s, after) =>
          classMembers? fold fuel left (.union current (if negated then .compl s else s)) after
        | none => none
    | _ =>
      match classRange? cs with
      | some (s, after) => classMembers? fold fuel left (.union current s) after
      | none => none
where
  /-- The beginning of a class behind its `[`: a negation, and signs that stand for themselves. -/
  openClass (cs : List Char) : Bool × CharSet × List Char :=
    let (negated, cs) :=
      match cs with
      | '^' :: rest => (true, rest)
      | _ => (false, cs)
    let dashes := cs.takeWhile (· == '-')
    let rest := cs.dropWhile (· == '-')
    if dashes.isEmpty then
      match rest with
      | ']' :: after => (negated, .single ']', after)
      | _ => (negated, .none, rest)
    else (negated, .single '-', rest)

/-- A class behind its `[`. -/
def class? (fold : Bool) (cs : List Char) : Option (CharSet × List Char) :=
  let (negated, start, body) := classMembers?.openClass cs
  (classMembers? fold (cs.length + 1) none start body).map fun (s, rest) =>
    (if negated then .compl s else s, rest)

/--
Flags up to `:` or `)`, each at most once. `seen` holds those read, `on` what they are set to.
-/
def flags? (seen : List Char) (on : Bool) (flags : Flags) :
    List Char → Option (Flags × List Char)
  | [] => none
  | c :: rest =>
    if c = ':' ∨ c = ')' then
      if !on && seen.head? == some '-' then none else some (flags, c :: rest)
    else if seen.contains c then none
    else
      match c with
      | '-' => flags? (c :: seen) false flags rest
      | 'i' => flags? (c :: seen) on { flags with fold := on } rest
      | 'm' => flags? (c :: seen) on { flags with multiLine := on } rest
      | 's' => flags? (c :: seen) on { flags with dotAll := on } rest
      | 'U' => flags? (c :: seen) on { flags with swapGreed := on } rest
      | 'x' => flags? (c :: seen) on { flags with verbose := on } rest
      | 'u' => if on then flags? (c :: seen) on flags rest else none
      | _ => none

/-- The name of a group up to its `>`. -/
def groupName? (cs : List Char) : Option (List Char) :=
  let name := cs.takeWhile (· != '>')
  let isStart (c : Char) : Bool := c == '_' || c.isAlpha || 0x80 ≤ c.toNat
  let isPart (c : Char) : Bool := isStart c || c.isDigit || c == '.' || c == '[' || c == ']'
  match name, cs.dropWhile (· != '>') with
  | first :: others, _ :: after => if isStart first && others.all isPart then some after else none
  | _, _ => none

/-- A number in a counted repetition, with white space around it. -/
def count? (cs : List Char) : Option (Nat × List Char) :=
  let cs := cs.dropWhile Unicode.isWhiteSpace
  let digits := cs.takeWhile Char.isDigit
  let value := digits.foldl (fun n c => n * 10 + (c.toNat - 0x30)) 0
  if digits.isEmpty || UInt32.size ≤ value then none
  else some (value, (cs.dropWhile Char.isDigit).dropWhile Unicode.isWhiteSpace)

/-- The bounds of a counted repetition behind its brace. -/
def bounds? (cs : List Char) : Option (Nat × Option Nat × List Char) := do
  let (min, rest) ← count? cs
  match rest with
  | '\x7d' :: after => return (min, some min, after)
  | ',' :: '\x7d' :: after => return (min, none, after)
  | ',' :: rest =>
    let (max, rest) ← count? rest
    match rest with
    | '\x7d' :: after => if min ≤ max then return (min, some max, after) else none
    | _ => none
  | _ => none

/-- The bounds of the repetition that begins with a character, `none` if none does. -/
def repetition (cs : List Char) : Option (Option (Nat × Option Nat × List Char)) :=
  match cs with
  | '?' :: rest => some (some (0, some 1, rest))
  | '*' :: rest => some (some (0, none, rest))
  | '+' :: rest => some (some (1, none, rest))
  | '\x7b' :: rest => some (bounds? rest)
  | _ => none

/-- White space and comments at the beginning, when they mean nothing. -/
def skipVerbose (flags : Flags) (cs : List Char) : List Char :=
  if flags.verbose then go false cs else cs
where
  go : Bool → List Char → List Char
    | _, [] => []
    | true, c :: rest => go (c != '\n') rest
    | false, c :: rest =>
      if Unicode.isWhiteSpace c then go false rest
      else if c == '#' then go true rest
      else c :: rest

def setPattern (flags : Flags) (s : CharSet) : Pattern := .set (if flags.fold then .fold s else s)

/-- The pattern of parts, the latest first; `none` is a flag setting, which matches nothing. -/
def sequence (parts : List (Option Pattern)) : Pattern :=
  match parts.reverse.filterMap id with
  | [] => .empty
  | p :: rest => rest.foldl .cat p

/-- The alternatives, the latest first. -/
def choice (done : List Pattern) (last : Pattern) : Pattern :=
  done.foldl (fun later p => .alt p later) last

/-- How a group begins behind its parenthesis. -/
inductive GroupStart
  | group (flags : Flags) (rest : List Char)
  | setFlags (flags : Flags) (rest : List Char)

/-- Read the beginning of a group. -/
def groupStart? (flags : Flags) (cs : List Char) : Option GroupStart :=
  match cs with
  | '?' :: 'P' :: '<' :: rest => (groupName? rest).map (.group flags)
  | '?' :: '<' :: c :: rest =>
    if c = '=' ∨ c = '!' then none else (groupName? (c :: rest)).map (.group flags)
  | '?' :: rest =>
    match flags? [] true flags rest with
    | some (flags, ':' :: after) => some (.group flags after)
    | some (flags', ')' :: after) =>
      if rest.head? == some ')' then none else some (.setFlags flags' after)
    | _ => none
  | _ => some (.group flags cs)

/--
Read alternatives up to a closing parenthesis or the end. `done` holds the alternatives read and
`parts` the parts of the current one, latest first. Flags set inside hold to the end of the group.
-/
def alternatives? : (fuel : Nat) → Flags → List Pattern → List (Option Pattern) → List Char →
    Option (Pattern × List Char)
  | 0, _, _, _, _ => none
  | fuel + 1, flags, done, parts, cs =>
    let cs := skipVerbose flags cs
    let more (p : Pattern) (rest : List Char) : Option (Pattern × List Char) :=
      alternatives? fuel flags done (some p :: parts) rest
    match repetition cs with
    | some bounds =>
      match bounds, parts with
      | some (min, max, rest), some p :: before =>
        let (marked, rest) :=
          match rest with
          | '?' :: tail => (true, tail)
          | _ => (false, rest)
        alternatives? fuel flags done
          (some (.repeated p min max (marked == flags.swapGreed)) :: before) rest
      | _, _ => none
    | none =>
      match cs with
      | [] => some (choice done (sequence parts), [])
      | ')' :: _ => some (choice done (sequence parts), cs)
      | '|' :: rest => alternatives? fuel flags (sequence parts :: done) [] rest
      | '.' :: rest =>
        more (.set (if flags.dotAll then .all else .compl (.single '\n'))) rest
      | '^' :: rest => more (.assert (if flags.multiLine then .lineStart else .textStart)) rest
      | '$' :: rest => more (.assert (if flags.multiLine then .lineEnd else .textEnd)) rest
      | '[' :: rest =>
        match class? flags.fold rest with
        | some (s, after) => more (.set s) after
        | none => none
      | '\\' :: rest =>
        match escape? rest with
        | some (.literal c, after) => more (setPattern flags (.single c)) after
        | some (.class s, after) => more (.set s) after
        | some (.assert a, after) => more (.assert a) after
        | none => none
      | '(' :: rest =>
        match groupStart? flags rest with
        | some (.setFlags flags after) => alternatives? fuel flags done (none :: parts) after
        | some (.group inner after) =>
          match alternatives? fuel inner [] [] after with
          | some (p, ')' :: after) => more p after
          | _ => none
        | none => none
      | c :: rest => more (setPattern flags (.single c)) rest

end Parser

/-- The pattern that stands for a text: characters with a meaning of their own lose it. -/
def escape (text : String) : String :=
  String.ofList <| text.toList.flatMap fun c =>
    if Parser.metaCharacters.contains c then ['\\', c] else [c]

/-- The pattern that a text describes. -/
def Pattern.parse? (fold : Bool) (text : String) : Option Pattern :=
  let cs := text.toList
  match Parser.alternatives? (cs.length + 1) { fold := fold } [] [] cs with
  | some (p, []) => some p
  | _ => none

end Galley.Regex
