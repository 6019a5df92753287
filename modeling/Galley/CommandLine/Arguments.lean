import Galley.Decimal.Numeral
import Galley.Search
import Galley.Unicode.Normalization

/-!
What the arguments of the command line ask for. Options may stand anywhere behind the subcommand,
their values as `--name value` or `--name=value`; each may be given once, and behind `--` nothing is
an option.
-/

namespace Galley.CommandLine

inductive Subcommand
  | text
  | chars
  | words
  | search
deriving DecidableEq, Repr

def Subcommand.ofName? (name : String) : Option Subcommand :=
  match name with
  | "text" => some .text
  | "chars" => some .chars
  | "words" => some .words
  | "search" => some .search
  | _ => none

/-- How the text of a page is laid out. -/
inductive TextMode
  | plain
  | layout
  | columns
deriving DecidableEq, Repr, Inhabited

namespace TextMode

def name : TextMode → String
  | plain => "plain"
  | layout => "layout"
  | columns => "columns"

def ofName? (name : String) : Option TextMode :=
  [plain, layout, columns].find? fun mode => mode.name == name

end TextMode

/-- How results are written. -/
inductive Format
  | text
  | json
  | csv
deriving DecidableEq, Repr, Inhabited

/-- The format of a name; running text has no form as a table. -/
def Format.ofName? (s : Subcommand) (name : String) : Option Format :=
  match name with
  | "text" => some .text
  | "json" => some .json
  | "csv" => if s = .text then none else some .csv
  | _ => none

/-- The normalization form of a name. -/
def formOfName? (name : String) : Option Normalization :=
  match name with
  | "nfc" => some .nfc
  | "nfd" => some .nfd
  | "nfkc" => some .nfkc
  | "nfkd" => some .nfkd
  | _ => none

/-- What to show of a page. -/
inductive Task
  | text (mode : TextMode) (format : Format)
  | chars (format : Format)
  | words (format : Format)
  | search (pattern : String) (options : SearchOptions) (format : Format)
deriving DecidableEq, Repr

/-- A page and what to show of it. -/
structure Request where
  task : Task
  /-- The file with the content; `-` stands for the standard input. -/
  file : String
  width : Float
  height : Float
  rotate : Int
  config : Option String
  fonts : Option String
  streamOrder : Bool
  form : Option Normalization
deriving Repr

/-- Why there is nothing to run. -/
inductive Stop
  | help
  | version
  | misuse
deriving DecidableEq, Repr

/-- What has been read of the arguments behind a subcommand. -/
structure Draft where
  file : Option String := none
  pattern : Option String := none
  mode : Option TextMode := none
  format : Option Format := none
  width : Option Float := none
  height : Option Float := none
  rotate : Option Int := none
  config : Option String := none
  fonts : Option String := none
  form : Option Normalization := none
  streamOrder : Bool := false
  literal : Bool := false
  ignoreCase : Bool := false
deriving Repr

/-- An argument by its shape. -/
inductive Token
  /-- `--`, behind which nothing is an option. -/
  | escape
  | long (name : String) (value : Option String)
  | short (letters : List Char)
  | plain
deriving DecidableEq, Repr

/-- The shape of an argument. A lone dash is no option. -/
def Token.ofText (arg : String) : Token :=
  match arg.toList with
  | ['-', '-'] => .escape
  | '-' :: '-' :: cs =>
    .long (String.ofList (cs.takeWhile (· != '=')))
      (match cs.dropWhile (· != '=') with
        | _ :: value => some (String.ofList value)
        | [] => none)
  | ['-'] => .plain
  | '-' :: letters => .short letters
  | _ => .plain

/-- A path, which is never empty. -/
def path? (value : String) : Option String := if value.isEmpty then none else some value

/-- An angle in degrees. -/
def degrees? (value : String) : Option Int :=
  (Decimal.intOfText? value).filter fun n =>
    Int32.minValue.toInt ≤ n && n ≤ Int32.maxValue.toInt

/-- The options that take a value. -/
def takesValue (s : Subcommand) (name : String) : Bool :=
  ["width", "height", "rotate", "config", "fonts", "unicode-norm", "format"].contains name ||
    (name == "mode" && s == .text)

namespace Draft

/-- Set what was not set before, to a value that could be read. -/
def once {T : Type} (current value : Option T) (set : T → Draft) : Except Stop Draft :=
  match current, value with
  | none, some v => .ok (set v)
  | _, _ => .error .misuse

/-- Set a flag that was not set before. -/
def raise (current : Bool) (set : Draft) : Except Stop Draft :=
  if current then .error .misuse else .ok set

/-- Read an option with its value. -/
def withOption (s : Subcommand) (d : Draft) (name value : String) : Except Stop Draft :=
  match name with
  | "width" => once d.width (Decimal.floatOfText? value) fun v => { d with width := some v }
  | "height" => once d.height (Decimal.floatOfText? value) fun v => { d with height := some v }
  | "rotate" => once d.rotate (degrees? value) fun v => { d with rotate := some v }
  | "config" => once d.config (path? value) fun v => { d with config := some v }
  | "fonts" => once d.fonts (path? value) fun v => { d with fonts := some v }
  | "unicode-norm" => once d.form (formOfName? value) fun v => { d with form := some v }
  | "format" => once d.format (Format.ofName? s value) fun v => { d with format := some v }
  | "mode" => once d.mode (TextMode.ofName? value) fun v => { d with mode := some v }
  | _ => .error .misuse

/-- Read an option without a value. -/
def withFlag (s : Subcommand) (d : Draft) (name : String) : Except Stop Draft :=
  match name with
  | "help" => .error .help
  | "raw-order" => raise d.streamOrder { d with streamOrder := true }
  | "literal" =>
    if s = .search then raise d.literal { d with literal := true } else .error .misuse
  | "ignore-case" =>
    if s = .search then raise d.ignoreCase { d with ignoreCase := true } else .error .misuse
  | _ => .error .misuse

/-- Read options of one letter. -/
def withLetters (s : Subcommand) (d : Draft) : List Char → Except Stop Draft
  | [] => .ok d
  | 'h' :: _ => .error .help
  | 'i' :: rest => (d.withFlag s "ignore-case").bind fun d => d.withLetters s rest
  | _ => .error .misuse

/-- Read an argument that is no option. -/
def withPlain (s : Subcommand) (d : Draft) (value : String) : Except Stop Draft :=
  match d.file with
  | none => once none (path? value) fun v => { d with file := some v }
  | some _ =>
    if s = .search then once d.pattern (some value) fun v => { d with pattern := some v }
    else .error .misuse

/-- Read arguments behind `--`. -/
def withPlains (s : Subcommand) (d : Draft) (args : List String) : Except Stop Draft :=
  args.foldlM (withPlain s) d

/-- Whether an argument can be the value of an option in front of it. -/
def isValueOf (name value : String) : Bool :=
  name == "rotate" || Token.ofText value == .plain

/-- Read the arguments behind a subcommand. -/
def read (s : Subcommand) (d : Draft) : List String → Except Stop Draft
  | [] => .ok d
  | arg :: rest =>
    match Token.ofText arg with
    | .escape => d.withPlains s rest
    | .plain => (d.withPlain s arg).bind fun d => d.read s rest
    | .short letters => (d.withLetters s letters).bind fun d => d.read s rest
    | .long name (some value) =>
      if takesValue s name then (d.withOption s name value).bind fun d => d.read s rest
      else .error .misuse
    | .long name none =>
      if takesValue s name then
        match rest with
        | [] => .error .misuse
        | value :: rest =>
          if isValueOf name value then (d.withOption s name value).bind fun d => d.read s rest
          else .error .misuse
      else (d.withFlag s name).bind fun d => d.read s rest

/-- The task of a subcommand; a search needs a pattern. -/
def task? (s : Subcommand) (d : Draft) : Option Task :=
  let format := d.format.getD .text
  match s with
  | .text => some (.text (d.mode.getD .plain) format)
  | .chars => some (.chars format)
  | .words => some (.words format)
  | .search => d.pattern.map fun p => .search p ⟨!d.literal, !d.ignoreCase⟩ format

/-- The request, if nothing is missing. -/
def request? (s : Subcommand) (d : Draft) : Option Request := do
  return {
    task := ← d.task? s
    file := ← d.file
    width := d.width.getD 612.0
    height := d.height.getD 792.0
    rotate := d.rotate.getD 0
    config := d.config
    fonts := d.fonts
    streamOrder := d.streamOrder
    form := d.form }

end Draft

/-- What arguments without a subcommand in front ask for. -/
def stopOf (args : List String) : Stop :=
  match args with
  | [] => .misuse
  | ["help"] => .help
  | ["help", name] => if name = "help" ∨ (Subcommand.ofName? name).isSome then .help else .misuse
  | arg :: _ =>
    match Token.ofText arg with
    | .long "help" none => .help
    | .long "version" none => .version
    | .short ('h' :: _) => .help
    | .short ('V' :: _) => .version
    | _ => .misuse

/-- What arguments ask for. -/
def parse (args : List String) : Except Stop Request :=
  match args with
  | name :: rest =>
    match Subcommand.ofName? name with
    | some s => (Draft.read s {} rest).bind fun d =>
      match d.request? s with
      | some r => .ok r
      | none => .error .misuse
    | none => .error (stopOf args)
  | [] => .error (stopOf args)

end Galley.CommandLine
