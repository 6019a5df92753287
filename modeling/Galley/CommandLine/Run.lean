import Galley.CommandLine.Report
import Galley.Json.FontForm
import Galley.Json.SettingsForm

/-!
Running the command line. Files and the standard input are reached through `Access` only, in any
monad, so a run can be followed without a file system.
-/

namespace Galley.CommandLine

/-- What became of an attempt to read a file. -/
inductive Reading
  | missing
  | unreadable
  | bytes (content : List UInt8)
deriving DecidableEq, Repr

/-- How files and the standard input are read. -/
structure Access (m : Type → Type) where
  read : String → m Reading
  input : m (List UInt8)

/-- What can go wrong in a run. -/
inductive Problem
  | unreadableConfig (path : String)
  | invalidConfig (path : String)
  | unreadableFonts (path : String)
  | invalidFonts (path : String)
  | missingContent (path : String)
  | unreadableContent (path : String)
  | pageSize (width height : Float)
  | rotation (degrees : Int)
  | failure (f : Failure Float)
deriving Repr

/-- The problem in one line. -/
def Problem.message : Problem → String
  | unreadableConfig path => "failed to read config " ++ path
  | invalidConfig path => "invalid config " ++ path
  | unreadableFonts path => "failed to read fonts " ++ path
  | invalidFonts path => "invalid fonts file " ++ path
  | missingContent path => "file not found: " ++ path
  | unreadableContent path => "failed to read " ++ path
  | pageSize width height =>
    "page size must be positive, got " ++ Decimal.plainText width ++ " x " ++
      Decimal.plainText height
  | rotation degrees => "--rotate must be a multiple of 90, got " ++ toString degrees
  | failure f => f.message

/-- What a run leaves behind. -/
structure Outcome where
  code : UInt32
  output : String
  /-- A line for the standard error. -/
  complaint : Option String
deriving DecidableEq, Repr

/-- How the command is used. -/
def usage : String :=
  "Usage: text|chars|words FILE [OPTIONS]\n" ++
  "       search FILE PATTERN [--literal] [-i|--ignore-case] [OPTIONS]\n" ++
  "FILE may be - for the standard input.\n" ++
  "Options: --format text|json|csv, --mode plain|layout|columns (text only), --width W,\n" ++
  "         --height H, --rotate DEGREES, --config FILE, --fonts FILE, --raw-order,\n" ++
  "         --unicode-norm nfc|nfd|nfkc|nfkd, -h|--help\n"

/-- What is left behind when there is nothing to run. -/
def Stop.outcome : Stop → Outcome
  | help => ⟨0, usage, none⟩
  | version => ⟨0, "galley 0.1.0\n", none⟩
  | misuse => ⟨2, "", some usage⟩

/-- The text of a file, `none` if it cannot be read or is not in UTF-8. -/
def Reading.text? : Reading → Option String
  | bytes content => String.fromUTF8? ⟨content.toArray⟩
  | _ => none

/-- The settings that a configuration file holds. -/
def settingsOf (path : String) (reading : Reading) : Except Problem (Settings Float) :=
  match reading.text? with
  | none => .error (.unreadableConfig path)
  | some text =>
    match (Json.parse? text).bind JsonForm.ofJson? with
    | none => .error (.invalidConfig path)
    | some settings => .ok settings

/-- The settings of a request: those of a file or the defaults, with what the arguments set. -/
def Request.overlay (r : Request) (settings : Settings Float) : Settings Float :=
  { settings with
    streamOrder := settings.streamOrder || r.streamOrder
    form := r.form.getD settings.form }

/-- The settings of a request, if they are in order. -/
def Request.settings (r : Request) (loaded : Settings Float) : Except Problem (Settings Float) :=
  let settings := r.overlay loaded
  match settings.validate with
  | .error e => .error (.failure (.settings e))
  | .ok () => .ok settings

/-- The fonts that a font file holds. -/
def fontsOf (path : String) (reading : Reading) : Except Problem (FontBook Float) :=
  match reading.text? with
  | none => .error (.unreadableFonts path)
  | some text =>
    match FontBook.parse? text with
    | none => .error (.invalidFonts path)
    | some fonts => .ok fonts

/-- The content that a file holds. -/
def contentOf (path : String) (reading : Reading) : Except Problem (List UInt8) :=
  match reading with
  | .missing => .error (.missingContent path)
  | .unreadable => .error (.unreadableContent path)
  | .bytes content => .ok content

/-- The sheet of a request: its size is positive, and it is turned by whole quarters. -/
def Request.sheet (r : Request) : Except Problem (Sheet Float) :=
  if !(Scalar.isPositive r.width && Scalar.isPositive r.height) then
    .error (.pageSize r.width r.height)
  else if r.rotate % 90 ≠ 0 then .error (.rotation r.rotate)
  else .ok ⟨r.width, r.height, r.rotate⟩

/-- The result of a request, once everything is read. -/
def Request.answer (r : Request) (fonts : FontBook Float) (sheet : Sheet Float)
    (settings : Settings Float) (content : List UInt8) : Except (Failure Float) String :=
  match r.task with
  | .chars format =>
    match Content.tokenize content with
    | .error fault => .error (.content fault)
    | .ok ops => .ok (reportGlyphs (glyphsOf fonts settings.form sheet ops) format)
  | .text mode format => do
    return reportText (← Page.ofBytes fonts sheet settings content) mode format
  | .words format => do
    return reportWords (← Page.ofBytes fonts sheet settings content).words format
  | .search pattern options format => do
    let page ← Page.ofBytes fonts sheet settings content
    return reportMatches (← page.search options pattern) format

variable {m : Type → Type} [Monad m]

/-- Read a file that may not have been asked for. -/
def loadWith {T : Type} (access : Access m) (path : Option String) (default : T)
    (read : String → Reading → Except Problem T) : ExceptT Problem m T :=
  match path with
  | none => pure default
  | some path => do
    let reading ← access.read path
    read path reading

/-- Carry out a request. The settings are checked before any other file is read. -/
def Request.run (access : Access m) (r : Request) : ExceptT Problem m String := do
  let settings ← r.settings (← loadWith access r.config .default settingsOf)
  let fonts ← loadWith access r.fonts .empty fontsOf
  let sheet ← r.sheet
  let content ←
    if r.file = "-" then access.input
    else do
      let reading ← access.read r.file
      contentOf r.file reading
  match r.answer fonts sheet settings content with
  | .ok output => return output
  | .error f => throw (.failure f)

/-- Run the command line. -/
def run (access : Access m) (args : List String) : m Outcome :=
  match parse args with
  | .error stop => pure stop.outcome
  | .ok r => do
    match ← (r.run access).run with
    | .ok output => return ⟨0, output, none⟩
    | .error problem => return ⟨1, "", some ("Error: " ++ problem.message)⟩

end Galley.CommandLine
