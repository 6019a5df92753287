import Galley.Content.Run
import Galley.Content.Stream
import Galley.Failure
import Galley.Rendering.Columns
import Galley.Rendering.Grid
import Galley.Search
import Galley.Segmenter
import Galley.WordStore

/-!
From the content of a page to its words, and from these to text.
-/

namespace Galley

/-- What was read from a page. -/
structure Page (α : Type) where
  sheet : Sheet α
  settings : Settings α
  store : WordStore α
  tally : Tally
  warnings : List Warning
deriving Repr

variable {α : Type} [Scalar α]

/-- What has been gathered from the events of a page. -/
structure Collector (α : Type) where
  segmenter : Segmenter α
  store : WordStore α
  /-- Whether the limit of tiny glyphs was reported. -/
  limitReported : Bool
  /-- The warnings, latest first. -/
  warnings : List Warning

namespace Collector

omit [Scalar α] in
def empty (settings : Settings α) : Collector α :=
  ⟨.empty, .empty settings.bucketHeight, false, []⟩

omit [Scalar α] in
/-- Note a warning, if warnings are wanted. -/
def warn (settings : Settings α) (c : Collector α) (w : Warning) : Collector α :=
  if settings.collectWarnings then { c with warnings := w :: c.warnings } else c

omit [Scalar α] in
/-- Report the limit of tiny glyphs when it is passed for the first time. -/
def checkLimit (settings : Settings α) (c : Collector α) : Collector α :=
  if !c.limitReported && c.segmenter.limitReached settings then
    { c with limitReported := true }.warn settings (.tinyGlyphs settings.tinyLimit)
  else c

/-- Go on to a later state of the segmenter and put away the words that it finished on the way. -/
def advance (settings : Settings α) (c : Collector α) (s : Segmenter α) : Collector α :=
  { c with
    segmenter := s
    store := (s.finishedSince c.segmenter).foldl (WordStore.put settings) c.store }

/-- Take in one event. -/
def accept (page : Box α) (settings : Settings α) (c : Collector α) :
    Content.Event α → Collector α
  | .glyph g => (c.advance settings (c.segmenter.push page settings g)).checkLimit settings
  | .textEnd => c.advance settings c.segmenter.close
  | .warning w => c.warn settings w

end Collector

namespace Page

/-- Read a page from its operators. -/
def ofOperators (fonts : FontBook α) (sheet : Sheet α) (settings : Settings α)
    (ops : List (Content.Operator α)) : Page α :=
  let events := Content.events ⟨fonts, settings.form⟩ sheet ops
  let gathered := events.foldl (Collector.accept sheet.bounds settings) (.empty settings)
  let gathered := gathered.advance settings gathered.segmenter.close
  ⟨sheet, settings, gathered.store, gathered.segmenter.tally, gathered.warnings.reverse⟩

/-- Read a page from the bytes of its content, once the settings are found in order. -/
def ofBytes (fonts : FontBook α) (sheet : Sheet α) (settings : Settings α) (bytes : List UInt8) :
    Except (Failure α) (Page α) :=
  match settings.validate with
  | .error error => .error (.settings error)
  | .ok () =>
    match Content.tokenize bytes with
    | .error fault => .error (.content fault)
    | .ok ops => .ok (ofOperators fonts sheet settings ops)

/-- The words by direction and baseline. Those kept in stream order are pooled on demand. -/
def pools (p : Page α) : Pools α :=
  if p.settings.streamOrder then .ofWords p.settings.bucketHeight p.store.stream else p.store.pools

/-- The words in reading order, or as they were drawn if the settings say so. -/
def words (p : Page α) : List (Word α) :=
  if p.settings.streamOrder then p.store.stream
  else p.store.pools.readingOrder p.settings.lineOptions

/-- Running text. -/
def plainText (p : Page α) : String :=
  if p.settings.streamOrder then Rendering.stream p.settings p.store.stream
  else Rendering.plain p.settings p.store.pools

/-- Text on a grid of characters. -/
def gridText (p : Page α) : String := Rendering.grid p.settings p.sheet.bounds p.pools

/-- Text column by column. -/
def columnText (p : Page α) : String := Rendering.columns p.settings p.sheet.bounds p.pools

/-- The columns of the upright lines. -/
def columnLayout (p : Page α) : ColumnLayout α :=
  Rendering.columnLayout p.settings p.sheet.bounds p.pools

/-- Search the words. -/
def search (p : Page α) (options : SearchOptions) (pattern : String) :
    Except (Failure α) (List (SearchMatch α)) :=
  match Search.search? options pattern p.words with
  | some found => .ok found
  | none => .error .pattern

end Page

/-- The glyphs that operators show, before words are made of them. -/
def glyphsOf (fonts : FontBook α) (form : Normalization) (sheet : Sheet α)
    (ops : List (Content.Operator α)) : List (Glyph α) :=
  (Content.events ⟨fonts, form⟩ sheet ops).filterMap fun
    | .glyph g => some g
    | _ => none

end Galley
