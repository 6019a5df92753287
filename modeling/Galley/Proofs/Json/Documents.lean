import Galley.Proofs.Json.Forms

/-!
This module contains partial documents: objects that give some of the fields of a record of
options, in any order. They are read as the defaults with the given fields in their place, on every
level.
-/

namespace Galley

open Json (parse? compact pretty)

/-- A value as it stands in a document. -/
structure Given (T : Type) [JsonForm T] where
  json : Json
  value : T
  reads : ofJson? json = some value

/-- The field of this name among fields that may be left out. -/
def slotOf (name : String) : List (String × Option Json) → Option Json
  | [] => none
  | (other, slot) :: rest => if name = other then slot else slotOf name rest

/-- The fields that are not left out. -/
def present : List (String × Option Json) → List (String × Json)
  | [] => []
  | (_, none) :: rest => present rest
  | (name, some j) :: rest => (name, j) :: present rest

/-- An object that gives fields of a record in an order of its own. -/
structure Document {P : Type} (slots : P → List (String × Option Json)) where
  given : P
  fields : List (String × Json)
  order : fields.Perm (present (slots given))

namespace Document

def json {P : Type} {slots : P → List (String × Option Json)} (d : Document slots) : Json :=
  .object d.fields

end Document

section Slots

theorem map_present_sublist (slots : List (String × Option Json))
    : ((present slots).map (·.1)).Sublist (slots.map (·.1)) := by
  induction slots with
  | nil => exact .slnil
  | cons slot slots ih =>
    obtain ⟨name, _ | j⟩ := slot
    . exact ih.cons name
    . exact ih.cons_cons name

theorem slotOf_eq_none {name : String} {slots : List (String × Option Json)}
    (h : name ∉ slots.map (·.1)) : slotOf name slots = none := by
  induction slots with
  | nil => rfl
  | cons slot slots ih =>
    rw [List.map_cons, List.mem_cons, not_or] at h
    rw [slotOf, if_neg h.1]
    exact ih h.2

theorem lookup_present {slots : List (String × Option Json)} (h : (slots.map (·.1)).Nodup)
    (name : String) : (present slots).lookup name = slotOf name slots := by
  induction slots with
  | nil => rfl
  | cons slot slots ih =>
    rw [List.map_cons, List.nodup_cons] at h
    obtain ⟨other, slot⟩ := slot
    have ih := ih h.2
    by_cases hname : name = other
    . subst hname
      rw [slotOf, if_pos rfl]
      cases slot with
      | none =>
        rw [present, ih]
        exact slotOf_eq_none h.1
      | some j => exact List.lookup_cons_self
    . rw [slotOf, if_neg hname, ← ih]
      cases slot with
      | none => rfl
      | some j => exact JsonRecord.lookup_ne hname

/-- Where no name repeats, the order does not matter. -/
theorem lookup_perm {fields fields' : List (String × Json)} (h : fields.Perm fields')
    (hdistinct : (fields.map (·.1)).Nodup) (name : String)
    : fields.lookup name = fields'.lookup name := by
  induction h with
  | nil => rfl
  | cons field _ ih =>
    rw [List.map_cons, List.nodup_cons] at hdistinct
    rw [List.lookup_cons, List.lookup_cons, ih hdistinct.2]
  | swap field field' fields =>
    simp only [List.map_cons, List.nodup_cons, List.mem_cons, not_or] at hdistinct
    obtain ⟨first, j⟩ := field
    obtain ⟨second, k⟩ := field'
    by_cases hfirst : name = first
    . have hsecond : name ≠ second := fun hname => hdistinct.1.1 (hname.symm.trans hfirst)
      simp only [List.lookup_cons, beq_false_of_ne hsecond]
    . simp only [List.lookup_cons, beq_false_of_ne hfirst]
  | trans h _ ih ih' =>
    rw [ih hdistinct]
    exact ih' ((h.map _).nodup_iff.mp hdistinct)

end Slots

namespace JsonRecord

variable {T : Type} [JsonForm T]

/-- The value that a field gives, or its default. -/
def valueOr (slot : Option Json) (default : T) : Option T :=
  slot.elim (some default) JsonForm.ofJson?

theorem withDefault_eq (r : JsonRecord) (name : String) (default : T)
    : r.withDefault name default = valueOr (r.fields.lookup name) default := by
  unfold withDefault
  cases r.fields.lookup name <;> rfl

theorem valueOr_map {S : Type} {json : S → Json} {value : S → T}
    (h : ∀ s, JsonForm.ofJson? (json s) = some (value s)) (slot : Option S) (default : T)
    : valueOr (slot.map json) default = some (slot.elim default value) := by
  cases slot with
  | none => rfl
  | some s => exact h s

@[simp]
theorem valueOr_given (slot : Option (Given T)) (default : T)
    : valueOr (slot.map (·.json)) default = some (slot.elim default (·.value)) :=
  valueOr_map Given.reads slot default

end JsonRecord

/--
A record whose fields all have defaults is read from a document slot by slot: every reading of a
field gives the same as one of the slot of its name.
-/
theorem Document.read {P T : Type} {slots : P → List (String × Option Json)}
    {names : List String} {value : T} {read? : JsonRecord → Option T} (d : Document slots)
    (hnames : (slots d.given).map (·.1) = names) (hdistinct : names.Nodup)
    (hread : ∀ r : JsonRecord,
      (∀ {S : Type} [JsonForm S] (name : String) (default : S),
        r.withDefault name default = JsonRecord.valueOr (slotOf name (slots d.given)) default) →
      read? r = some value)
    : (JsonRecord.ofJson? names d.json).bind read? = some value := by
  subst hnames
  have hnodup : (d.fields.map (·.1)).Nodup := by
    rw [(d.order.map _).nodup_iff]
    exact hdistinct.sublist (map_present_sublist _)
  have hknown : ∀ field ∈ d.fields, field.1 ∈ (slots d.given).map (·.1) := by
    intro field hfield
    apply (map_present_sublist _).subset
    exact List.mem_map_of_mem (d.order.subset hfield)
  unfold Document.json
  rw [JsonRecord.ofJson?_object hknown hnodup, Option.bind_some]
  refine hread _ fun name default => ?_
  rw [JsonRecord.withDefault_eq, lookup_perm d.order hnodup, lookup_present hdistinct]

namespace WordTolerances

/-- The tolerances that a document may give. -/
structure Partial where
  duplicateAlong : Option (Given Float)
  duplicateAcross : Option (Given Float)
  overlap : Option (Given Float)
  gap : Option (Given Float)
  drift : Option (Given Float)

namespace Partial

def slots (p : Partial) : List (String × Option Json) := [
  ("dup_max_pri_delta", p.duplicateAlong.map (·.json)),
  ("dup_max_sec_delta", p.duplicateAcross.map (·.json)),
  ("min_dup_break_overlap", p.overlap.map (·.json)),
  ("min_word_break_space", p.gap.map (·.json)),
  ("max_base_delta", p.drift.map (·.json))]

def overDefaults (p : Partial) : WordTolerances Float where
  duplicateAlong := p.duplicateAlong.elim default.duplicateAlong (·.value)
  duplicateAcross := p.duplicateAcross.elim default.duplicateAcross (·.value)
  overlap := p.overlap.elim default.overlap (·.value)
  gap := p.gap.elim default.gap (·.value)
  drift := p.drift.elim default.drift (·.value)

end Partial

theorem ofJson?_document (d : Document Partial.slots)
    : ofJson? d.json = some d.given.overDefaults := by
  refine d.read rfl (by simp) fun r hr => ?_
  simp [hr, slotOf, Partial.slots, Partial.overDefaults]

end WordTolerances

namespace SpacingThresholds

/-- The thresholds that a document may give. -/
structure Partial where
  mergeBelow : Option (Given Float)
  splitAbove : Option (Given Float)

namespace Partial

def slots (p : Partial) : List (String × Option Json) := [
  ("merge_below", p.mergeBelow.map (·.json)),
  ("split_above", p.splitAbove.map (·.json))]

def overDefaults (p : Partial) : SpacingThresholds Float where
  mergeBelow := p.mergeBelow.elim default.mergeBelow (·.value)
  splitAbove := p.splitAbove.elim default.splitAbove (·.value)

end Partial

theorem ofJson?_document (d : Document Partial.slots)
    : ofJson? d.json = some d.given.overDefaults := by
  refine d.read rfl (by simp) fun r hr => ?_
  simp [hr, slotOf, Partial.slots, Partial.overDefaults]

end SpacingThresholds

namespace GridOptions

/-- The options of the grid that a document may give. -/
structure Partial where
  cellWidth : Option (Given (Option Float))
  lineHeight : Option (Given (Option Float))
  maxSpaces : Option (Given Nat)
  maxBlankLines : Option (Given Nat)

namespace Partial

def slots (p : Partial) : List (String × Option Json) := [
  ("cell_width", p.cellWidth.map (·.json)),
  ("line_height", p.lineHeight.map (·.json)),
  ("max_leading_spaces", p.maxSpaces.map (·.json)),
  ("max_blank_lines", p.maxBlankLines.map (·.json))]

def overDefaults (p : Partial) : GridOptions Float where
  cellWidth := p.cellWidth.elim default.cellWidth (·.value)
  lineHeight := p.lineHeight.elim default.lineHeight (·.value)
  maxSpaces := p.maxSpaces.elim (default : GridOptions Float).maxSpaces (·.value)
  maxBlankLines := p.maxBlankLines.elim (default : GridOptions Float).maxBlankLines (·.value)

end Partial

theorem ofJson?_document (d : Document Partial.slots)
    : ofJson? d.json = some d.given.overDefaults := by
  refine d.read rfl (by simp) fun r hr => ?_
  simp [hr, slotOf, Partial.slots, Partial.overDefaults]

end GridOptions

namespace ColumnOptions

/-- The options of columns that a document may give. -/
structure Partial where
  minGap : Option (Given Float)
  maxColumns : Option (Given Nat)
  quantum : Option (Given Float)

namespace Partial

def slots (p : Partial) : List (String × Option Json) := [
  ("min_gap_width", p.minGap.map (·.json)),
  ("max_columns", p.maxColumns.map (·.json)),
  ("quantum", p.quantum.map (·.json))]

def overDefaults (p : Partial) : ColumnOptions Float where
  minGap := p.minGap.elim default.minGap (·.value)
  maxColumns := p.maxColumns.elim (default : ColumnOptions Float).maxColumns (·.value)
  quantum := p.quantum.elim default.quantum (·.value)

end Partial

theorem ofJson?_document (d : Document Partial.slots)
    : ofJson? d.json = some d.given.overDefaults := by
  refine d.read rfl (by simp) fun r hr => ?_
  simp [hr, slotOf, Partial.slots, Partial.overDefaults]

end ColumnOptions

namespace Settings

/-- The settings that a document may give; those of a group are a document of their own. -/
structure Partial where
  word : Option (Document WordTolerances.Partial.slots)
  bucketHeight : Option (Given Float)
  tinyLimit : Option (Given Nat)
  lineTolerance : Option (Given Float)
  paragraphGap : Option (Given Float)
  spacing : Option (Document SpacingThresholds.Partial.slots)
  grid : Option (Document GridOptions.Partial.slots)
  columns : Option (Document ColumnOptions.Partial.slots)
  streamOrder : Option (Given Bool)
  collectWarnings : Option (Given Bool)
  form : Option (Given Normalization)

namespace Partial

def slots (p : Partial) : List (String × Option Json) := [
  ("word", p.word.map (·.json)),
  ("pool_quantum", p.bucketHeight.map (·.json)),
  ("max_tiny_chars", p.tinyLimit.map (·.json)),
  ("line_tolerance", p.lineTolerance.map (·.json)),
  ("paragraph_gap", p.paragraphGap.map (·.json)),
  ("spacing", p.spacing.map (·.json)),
  ("layout", p.grid.map (·.json)),
  ("columns", p.columns.map (·.json)),
  ("raw_order", p.streamOrder.map (·.json)),
  ("collect_warnings", p.collectWarnings.map (·.json)),
  ("unicode_norm", p.form.map (·.json))]

def overDefaults (p : Partial) : Settings Float where
  word := p.word.elim default.word (·.given.overDefaults)
  bucketHeight := p.bucketHeight.elim default.bucketHeight (·.value)
  tinyLimit := p.tinyLimit.elim (default : Settings Float).tinyLimit (·.value)
  lineTolerance := p.lineTolerance.elim default.lineTolerance (·.value)
  paragraphGap := p.paragraphGap.elim default.paragraphGap (·.value)
  spacing := p.spacing.elim default.spacing (·.given.overDefaults)
  grid := p.grid.elim default.grid (·.given.overDefaults)
  columns := p.columns.elim default.columns (·.given.overDefaults)
  streamOrder := p.streamOrder.elim (default : Settings Float).streamOrder (·.value)
  collectWarnings := p.collectWarnings.elim (default : Settings Float).collectWarnings (·.value)
  form := p.form.elim (default : Settings Float).form (·.value)

end Partial

theorem ofJson?_document (d : Document Partial.slots)
    : ofJson? d.json = some d.given.overDefaults := by
  refine d.read rfl (by simp) fun r hr => ?_
  simp [hr, slotOf, Partial.slots, Partial.overDefaults,
    JsonRecord.valueOr_map WordTolerances.ofJson?_document,
    JsonRecord.valueOr_map SpacingThresholds.ofJson?_document,
    JsonRecord.valueOr_map GridOptions.ofJson?_document,
    JsonRecord.valueOr_map ColumnOptions.ofJson?_document]

end Settings

namespace SearchOptions

/-- The options of a search that a document may give. -/
structure Partial where
  regex : Option (Given Bool)
  caseSensitive : Option (Given Bool)

namespace Partial

def slots (p : Partial) : List (String × Option Json) := [
  ("regex", p.regex.map (·.json)),
  ("case_sensitive", p.caseSensitive.map (·.json))]

def overDefaults (p : Partial) : SearchOptions where
  regex := p.regex.elim true (·.value)
  caseSensitive := p.caseSensitive.elim true (·.value)

end Partial

theorem ofJson?_document (d : Document Partial.slots)
    : ofJson? d.json = some d.given.overDefaults := by
  refine d.read rfl (by simp) fun r hr => ?_
  simp [hr, slotOf, Partial.slots, Partial.overDefaults]

end SearchOptions

/--
Settings, counts, options of a search, warnings, glyphs, words and columns are read back from their
JSON. A document that gives some of the settings is read as the defaults with these in their place.
-/
theorem forms_readBack
    : (∀ settings : Settings Float, (toJson settings).Legible → RoundTrips settings) ∧
        (∀ tally : Tally, (toJson tally).Legible → RoundTrips tally) ∧
        (∀ options : SearchOptions, RoundTrips options) ∧
        (∀ warning : Warning, (toJson warning).Legible → RoundTrips warning) ∧
        (∀ glyph : Glyph Float, (toJson glyph).Legible → RoundTrips glyph) ∧
        (∀ word : Word Float, (toJson word).Legible → RoundTrips word) ∧
        (∀ layout : ColumnLayout Float, (toJson layout).Legible → RoundTrips layout) ∧
        (∀ (d : Document Settings.Partial.slots) (text : String),
          parse? text = some d.json → readText? text = some d.given.overDefaults) ∧
        (∀ (d : Document SearchOptions.Partial.slots) (text : String),
          parse? text = some d.json → readText? text = some d.given.overDefaults) ∧
        ∀ j : Json, j.Legible → parse? (compact j) = some j ∧ parse? (pretty j) = some j := by
  refine ⟨fun _ h => roundTrips h, fun _ h => roundTrips h, fun options => ?_,
    fun _ h => roundTrips h, fun _ h => roundTrips h, fun _ h => roundTrips h,
    fun _ h => roundTrips h, fun d text h => ?_, fun d text h => ?_,
    fun j h => ⟨h.parse?_compact, h.parse?_pretty⟩⟩
  . have h : (toJson options).Legible := by
      refine .object ?_
      simp only [List.forall_mem_cons]
      exact ⟨.bool _, .bool _, List.forall_mem_nil _⟩
    exact roundTrips h
  . unfold readText?
    rw [h, Option.bind_some, Settings.ofJson?_document]
  . unfold readText?
    rw [h, Option.bind_some, SearchOptions.ofJson?_document]

section Samples

def sampleGlyph : Glyph Float :=
  ⟨'é', 233, 7, 72.0, 700.5, 6.25, 0.0, 12.0, .right, .horizontal, "F1"⟩

def sampleWord : Word Float where
  text := "é"
  glyphs := [sampleGlyph]
  box := ⟨72.0, 697.5, 78.25, 709.5⟩
  base := 700.5
  size := 12.0
  direction := .right
  mode := .horizontal
  edges := [72.0, 78.25]
  order := 0

def sampleLayout : ColumnLayout Float where
  columns := [⟨72.0, 78.25, [⟨[sampleWord], 700.5, .right, 12.0, sampleWord.box⟩]⟩]
  gaps := [⟨78.25, 300.0, 221.75⟩]

/-- `pool_quantum` before a `word` that gives the drift alone. -/
def sampleDocument : Document Settings.Partial.slots where
  given := {
    word := some {
      given := ⟨none, none, none, none, some ⟨.float 1.0, 1.0, by decide +kernel⟩⟩
      fields := [("max_base_delta", .float 1.0)]
      order := .refl _ }
    bucketHeight := some ⟨.int 3, 3.0, by decide +kernel⟩
    tinyLimit := none
    lineTolerance := none
    paragraphGap := none
    spacing := none
    grid := none
    columns := none
    streamOrder := none
    collectWarnings := none
    form := none }
  fields := [
    ("pool_quantum", .int 3), ("word", .object [("max_base_delta", .float 1.0)])]
  order := .swap _ _ _

theorem forms_readBack_samples
    : RoundTrips (.default : Settings Float) ∧
        RoundTrips (⟨9, 7, 1, 0, 1, 2, 0, 3⟩ : Tally) ∧
        RoundTrips (Warning.missingFont 4 "F\"9\n") ∧
        RoundTrips sampleGlyph ∧
        RoundTrips sampleWord ∧
        RoundTrips sampleLayout ∧
        readText? (pretty sampleDocument.json) =
          some { Settings.default with
            word := { WordTolerances.default with drift := 1.0 }
            bucketHeight := 3.0 } := by
  obtain ⟨hsettings, htally, -, hwarning, hglyph, hword, hlayout, hdocument, -, hparse⟩ :=
    forms_readBack
  refine ⟨hsettings _ (by decide +kernel), htally _ (by decide +kernel),
    hwarning _ (by decide +kernel), hglyph _ (by decide +kernel), hword _ (by decide +kernel),
    hlayout _ (by decide +kernel), ?_⟩
  exact hdocument sampleDocument _ (hparse _ (by decide +kernel)).2

end Samples

end Galley
