import Galley.Json.PageForm
import Galley.Search

/-!
Search options and matches as JSON.
-/

namespace Galley

instance : JsonForm SearchOptions where
  toJson o := .object [("regex", toJson o.regex), ("case_sensitive", toJson o.caseSensitive)]
  ofJson? j := do
    let r ← JsonRecord.ofJson? ["regex", "case_sensitive"] j
    let d : SearchOptions := {}
    return {
      regex := ← r.withDefault "regex" d.regex
      caseSensitive := ← r.withDefault "case_sensitive" d.caseSensitive }

instance : JsonForm (SearchMatch Float) where
  toJson m := .object [
    ("text", toJson m.text), ("bbox", toJson m.box), ("word_indices", toJson m.words)]
  ofJson? j := do
    let r ← JsonRecord.ofJson? ["text", "bbox", "word_indices"] j
    return {
      text := ← r.required "text"
      box := ← r.required "bbox"
      words := ← r.required "word_indices" }

end Galley
