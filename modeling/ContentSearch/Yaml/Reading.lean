import ContentSearch.Yaml.Document
import ContentSearch.Yaml.Layout

/-!
# Reading YAML

The settings that a text in YAML holds.
-/

namespace ContentSearch.Yaml

/-- The value of a text with one document. A text without any is an empty mapping. -/
def ofText? (s : String) : Option Json := do
  let tokens ← Token.ofText? s
  match ← Document.ofTokens? tokens with
  | none => some (.object [])
  | some v => v.toJson?.map Json.lastWins

end ContentSearch.Yaml
