import ContentSearch.Content.Entry
import ContentSearch.Document.Value

/-!
# Entries in documents

An entry is written with all its lists; what is unknown of it is left out.
-/

namespace ContentSearch

open Json (record tagged texts)

/-! ## Properties -/

/-- Bytes with what is known of them. -/
def BinaryContent.toJson (b : BinaryContent) : Json :=
  record [("content", some (.list (b.bytes.map fun x => .nat x.toNat))),
    ("mime_type", b.mimeType?.map .text), ("encoding", b.encoding?.map .text),
    ("length", some (.nat b.length.toNat))]

/-- Reads bytes with what is known of them. -/
def BinaryContent.ofJson? (j : Json) : Option BinaryContent := do
  let fields ← j.fields? ["content", "mime_type", "encoding", "length"]
  let bytes ← fields.required? "content" Json.bytes?
  let mimeType? ← fields.optional? "mime_type" Json.text?
  let encoding? ← fields.optional? "encoding" Json.text?
  let length ← fields.required? "length" Json.uint64?
  some ⟨bytes, mimeType?, encoding?, length⟩

/-- What a property holds. -/
def PropertyContent.toJson : PropertyContent → Json
  | .values vs => tagged "simple" (.list (vs.map Value.toJson))
  | .binary b => tagged "binary" b.toJson

/-- Reads what a property holds. -/
def PropertyContent.ofJson? (j : Json) : Option PropertyContent :=
  j.variant?.bind fun (kind, content) =>
    match kind with
    | "simple" => (content.listOf? Value.ofJson?).map .values
    | "binary" => (BinaryContent.ofJson? content).map .binary
    | _ => none

/-- A property. -/
def Property.toJson (p : Property) : Json :=
  .object [("property_type", .text p.type.documentName), ("name", .text p.name),
    ("value", p.content.toJson)]

/-- Reads a property. -/
def Property.ofJson? (j : Json) : Option Property := do
  let fields ← j.fields? ["property_type", "name", "value"]
  let type ← fields.required? "property_type" PropertyType.ofJson?
  let name ← fields.required? "name" Json.text?
  let content ← fields.required? "value" PropertyContent.ofJson?
  some ⟨name, type, content⟩

/-! ## Entries -/

/-- An entry. -/
def Entry.toJson (e : Entry) : Json :=
  record [("identifier", some (.text e.identifier)), ("name", some (.text e.name)),
    ("path", e.path?.map .text), ("table_names", some (texts e.tables)),
    ("parent_identifiers", some (texts e.parents)),
    ("properties", some (.list (e.properties.map Property.toJson)))]

/-- The names of the members of an entry. -/
def Entry.memberNames : List String :=
  ["identifier", "name", "path", "table_names", "parent_identifiers", "properties"]

/-- Reads an entry. -/
def Entry.ofJson? (j : Json) : Option Entry := do
  let fields ← j.fields? Entry.memberNames
  let identifier ← fields.required? "identifier" Json.text?
  let name ← fields.required? "name" Json.text?
  let path? ← fields.optional? "path" Json.text?
  let tables ← fields.required? "table_names" Json.texts?
  let parents ← fields.defaulted? "parent_identifiers" [] Json.texts?
  let properties ← fields.defaulted? "properties" [] (Json.listOf? Property.ofJson?)
  some ⟨identifier, name, path?, tables, parents, properties⟩

end ContentSearch
