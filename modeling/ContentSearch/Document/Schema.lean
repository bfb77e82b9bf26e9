import ContentSearch.Document.Query
import ContentSearch.Schema.Basic

/-!
# Schemas in documents

A schema is written as an object of tables by name, a table as an object of columns by name.
-/

namespace ContentSearch

/-- A column. -/
def Column.toJson (c : Column) : Json :=
  .object [("name", .text c.name), ("property_type", .text c.type.documentName),
    ("full_text_searchable", .bool c.searchable),
    ("available_operators", .texts (c.availableOperators.map Operator.label))]

/-- Reads a column. -/
def Column.ofJson? (j : Json) : Option Column := do
  let fields ← j.fields? ["name", "property_type", "full_text_searchable", "available_operators"]
  let name ← fields.required? "name" Json.text?
  let type ← fields.required? "property_type" PropertyType.ofJson?
  let searchable ← fields.defaulted? "full_text_searchable" false Json.bool?
  let operators ← fields.required? "available_operators" (Json.listOf? Operator.ofJson?)
  some ⟨name, type, searchable, operators⟩

/-- Reads a table. Columns are found by their keys. -/
def Table.ofJson? (j : Json) : Option Table := do
  let fields ← j.fields? ["name", "columns", "definition"]
  let name ← fields.required? "name" Json.text?
  let columns ← fields.required? "columns" (Json.membersOf? Column.ofJson?)
  let definition? ← fields.optional? "definition" Query.ofJson?
  some ⟨name, OrderedMap.ofList columns, definition?⟩

/-- Reads a schema. Tables are found by their keys. -/
def Schema.ofJson? (j : Json) : Option Schema := do
  let fields ← j.fields? ["tables"]
  let tables ← fields.required? "tables" (Json.membersOf? Table.ofJson?)
  some ⟨OrderedMap.ofList tables⟩

end ContentSearch
