import ContentSearch.Json.Access
import ContentSearch.Query.Operator
import ContentSearch.Value

/-!
# Values in documents

A value is written with its type: `type` names the type and `value` holds the value.
-/

namespace ContentSearch

/-! ## Types and operators -/

/-- The name of a declared type in documents. It differs from the name in statements for weak
references only. -/
def PropertyType.documentName : PropertyType → String
  | .text .weakReference => "WEAK_REFERENCE"
  | t => t.label

/-- Reads a declared type. -/
def PropertyType.ofJson? (j : Json) : Option PropertyType :=
  j.name?.bind fun name => PropertyType.all.find? fun t => t.documentName == name

/-- Reads an operator by its name. -/
def Operator.ofJson? (j : Json) : Option Operator :=
  j.name?.bind fun name => Operator.all.find? fun op => op.label == name

/-! ## Values -/

namespace Value

/-- The value itself, without its type. -/
def contentJson : Value → Json
  | .text _ s => .text s
  | .binary bytes => .list (bytes.map fun b => .nat b.toNat)
  | .long n => .int n.toInt
  | .double x => .real x
  | .decimal d => .text d.text
  | .date t => .text t.exactText
  | .boolean b => .bool b

/-- A value with its type. -/
def toJson (v : Value) : Json :=
  .object [("type", .text v.type.label), ("value", v.contentJson)]

/-- Reads a value of a type. -/
def ofContent? : PropertyType → Json → Option Value
  | .text kind, j => j.text?.map (.text kind)
  | .binary, j => j.bytes?.map .binary
  | .long, j => j.int64?.map .long
  | .double, j => j.double?.map .double
  | .decimal, j => (j.text?.bind Number.Decimal.ofNotation?).map .decimal
  | .date, j => (j.text?.bind Time.Instant.ofLenientText?).map .date
  | .boolean, j => j.bool?.map .boolean

/-- Reads a value with its type. -/
def ofJson? (j : Json) : Option Value := do
  let fields ← j.fields? ["type", "value"]
  let name ← fields.required? "type" Json.name?
  let type ← PropertyType.all.find? fun t => t.label == name
  fields.required? "value" (ofContent? type)

end Value

end ContentSearch
