import ContentSearch.Text.Casing

/-!
# Property types

The declared types of columns, properties and literals. Six of them hold text and differ only in
what the text is for.
-/

namespace ContentSearch

/-- What a text is for. -/
inductive TextKind
  | string | name | path | reference | weakReference | uri
  deriving DecidableEq, Repr

/-- The type of a value. -/
inductive PropertyType
  | text (kind : TextKind)
  | binary
  | long
  | double
  | decimal
  | date
  | boolean
  deriving DecidableEq, Repr

namespace PropertyType

/-- The type of plain text. -/
abbrev string : PropertyType := .text .string

/-- All types in their canonical order. -/
def all : List PropertyType :=
  [.text .string, .binary, .long, .double, .decimal, .date, .boolean,
    .text .name, .text .path, .text .reference, .text .weakReference, .text .uri]

theorem mem_all (t : PropertyType) : t ∈ all := by
  cases t with
  | text k => cases k <;> decide
  | _ => decide

/-- The name of a type in statements and messages. -/
def label : PropertyType → String
  | .text .string => "STRING"
  | .text .name => "NAME"
  | .text .path => "PATH"
  | .text .reference => "REFERENCE"
  | .text .weakReference => "WEAKREFERENCE"
  | .text .uri => "URI"
  | .binary => "BINARY"
  | .long => "LONG"
  | .double => "DOUBLE"
  | .decimal => "DECIMAL"
  | .date => "DATE"
  | .boolean => "BOOLEAN"

/-- The type with this name, in letters of any case. -/
def ofLabel? (name : String) : Option PropertyType :=
  all.find? fun t => Text.sameAscii t.label name

/-- Whether values of the type are text. -/
def isText : PropertyType → Bool
  | .text _ => true
  | _ => false

/-- Whether values of the type are numbers. -/
def isNumeric : PropertyType → Bool
  | .long | .double | .decimal => true
  | _ => false

theorem ofLabel?_label (t : PropertyType) : ofLabel? t.label = some t := by
  cases t with
  | text k => cases k <;> decide +kernel
  | _ => decide +kernel

end PropertyType

end ContentSearch
