/-!
# Fields of the index

Terms are kept apart by field. Every entry has the built-in fields, whose names begin with two
colons; the properties of an entry have fields named after a table of the entry and the property.
-/

namespace ContentSearch.Field

/-! ## Built-in fields -/

/-- The name of the entry as it is stored. -/
def name : String := "::name"

/-- The name without what stands before its last colon. -/
def localName : String := "::localname"

/-- The identifier of the entry. -/
def id : String := "::id"

/-- The identifier of the nearest parent. -/
def parent : String := "::parent"

/-- The identifiers of all parents. -/
def ancestor : String := "::ancestor"

/-- The number of parents. -/
def depth : String := "::depth"

/-- The tables of the entry. -/
def table : String := "::table"

/-- All built-in fields. -/
def builtIn : List String :=
  [name, localName, id, parent, ancestor, depth, table]

/-- Whether a name is kept for built-in fields. -/
def isReserved (field : String) : Bool :=
  "::".toList.isPrefixOf field.toList

/-! ## Fields of properties -/

/-- The values of a property. -/
def property (table property : String) : String :=
  table ++ "." ++ property

/-- The lengths of the values of a property. -/
def length (table property : String) : String :=
  table ++ "." ++ property ++ "$length"

/-- The words of a property. -/
def text (table property : String) : String :=
  table ++ "." ++ property ++ "$text"

/-- The words of all properties of a table. -/
def tableText (table : String) : String :=
  table ++ "$text"

end ContentSearch.Field
