import ContentSearch.OrderedMap
import ContentSearch.Query.Basic

/-!
# Schemas

The tables that queries may draw from, the columns of each table, and the operators that each
column allows. A table with a definition is a view: its rows are those of the defining query.
-/

namespace ContentSearch

/-- A column of a table. -/
structure Column where
  name : String
  type : PropertyType
  searchable : Bool
  operators : List Operator

namespace Column

/-- A column that allows every operator and is not searched by full text. -/
def plain (name : String) (type : PropertyType) : Column :=
  ⟨name, type, false, Operator.all⟩

/-- Whether the column allows the operator. -/
def supports (c : Column) (op : Operator) : Bool :=
  c.operators.contains op

/-- The allowed operators in their canonical order. -/
def availableOperators (c : Column) : List Operator :=
  Operator.all.filter c.supports

end Column

/-- A table or view. -/
structure Table where
  name : String
  columns : OrderedMap String Column
  definition? : Option Query

namespace Table

/-- A table with these columns. -/
def ofColumns (name : String) (columns : List Column) : Table :=
  ⟨name, OrderedMap.ofList (columns.map fun c => (c.name, c)), none⟩

/-- The column of this name. -/
def column? (t : Table) (name : String) : Option Column :=
  t.columns.get? name

/-- Adds or replaces a column. -/
def withColumn (t : Table) (c : Column) : Table :=
  { t with columns := t.columns.insert c.name c }

/-- Whether the table is defined by a query. -/
def isView (t : Table) : Bool :=
  t.definition?.isSome

end Table

/-- Tables by name. -/
structure Schema where
  tables : OrderedMap String Table

namespace Schema

/-- The schema without tables. -/
def empty : Schema := ⟨OrderedMap.empty⟩

/-- The table or view of this name. -/
def table? (s : Schema) (name : String) : Option Table :=
  s.tables.get? name

/-- Adds or replaces a table, whatever its definition says. -/
def withTable (s : Schema) (t : Table) : Schema :=
  ⟨s.tables.insert t.name t⟩

/-- Drops a table. -/
def withoutTable (s : Schema) (name : String) : Schema :=
  ⟨s.tables.erase name⟩

@[simp] theorem table?_withTable (s : Schema) (t : Table) (name : String) :
    (s.withTable t).table? name = if name = t.name then some t else s.table? name := by
  simp [withTable, table?]

end Schema

/-! ## Published schemas -/

/-- The schema that is in force, and how often it has been replaced. -/
structure PublishedSchema where
  version : Nat
  schema : Schema

namespace PublishedSchema

/-- The first version of a schema. -/
def first (s : Schema) : PublishedSchema := ⟨0, s⟩

/-- Replaces the schema by one derived from it. -/
def update (p : PublishedSchema) (change : Schema → Schema) : PublishedSchema :=
  ⟨p.version + 1, change p.schema⟩

end PublishedSchema

end ContentSearch
