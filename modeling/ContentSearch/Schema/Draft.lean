import ContentSearch.Schema.Basic

/-!
# Drafts of schemas

A draft collects tables, columns and views, and the problems met on the way. Building a draft
resolves the columns of the views, one view after the other, from the tables and views before it.
A draft with problems builds nothing; it can be built again after more has been added.
-/

namespace ContentSearch

/-- What can be wrong with a draft. -/
inductive SchemaProblem
  | columnOfUnknownTable (column table : String)
  | unknownSearchable (column table : String)
  | viewOfUnknownTable (view table : String)
  | undeclaredSelector (view selector : String)
  | ambiguousColumn (view column : String)
  | unknownViewColumn (view column table : String)
  deriving DecidableEq

/-- The wording of a problem. -/
def SchemaProblem.message : SchemaProblem → String
  | .columnOfUnknownTable column table =>
    s!"cannot add column '{column}' to unknown table '{table}'"
  | .unknownSearchable column table =>
    s!"cannot make unknown column '{column}' of table '{table}' searchable"
  | .viewOfUnknownTable view table => s!"view '{view}' selects from unknown table '{table}'"
  | .undeclaredSelector view selector =>
    s!"view '{view}' references undeclared selector '{selector}'"
  | .ambiguousColumn view column => s!"view '{view}' column '{column}' must name its selector"
  | .unknownViewColumn view column table =>
    s!"view '{view}' references unknown column '{column}' of table '{table}'"

/-! ## Columns of views -/

namespace View

/-- The tables that the selectors of a view stand for, among those known so far. -/
def sources (view : String) (tables : OrderedMap String Table) (selectors : List Selector) :
    Except SchemaProblem (OrderedMap String Table) :=
  selectors.foldlM (fun found s =>
    match tables.get? s.table with
    | some t => .ok (found.insert s.name t)
    | none => .error (.viewOfUnknownTable view s.table)) OrderedMap.empty

/-- The table that a column of a view is taken from. -/
def sourceOf (view : String) (sources : OrderedMap String Table) (c : ResultColumn) :
    Except SchemaProblem Table :=
  match c.selector? with
  | some selector =>
    match sources.get? selector with
    | some t => .ok t
    | none => .error (.undeclaredSelector view selector)
  | none =>
    match sources.values with
    | [t] => .ok t
    | _ => .error (.ambiguousColumn view c.resolvedName)

/-- Adds columns under their own names. -/
def addAll (into : OrderedMap String Column) (columns : List Column) : OrderedMap String Column :=
  columns.foldl (fun m c => m.insert c.name c) into

/-- Adds a column of the definition: one column under its name in the result, or all columns of
its table. -/
def addColumn (view : String) (sources : OrderedMap String Table)
    (into : OrderedMap String Column) (c : ResultColumn) :
    Except SchemaProblem (OrderedMap String Column) := do
  let table ← sourceOf view sources c
  match c.property? with
  | none => .ok (addAll into table.columns.values)
  | some property =>
    match table.column? property with
    | some column => .ok (into.insert c.resolvedName { column with name := c.resolvedName })
    | none => .error (.unknownViewColumn view property table.name)

/-- All columns of all tables, sorted by name. -/
def allColumns (sources : OrderedMap String Table) : OrderedMap String Column :=
  let columns := (sources.values.flatMap fun t => t.columns.values).foldl
    (fun m c => m.insert c.name c) OrderedMap.empty
  OrderedMap.ofList (columns.entries.mergeSort fun a b => decide (a.1 ≤ b.1))

/-- The table of a view: its columns, and its definition as it stands. -/
def resolve (view : String) (definition : Query) (tables : OrderedMap String Table) :
    Except SchemaProblem Table := do
  let sources ← sources view tables definition.source.selectors
  let columns ←
    if definition.columns.isEmpty then .ok (allColumns sources)
    else definition.columns.foldlM (addColumn view sources) OrderedMap.empty
  .ok ⟨view, columns, some definition⟩

end View

/-! ## Drafts -/

/-- Tables and views to be, and the problems met so far. -/
structure SchemaDraft where
  tables : OrderedMap String Table
  views : List (String × Query)
  problems : List SchemaProblem

namespace SchemaDraft

/-- The draft without tables. -/
def empty : SchemaDraft := ⟨OrderedMap.empty, [], []⟩

/-- Adds or replaces a table of plain text columns. -/
def addTable (d : SchemaDraft) (name : String) (columns : List String) : SchemaDraft :=
  let table := Table.ofColumns name (columns.map fun c => Column.plain c .string)
  { d with tables := d.tables.insert name table }

/-- Adds or replaces a column of a table that is there. -/
def addColumn (d : SchemaDraft) (table : String) (column : Column) : SchemaDraft :=
  match d.tables.get? table with
  | some t => { d with tables := d.tables.insert table (t.withColumn column) }
  | none => { d with problems := d.problems ++ [.columnOfUnknownTable column.name table] }

/-- Lets full-text search look into a column that is there. -/
def makeSearchable (d : SchemaDraft) (table column : String) : SchemaDraft :=
  match d.tables.get? table with
  | none => { d with problems := d.problems ++ [.unknownSearchable column table] }
  | some t =>
    match t.column? column with
    | none => { d with problems := d.problems ++ [.unknownSearchable column table] }
    | some c =>
      { d with tables := d.tables.insert table (t.withColumn { c with searchable := true }) }

/-- Adds a view, whose columns are resolved when the draft is built. -/
def addView (d : SchemaDraft) (name : String) (definition : Query) : SchemaDraft :=
  { d with views := d.views ++ [(name, definition)] }

/-- Resolves views in order; a view that fails leaves a problem and no table. -/
def resolveViews (tables : OrderedMap String Table) :
    List (String × Query) → OrderedMap String Table × List SchemaProblem
  | [] => (tables, [])
  | (name, definition) :: rest =>
    match View.resolve name definition tables with
    | .ok view => resolveViews (tables.insert name view) rest
    | .error problem =>
      let (tables, problems) := resolveViews tables rest
      (tables, problem :: problems)

/-- The schema of a draft, or all its problems. -/
def build (d : SchemaDraft) : Except (List SchemaProblem) Schema :=
  let (tables, problems) := resolveViews d.tables d.views
  match d.problems ++ problems with
  | [] => .ok ⟨tables⟩
  | found => .error found

end SchemaDraft

end ContentSearch
