import ContentSearch.Document.Predicate
import ContentSearch.Document.Query
import ContentSearch.Plan.Expansion
import ContentSearch.Search.Results

/-!
# Plans and results in documents

What is written of a plan and of the rows that it yields, and how the values of variables are read.
-/

namespace ContentSearch

open Json (record tagged texts)

/-! ## Plans -/

/-- A selector; its renamed properties are left out if there are none. -/
def PlanSelector.toJson (s : PlanSelector) : Json :=
  let renamed := s.propertyNames.entries.mergeSort fun a b => decide (a.1 ≤ b.1)
  record [("name", some (.text s.name)), ("table", some (.text s.table)),
    ("index_table", some (.text s.indexTable)),
    ("property_names",
      if renamed.isEmpty then none else some (.object (renamed.map fun e => (e.1, .text e.2)))),
    ("predicate", some s.predicate.toJson)]

/-- A join. -/
def PlanJoin.toJson (p : PlanJoin) : Json :=
  record [("join_type", some (.text p.kind.documentName)),
    ("left_selector", some (.text p.leftSelector)), ("left_field", some (.text p.leftField)),
    ("right_selector", some (.text p.rightSelector)), ("right_field", some (.text p.rightField)),
    ("right_path", p.rightPath?.map .text)]

/-- What entries are sorted by. -/
def SortField.toJson : SortField → Json
  | .field name => tagged "field" (.text name)
  | .score => .text "score"

/-- A sort key. -/
def SortKey.toJson (k : SortKey) : Json :=
  .object [("selector", .text k.selector), ("field", k.field.toJson),
    ("order", .text k.direction.documentName), ("case_sensitive", .bool k.caseSensitive)]

/-- A column. -/
def PlanColumn.toJson (c : PlanColumn) : Json :=
  .object [("selector", .text c.selector), ("property", .text c.property),
    ("name", .text c.name), ("field", .text c.field)]

/-- A plan. -/
def Plan.toJson (p : Plan) : Json :=
  record [("statement", some (.text p.statement)),
    ("selectors", some (.list (p.selectors.map PlanSelector.toJson))),
    listMember "joins" (p.joins.map PlanJoin.toJson),
    ("constraint", p.constraint?.map Predicate.toJson), ("predicate", some p.predicate.toJson),
    listMember "sort" (p.sort.map SortKey.toJson),
    ("columns", some (.list (p.columns.map PlanColumn.toJson))),
    ("limit", some p.limit.toJson)]

/-! ## Results -/

/-- A score. -/
def scoreJson (score : Nat) : Json :=
  .real (Number.Binary64.ofInt score)

/-- A row. -/
def Row.toJson (r : Row) : Json :=
  .object [("identifier", .text r.identifier), ("score", scoreJson r.score),
    ("values", .list (r.values.map fun v => .optional (v.map Value.toJson)))]

/-- Results. -/
def Results.toJson (r : Results) : Json :=
  .object [("columns", texts r.columns), ("rows", .list (r.rows.map Row.toJson))]

/-! ## Variables -/

/-- Reads the values of variables. -/
def Bindings.ofJson? (j : Json) : Option Bindings :=
  (j.membersOf? Value.ofJson?).map OrderedMap.ofList

end ContentSearch
