import ContentSearch.Plan.Scope
import ContentSearch.Query.Statement

/-!
# Plans of queries

The plan of a query is made from the plans of the views that it draws from: a selector of a view
gets the predicate of the view's definition, and its columns lead back to properties of the base
table. Views may stand upon views up to a fixed number.
-/

namespace ContentSearch

namespace Plan

/-! ## One query -/

/-- How a selector of a table is taken back to its base table. -/
abbrev SelectorExpansion := String → String → Except PlanError PlanSelector

/-- The selectors of a resolved query, each taken back to its base table. -/
def expandSelectors (expand : SelectorExpansion) (r : ResolvedQuery) :
    Except PlanError (OrderedMap String PlanSelector) :=
  r.selectors.entries.foldlM (fun found e => (expand e.1 e.2).map (found.insert e.1))
    OrderedMap.empty

/-- The plan of a query under a way to expand its selectors. -/
def ofQueryWith (rules : PlanRules) (expand : SelectorExpansion) (q : Query)
    (bindings : Bindings) : Except PlanError Plan := do
  let resolved ← (rules.validation.resolve q).mapError .problems
  let selectors ← expandSelectors expand resolved
  let scope : Scope := ⟨rules, resolved, selectors, bindings⟩
  let joins ← scope.joins q.source
  let constraint? ← match q.constraint? with
    | some c => (scope.predicate c).map some
    | none => .ok none
  let sort ← q.orderings.mapM scope.sortKey
  let columns ← scope.columns q.columns
  .ok
    { statement := q.statement
      selectors := selectors.values
      joins := joins
      constraint? := constraint?
      predicate := .allOf (selectors.values.map (·.predicate) ++ constraint?.toList)
      sort := sort
      columns := columns
      limit := q.limit }

/-! ## Views -/

/-- Adds the property behind a column of a definition under the name of the column in the
result. -/
def addProperty (source : PlanSelector) (found : OrderedMap String String) (c : ResultColumn) :
    OrderedMap String String :=
  match c.property? with
  | some property => found.insert c.resolvedName (source.physicalProperty property)
  | none => found

/-- The properties behind the columns of a view: those behind the columns of its definition by
their names in the result, and those of the selector that it draws from. Columns that are called
like their property are left out. -/
def viewPropertyNames (source : PlanSelector) (columns : List ResultColumn) :
    OrderedMap String String :=
  let named := columns.foldl (addProperty source) OrderedMap.empty
  let all := source.propertyNames.entries.foldl (fun found e =>
    if found.contains e.1 then found else found.insert e.1 e.2) named
  all.filter fun column property => column != property

/-- A base table is its own. -/
def baseSelector (name table : String) : PlanSelector :=
  ⟨name, table, table, OrderedMap.empty, .term Field.table table true⟩

/-- A selector of a view, given the plan of its definition. -/
def viewSelector (name view : String) (columns : List ResultColumn) (definition : Plan) :
    Except PlanError PlanSelector :=
  match definition.selectors with
  | [] => .error (.viewWithoutSource view)
  | source :: _ =>
    .ok ⟨name, view, source.indexTable, viewPropertyNames source columns, definition.predicate⟩

/-- Takes a selector back to its base table through at most `levels` views. The definition of a
view sees no variables. -/
def expandSelector (rules : PlanRules) : Nat → SelectorExpansion
  | levels, name, table =>
    match rules.schema.table? table with
    | none => .error (.unknownTable table)
    | some found =>
      match found.definition? with
      | none => .ok (baseSelector name table)
      | some definition =>
        match levels with
        | 0 => .error (.viewTooDeep table)
        | below + 1 =>
          match definition.source with
          | .join .. => .error (.viewOverJoin table)
          | .selector _ => do
            let plan ←
              ofQueryWith rules (expandSelector rules below) definition OrderedMap.empty
            viewSelector name table definition.columns plan

/-- The plan of a query. -/
def ofQuery (rules : PlanRules) (q : Query) (bindings : Bindings) : Except PlanError Plan :=
  ofQueryWith rules (expandSelector rules maxViewDepth) q bindings

end Plan

end ContentSearch
