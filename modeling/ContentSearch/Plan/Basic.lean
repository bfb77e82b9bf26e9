import ContentSearch.Index.Field
import ContentSearch.OrderedMap
import ContentSearch.Predicate
import ContentSearch.Query.Basic

/-!
# Plans

What an index needs to answer a query: the predicate that selects entries, the keys that sort
them, and the properties that are shown. Views are gone; every field is one of a base table.
-/

namespace ContentSearch

/-- A selector of a query, taken back to the base table that holds its entries. The property of a
column is listed if it has another name than the column. -/
structure PlanSelector where
  name : String
  table : String
  indexTable : String
  propertyNames : OrderedMap String String
  predicate : Predicate

namespace PlanSelector

/-- The property of the base table behind a column. -/
def physicalProperty (s : PlanSelector) (column : String) : String :=
  (s.propertyNames.get? column).getD column

/-- The field of the values of a column. -/
def propertyField (s : PlanSelector) (column : String) : String :=
  Field.property s.indexTable (s.physicalProperty column)

/-- The field of the lengths of a column. -/
def lengthField (s : PlanSelector) (column : String) : String :=
  Field.length s.indexTable (s.physicalProperty column)

/-- The field of the words of a column, or of all columns of the table. -/
def textField (s : PlanSelector) (column? : Option String) : String :=
  match column? with
  | some column => Field.text s.indexTable (s.physicalProperty column)
  | none => Field.tableText s.indexTable

end PlanSelector

/-- Entries of two selectors belong together when the fields share a term. -/
structure PlanJoin where
  kind : JoinKind
  leftSelector : String
  leftField : String
  rightSelector : String
  rightField : String
  rightPath? : Option String
  deriving DecidableEq

/-- What entries are sorted by. -/
inductive SortField
  | field (field : String)
  | score
  deriving DecidableEq

/-- A sort key of a selector. -/
structure SortKey where
  selector : String
  field : SortField
  direction : Direction
  caseSensitive : Bool
  deriving DecidableEq

/-- A column to be shown: the property of a selector, its name in the result, and its field. -/
structure PlanColumn where
  selector : String
  property : String
  name : String
  field : String
  deriving DecidableEq

/-- The plan of a query. -/
structure Plan where
  statement : String
  selectors : List PlanSelector
  joins : List PlanJoin
  constraint? : Option Predicate
  predicate : Predicate
  sort : List SortKey
  columns : List PlanColumn
  limit : Limit

/-- Whether the plan ranges over several selectors. -/
def Plan.isJoin (p : Plan) : Bool :=
  1 < p.selectors.length

end ContentSearch
