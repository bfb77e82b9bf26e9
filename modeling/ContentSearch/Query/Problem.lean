import ContentSearch.Query.Basic

/-!
# Problems of queries

What can be wrong with a query under a schema, before any plan is made.
-/

namespace ContentSearch

/-- The parts of a query that refer to a selector. -/
inductive ReferenceSite
  | childJoin | descendantJoin | equiJoin | sameJoin
  | child | descendant | same | contains | hasValue
  | property | name | localName | depth | score
  | column
  deriving DecidableEq, Repr

/-- The name of a part in messages. -/
def ReferenceSite.label : ReferenceSite → String
  | .childJoin => "ISCHILDNODE join"
  | .descendantJoin => "ISDESCENDANTNODE join"
  | .equiJoin => "equi-join"
  | .sameJoin => "ISSAMENODE join"
  | .child => "ISCHILDNODE"
  | .descendant => "ISDESCENDANTNODE"
  | .same => "ISSAMENODE"
  | .contains => "CONTAINS"
  | .hasValue => "IS NOT NULL"
  | .property => "property reference"
  | .name => "NAME"
  | .localName => "LOCALNAME"
  | .depth => "DEPTH"
  | .score => "SCORE"
  | .column => "column"

/-- One problem of a query. -/
inductive QueryProblem
  | repeatedSelector (selector : String)
  | unknownTable (table selector : String)
  | undeclaredSelector (site : ReferenceSite) (selector : String)
  | unnamedSelector (site : ReferenceSite) (selectors : Nat)
  | joinedToItself (site : ReferenceSite) (selector : String)
  | unknownColumn (column table selector : String)
  | unsearchableColumn (column : String)
  | incomparableName (selector? : Option String) (type : PropertyType)
  deriving DecidableEq

/-- The wording of a problem. -/
def QueryProblem.message : QueryProblem → String
  | .repeatedSelector selector => s!"selector '{selector}' is declared more than once"
  | .unknownTable table selector => s!"table '{table}' of selector '{selector}' does not exist"
  | .undeclaredSelector site selector =>
    s!"{site.label} references undeclared selector '{selector}'"
  | .unnamedSelector site selectors =>
    s!"{site.label} must name its selector when the query has {selectors.repr} selectors"
  | .joinedToItself site selector =>
    s!"{site.label} must relate two different selectors, but references '{selector}' twice"
  | .unknownColumn column table selector =>
    s!"column '{column}' does not exist on table '{table}' (selector '{selector}')"
  | .unsearchableColumn column => s!"column '{column}' is not full-text searchable"
  | .incomparableName selector? type =>
    let selector := selector?.getD ""
    s!"NAME({selector}) cannot be compared with a {type.label} literal"

/-- The wording of several problems. -/
def QueryProblem.messages (problems : List QueryProblem) : String :=
  String.intercalate "; " (problems.map QueryProblem.message)

end ContentSearch
