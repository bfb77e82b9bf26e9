import ContentSearch.Query.Operator
import ContentSearch.Value.Cast

/-!
# Queries

A query draws rows from a source of tables, keeps those that satisfy a constraint, orders them,
and shows some of their columns. Tables are referred to by selectors: the alias of a table in the
source, or the table's own name. A reference may leave its selector out where the source has only
one.
-/

namespace ContentSearch

/-! ## Sources -/

/-- A table that the query draws from, and the name that it goes by in the query. -/
structure Selector where
  table : String
  alias? : Option String
  deriving DecidableEq

/-- The name that other parts of the query use. -/
def Selector.name (s : Selector) : String :=
  s.alias?.getD s.table

/-- Which rows without a partner a join keeps. -/
inductive JoinKind
  | inner | leftOuter | rightOuter
  deriving DecidableEq

/-- How statements write the join. -/
def JoinKind.symbol : JoinKind → String
  | .inner => "INNER JOIN"
  | .leftOuter => "LEFT OUTER JOIN"
  | .rightOuter => "RIGHT OUTER JOIN"

/-- How the rows of a join belong together. -/
inductive JoinCondition
  | child (child parent : String)
  | descendant (descendant ancestor : String)
  | equi (selector₁ property₁ selector₂ property₂ : String)
  | same (selector₁ selector₂ : String) (path? : Option String)
  deriving DecidableEq

/-- The two selectors that a join condition relates. -/
def JoinCondition.selectors : JoinCondition → String × String
  | .child c p => (c, p)
  | .descendant d a => (d, a)
  | .equi s₁ _ s₂ _ => (s₁, s₂)
  | .same s₁ s₂ _ => (s₁, s₂)

/-- One table or a join of two sources. -/
inductive Source
  | selector (selector : Selector)
  | join (kind : JoinKind) (left right : Source) (condition : JoinCondition)
  deriving DecidableEq

/-- The selectors of a source, left to right. -/
def Source.selectors : Source → List Selector
  | .selector s => [s]
  | .join _ left right _ => left.selectors ++ right.selectors

/-! ## Operands -/

/-- A property of the entry that a selector stands for. -/
structure PropertyRef where
  selector? : Option String
  property : String
  deriving DecidableEq

/-- A value computed from an entry. -/
inductive Operand
  | property (ref : PropertyRef)
  | length (ref : PropertyRef)
  | name (selector? : Option String)
  | localName (selector? : Option String)
  | depth (selector? : Option String)
  | score (selector? : Option String)
  | upper (operand : Operand)
  | lower (operand : Operand)
  deriving DecidableEq

namespace Operand

/-- The selector that an operand reads from, seen through case functions. -/
def selector? : Operand → Option String
  | .property ref | .length ref => ref.selector?
  | .name s | .localName s | .depth s | .score s => s
  | .upper operand | .lower operand => operand.selector?

/-- The kind of an operand in messages. -/
def label : Operand → String
  | .property _ => "property value"
  | .length _ => "LENGTH"
  | .name _ => "NAME"
  | .localName _ => "LOCALNAME"
  | .depth _ => "DEPTH"
  | .score _ => "SCORE"
  | .upper _ => "UPPER"
  | .lower _ => "LOWER"

end Operand

/-- A value written in a query, and the type that it is declared to have. -/
structure Literal where
  value : Value
  type : PropertyType
  deriving DecidableEq

namespace Literal

/-- A literal of the value's own type. -/
def ofValue (v : Value) : Literal :=
  ⟨v, v.type⟩

/-- A literal of a given type, with the value converted to it. -/
def typed (v : Value) (type : PropertyType) : Except CastError Literal :=
  (v.cast type).map fun w => ⟨w, type⟩

end Literal

/-- A value that is known before any entry is looked at. -/
inductive StaticOperand
  | literal (literal : Literal)
  | variable (name : String)
  deriving DecidableEq

/-! ## Constraints -/

/-- A condition on rows. -/
inductive Constraint
  | and (left right : Constraint)
  | or (left right : Constraint)
  | not (constraint : Constraint)
  | compare (left : Operand) (operator : Operator) (right : StaticOperand)
  | child (selector? : Option String) (path : String)
  | descendant (selector? : Option String) (path : String)
  | same (selector? : Option String) (path : String)
  | contains (selector? property? : Option String) (expression : String)
  | hasValue (ref : PropertyRef)
  deriving DecidableEq

/-! ## Queries -/

/-- The direction of an ordering. -/
inductive Direction
  | ascending | descending
  deriving DecidableEq

/-- How statements write the direction. -/
def Direction.symbol : Direction → String
  | .ascending => "ASC"
  | .descending => "DESC"

/-- An operand that rows are ordered by. -/
structure OrderBy where
  operand : Operand
  direction : Direction
  deriving DecidableEq

/-- A column of the result. Without a property it stands for all columns of its selector, and
without a selector either for all columns there are. -/
structure ResultColumn where
  selector? : Option String
  property? : Option String
  alias? : Option String
  deriving DecidableEq

/-- The name of the column in the result: the alias, else the property, else a star. -/
def ResultColumn.resolvedName (c : ResultColumn) : String :=
  match c.alias?, c.property?, c.selector? with
  | some shown, _, _ => shown
  | none, some property, _ => property
  | none, none, some selector => selector ++ ".*"
  | none, none, none => "*"

/-- How many rows are shown after how many are passed over. The greatest number of rows means that
there is no limit. -/
structure Limit where
  rows : UInt64
  offset : UInt64
  deriving DecidableEq

namespace Limit

/-- All rows from the first. -/
def unlimited : Limit := ⟨18446744073709551615, 0⟩

/-- Whether the number of rows is limited. -/
def hasRowLimit (l : Limit) : Bool :=
  l.rows != 18446744073709551615

/-- Whether all rows are shown. -/
def isUnlimited (l : Limit) : Bool :=
  !l.hasRowLimit && l.offset == 0

theorem isUnlimited_iff {l : Limit} : l.isUnlimited = true ↔ l = unlimited := by
  cases l
  simp [isUnlimited, hasRowLimit, unlimited]

end Limit

/-- A query. -/
structure Query where
  source : Source
  constraint? : Option Constraint
  orderings : List OrderBy
  columns : List ResultColumn
  limit : Limit
  deriving DecidableEq

/-- All rows and columns of a source. -/
def Query.all (source : Source) : Query :=
  ⟨source, none, [], [], Limit.unlimited⟩

namespace Query

/-- The same query with another constraint. -/
def withConstraint (q : Query) (c : Constraint) : Query :=
  { q with constraint? := some c }

/-- The same query with one more ordering, which decides where those before it do not. -/
def orderedBy (q : Query) (operand : Operand) (direction : Direction) : Query :=
  { q with orderings := q.orderings ++ [⟨operand, direction⟩] }

/-- The same query with one more column. -/
def withColumn (q : Query) (c : ResultColumn) : Query :=
  { q with columns := q.columns ++ [c] }

/-- The same query with another limit. -/
def withLimit (q : Query) (l : Limit) : Query :=
  { q with limit := l }

end Query

/-- Whether the query draws from more than one selector. -/
def Query.isJoin (q : Query) : Bool :=
  match q.source with
  | .selector _ => false
  | .join .. => true

end ContentSearch
