import ContentSearch.Query.Statement

/-!
# Walking a query

A node is any part of a query. A walk meets every node once: a node before its children, the
children in the order in which they are declared, and the whole of one child before the next.
-/

namespace ContentSearch

/-- A part of a query. -/
inductive Node
  | query (query : Query)
  | selector (selector : Selector)
  | join (kind : JoinKind) (left right : Source) (condition : JoinCondition)
  | joinCondition (condition : JoinCondition)
  | constraint (constraint : Constraint)
  | operand (operand : Operand)
  | static (operand : StaticOperand)
  | orderBy (ordering : OrderBy)
  | column (column : ResultColumn)
  | limit (limit : Limit)
  deriving DecidableEq

namespace Node

/-- A source as a node. -/
def source : Source → Node
  | .selector s => .selector s
  | .join kind left right condition => .join kind left right condition

/-! ## Children -/

/-- The children of an operand. -/
def ofOperand : Operand → List Node
  | .length ref => [.operand (.property ref)]
  | .upper o | .lower o => [.operand o]
  | _ => []

/-- The children of a constraint. -/
def ofConstraint : Constraint → List Node
  | .and left right | .or left right => [.constraint left, .constraint right]
  | .not c => [.constraint c]
  | .compare left _ right => [.operand left, .static right]
  | _ => []

/-- The children of a query. -/
def ofQuery (q : Query) : List Node :=
  source q.source :: (q.constraint?.map Node.constraint).toList
    ++ q.orderings.map Node.orderBy ++ q.columns.map Node.column ++ [.limit q.limit]

/-- The children of a node in the order in which they are declared. -/
def children : Node → List Node
  | .query q => ofQuery q
  | .join _ left right condition => [source left, source right, .joinCondition condition]
  | .constraint c => ofConstraint c
  | .operand o => ofOperand o
  | .orderBy o => [.operand o.operand]
  | .selector _ | .joinCondition _ | .static _ | .column _ | .limit _ => []

/-! ## Walks -/

/-- The walk of an operand. -/
def walkOperand : Operand → List Node
  | .length ref => [.operand (.length ref), .operand (.property ref)]
  | .upper o => .operand (.upper o) :: walkOperand o
  | .lower o => .operand (.lower o) :: walkOperand o
  | o => [.operand o]

/-- The walk of a constraint. -/
def walkConstraint : Constraint → List Node
  | .and left right =>
    .constraint (.and left right) :: (walkConstraint left ++ walkConstraint right)
  | .or left right =>
    .constraint (.or left right) :: (walkConstraint left ++ walkConstraint right)
  | .not c => .constraint (.not c) :: walkConstraint c
  | .compare left operator right =>
    .constraint (.compare left operator right) :: (walkOperand left ++ [.static right])
  | c => [.constraint c]

/-- The walk of a source. -/
def walkSource : Source → List Node
  | .selector s => [.selector s]
  | .join kind left right condition =>
    .join kind left right condition
      :: (walkSource left ++ walkSource right ++ [.joinCondition condition])

/-- The walk of an ordering. -/
def walkOrderBy (o : OrderBy) : List Node :=
  .orderBy o :: walkOperand o.operand

/-- The walk of a query. -/
def walkQuery (q : Query) : List Node :=
  .query q :: (walkSource q.source ++ q.constraint?.toList.flatMap walkConstraint
    ++ q.orderings.flatMap walkOrderBy ++ q.columns.map Node.column ++ [.limit q.limit])

/-- All nodes from this one down, in the order in which they are met. -/
def walk : Node → List Node
  | .query q => walkQuery q
  | .join kind left right condition => walkSource (.join kind left right condition)
  | .constraint c => walkConstraint c
  | .operand o => walkOperand o
  | .orderBy o => walkOrderBy o
  | node => [node]

@[simp] theorem walk_source (s : Source) : (source s).walk = walkSource s := by
  cases s <;> rfl

/-! ## Statements -/

/-- The text of a node. -/
def statement : Node → String
  | .query q => q.statement
  | .selector s => s.statement
  | .join kind left right condition => (Source.join kind left right condition).statement
  | .joinCondition c => c.statement
  | .constraint c => c.statement
  | .operand o => o.statement
  | .static o => o.statement
  | .orderBy o => o.statement
  | .column c => c.statement
  | .limit l => l.statement

end Node

end ContentSearch
