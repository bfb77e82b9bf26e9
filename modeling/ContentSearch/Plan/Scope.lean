import ContentSearch.Plan.Basic
import ContentSearch.Plan.Error
import ContentSearch.Query.Resolved

/-!
# Planning within a scope

The parts of a plan, made from the parts of a resolved query whose selectors have been taken back
to their base tables.
-/

namespace ContentSearch

/-- The values of variables by name. -/
abbrev Bindings := OrderedMap String Value

/-- What all plans are made with: the schema, whether text is compared with regard to case, whether
columns must exist, and the identifiers that paths lead to. -/
structure PlanRules where
  schema : Schema
  caseSensitive : Bool
  checksColumns : Bool
  resolvePath : String → Option String

/-- The rules of validation among these. -/
def PlanRules.validation (rules : PlanRules) : ValidationRules :=
  ⟨rules.schema, rules.checksColumns⟩

/-- What the parts of one query refer to. -/
structure Scope where
  rules : PlanRules
  resolved : ResolvedQuery
  selectors : OrderedMap String PlanSelector
  bindings : Bindings

namespace Scope

/-! ## References -/

/-- The selector that a reference means. -/
def selector (s : Scope) (name? : Option String) : Except PlanError PlanSelector :=
  match (s.resolved.selector? name?).bind s.selectors.get? with
  | some found => .ok found
  | none =>
    match name? with
    | some name => .error (.undeclaredSelector name)
    | none => .error .unnamedSelector

/-- The column that a property of a selector is in the schema. -/
def column? (s : Scope) (selector : PlanSelector) (property : String) : Option Column :=
  (s.rules.schema.table? selector.table).bind fun t => t.column? property

/-- The value on the right of a comparison. -/
def value (s : Scope) : StaticOperand → Except PlanError Value
  | .literal l => .ok l.value
  | .variable name =>
    match s.bindings.get? name with
    | some v => .ok v
    | none => .error (.unboundVariable name)

/-! ## Joins -/

/-- The fields that a join condition compares. -/
def joinOf (s : Scope) (kind : JoinKind) : JoinCondition → Except PlanError PlanJoin
  | .child c p => .ok ⟨kind, c, Field.parent, p, Field.id, none⟩
  | .descendant d a => .ok ⟨kind, d, Field.ancestor, a, Field.id, none⟩
  | .same s₁ s₂ path? => .ok ⟨kind, s₁, Field.id, s₂, Field.id, path?⟩
  | .equi s₁ p₁ s₂ p₂ => do
    let left ← s.selector (some s₁)
    let right ← s.selector (some s₂)
    .ok ⟨kind, s₁, left.propertyField p₁, s₂, right.propertyField p₂, none⟩

/-- The joins of a source, those of the left side first and its own last. -/
def joins (s : Scope) : Source → Except PlanError (List PlanJoin)
  | .selector _ => .ok []
  | .join kind left right condition => do
    let before ← s.joins left
    let after ← s.joins right
    let own ← s.joinOf kind condition
    .ok (before ++ after ++ [own])

/-! ## Comparisons -/

/-- The property that decides which operators an operand allows. -/
def restrictingProperty? : Operand → Option PropertyRef
  | .property ref | .length ref => some ref
  | .upper operand | .lower operand => restrictingProperty? operand
  | .name _ | .localName _ | .depth _ | .score _ => none

/-- Refuses an operator that the column behind an operand does not allow. -/
def checkOperator (s : Scope) (operand : Operand) (operator : Operator) :
    Except PlanError Unit :=
  match restrictingProperty? operand with
  | none => .ok ()
  | some ref => do
    let selector ← s.selector ref.selector?
    match s.column? selector ref.property with
    | some column =>
      if column.supports operator then .ok ()
      else .error (.operatorUnavailable operator column.name selector.table)
    | none => .ok ()

/-- The operand within all case functions. -/
def withoutCase : Operand → Operand
  | .upper operand | .lower operand => withoutCase operand
  | operand => operand

/-- The comparison of an operand outside of case functions. -/
def plainComparison (s : Scope) (operand : Operand) (c : Comparison) :
    Except PlanError Predicate :=
  match operand with
  | .property ref => do
    let selector ← s.selector ref.selector?
    let column? := s.column? selector ref.property
    (c.onProperty (selector.propertyField ref.property) (column?.map (·.type))).mapError
      .comparison
  | .length ref => do
    let selector ← s.selector ref.selector?
    (c.onLength (selector.lengthField ref.property)).mapError .comparison
  | .name _ => c.onName.mapError .comparison
  | .localName _ => c.onLocalName.mapError .comparison
  | .depth _ => c.onDepth.mapError .comparison
  | .score _ | .upper _ | .lower _ =>
    .error (.comparison (.unsupported c.operator .score))

/-- Whether a value is unchanged by a case function. Values that are no text are. -/
def isInCase (change : String → String) (v : Value) : Bool :=
  match v.asText? with
  | some s => change s == s
  | none => true

/-- The comparison of an operand whose text is changed by a case function. No changed text equals a
value that the function would change: equality and patterns select nothing, and inequality selects
every entry with a value. All else is compared without regard to case. -/
def caseComparison (s : Scope) (change : String → String) (operand : Operand)
    (operator : Operator) (v : Value) : Except PlanError Predicate :=
  let inner := withoutCase operand
  let folded := s.plainComparison inner ⟨operator, v, false⟩
  if isInCase change v then folded
  else match operator with
    | .equalTo | .like => .ok .nothing
    | .notEqualTo => s.plainComparison inner ⟨.like, .string Like.matchAll, true⟩
    | _ => folded

/-- The comparison of any operand; the outermost case function decides. -/
def comparison (s : Scope) (operand : Operand) (operator : Operator) (v : Value) :
    Except PlanError Predicate :=
  match operand with
  | .upper inner => s.caseComparison Text.upper inner operator v
  | .lower inner => s.caseComparison Text.lower inner operator v
  | operand => s.plainComparison operand ⟨operator, v, s.rules.caseSensitive⟩

/-! ## Constraints -/

/-- The entries with the identifier of a path in a field; none if the path leads nowhere. -/
def pathTerm (s : Scope) (field path : String) : Predicate :=
  match s.rules.resolvePath path with
  | some identifier => .term field identifier true
  | none => .nothing

/-- The predicate of a constraint. -/
def predicate (s : Scope) : Constraint → Except PlanError Predicate
  | .and left right => do
    let first ← s.predicate left
    let second ← s.predicate right
    .ok (.allOf [first, second])
  | .or left right => do
    let first ← s.predicate left
    let second ← s.predicate right
    .ok (.anyOf [first, second])
  | .not constraint => (s.predicate constraint).map .complement
  | .compare left operator right => do
    s.checkOperator left operator
    let v ← s.value right
    s.comparison left operator v
  | .child name? path => do
    let _ ← s.selector name?
    .ok (s.pathTerm Field.parent path)
  | .descendant name? path => do
    let _ ← s.selector name?
    .ok (s.pathTerm Field.ancestor path)
  | .same name? path => do
    let _ ← s.selector name?
    .ok (s.pathTerm Field.id path)
  | .contains name? property? expression => do
    let selector ← s.selector name?
    .ok (.fullText (selector.textField property?) expression)
  | .hasValue ref => do
    let selector ← s.selector ref.selector?
    .ok (.hasTerm (selector.propertyField ref.property))

/-! ## Orderings -/

/-- What an operand sorts by. -/
def sortField (selector : PlanSelector) : Operand → SortField
  | .property ref => .field (selector.propertyField ref.property)
  | .length ref => .field (selector.lengthField ref.property)
  | .name _ => .field Field.name
  | .localName _ => .field Field.localName
  | .depth _ => .field Field.depth
  | .score _ => .score
  | .upper operand | .lower operand => sortField selector operand

/-- Whether an operand is a case function. -/
def isCaseFunction : Operand → Bool
  | .upper _ | .lower _ => true
  | _ => false

/-- The sort key of an ordering; under a case function case does not matter. -/
def sortKey (s : Scope) (o : OrderBy) : Except PlanError SortKey := do
  let selector ← s.selector o.operand.selector?
  .ok
    { selector := selector.name
      field := sortField selector o.operand
      direction := o.direction
      caseSensitive := s.rules.caseSensitive && !isCaseFunction o.operand }

/-! ## Columns -/

/-- All columns of a selector's table, qualified if there are several selectors. -/
def allColumns (s : Scope) (selector : PlanSelector) : List PlanColumn :=
  match s.rules.schema.table? selector.table with
  | none => []
  | some table => table.columns.values.map fun column =>
    { selector := selector.name
      property := column.name
      name := if 1 < s.selectors.size then selector.name ++ "." ++ column.name else column.name
      field := selector.propertyField column.name }

/-- The columns that a column of the query stands for. -/
def columnsOf (s : Scope) (c : ResultColumn) : Except PlanError (List PlanColumn) := do
  let selector ← s.selector c.selector?
  match c.property? with
  | some property =>
    .ok [⟨selector.name, property, c.resolvedName, selector.propertyField property⟩]
  | none => .ok (s.allColumns selector)

/-- The columns of a query; all columns of all selectors if it names none. -/
def columns (s : Scope) (columns : List ResultColumn) : Except PlanError (List PlanColumn) :=
  if columns.isEmpty then .ok (s.selectors.values.flatMap s.allColumns)
  else (columns.mapM s.columnsOf).map List.flatten

end Scope

end ContentSearch
