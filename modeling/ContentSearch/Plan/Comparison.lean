import ContentSearch.Content.Name
import ContentSearch.Index.Field
import ContentSearch.Index.Term
import ContentSearch.Pattern.Like
import ContentSearch.Pattern.Wildcard
import ContentSearch.Predicate
import ContentSearch.Query.Operator
import ContentSearch.Value.Cast

/-!
# Comparisons

The predicate of a comparison with a fixed value, for each kind of operand. A property is compared
in the type of its column, a length or depth as an integer, a name as text.
-/

namespace ContentSearch

/-- What can be compared. -/
inductive OperandKind
  | property | length | name | localName | depth | score
  deriving DecidableEq, Repr

/-- The name of an operand in messages. -/
def OperandKind.label : OperandKind → String
  | .property => "a property value"
  | .length => "LENGTH"
  | .name => "NAME"
  | .localName => "LOCALNAME"
  | .depth => "DEPTH"
  | .score => "SCORE"

/-- Why a comparison has no predicate. -/
inductive ComparisonError
  | unsupported (operator : Operator) (operand : OperandKind)
  | needsText (operator : Operator) (operand : OperandKind) (found : PropertyType)
  | needsName (operator : Operator) (found : PropertyType)
  | needsTextColumn (field : String) (found : PropertyType)
  | lengthPattern (pattern : String)
  | cast (error : CastError)
  deriving DecidableEq

/-- The wording of a refused comparison. -/
def ComparisonError.message : ComparisonError → String
  | .unsupported operator operand =>
    s!"operator {operator.label} is not supported for {operand.label}"
  | .needsText operator operand found =>
    s!"operator {operator.label} on {operand.label} requires a string value, found {found.label}"
  | .needsName operator found =>
    s!"operator {operator.label} on NAME requires a STRING or NAME value, found {found.label}"
  | .needsTextColumn field found =>
    s!"operator LIKE requires a text column, but '{field}' is {found.label}"
  | .lengthPattern pattern =>
    s!"operator LIKE on LENGTH supports only '%' or a number, found '{pattern}'"
  | .cast error => error.message

/-- An operator and the value on its right. -/
structure Comparison where
  operator : Operator
  value : Value
  caseSensitive : Bool

namespace Comparison

/-! ## The value -/

/-- Lower case where case does not matter. -/
def fold (c : Comparison) (s : String) : String :=
  if c.caseSensitive then s else Text.lower s

/-- The value in another type. -/
def castTo (c : Comparison) (type : PropertyType) : Except ComparisonError Value :=
  (c.value.cast type).mapError .cast

/-- The term of the value in the type of the column, or in its own if there is no column, and
whether case matters: it always does where the type is not text. -/
def propertyTerm (c : Comparison) (columnType? : Option PropertyType) :
    Except ComparisonError (String × Bool) := do
  let type := columnType?.getD c.value.type
  let term := Term.ofValue (← c.castTo type)
  if type.isText && !c.caseSensitive then .ok (Text.lower term, false) else .ok (term, true)

/-- The term of the value as an integer. -/
def longTerm (c : Comparison) : Except ComparisonError String :=
  (c.castTo .long).map Term.ofValue

/-- The value as text. -/
def textValue (c : Comparison) : Except ComparisonError String :=
  match c.value.asText? with
  | some s => .ok (c.fold s)
  | none => (c.castTo .string).map fun v => c.fold v.display

/-- The value as text, if it is text to begin with. -/
def ownText (c : Comparison) (operand : OperandKind) : Except ComparisonError String :=
  match c.value.asText? with
  | some s => .ok (c.fold s)
  | none => .error (.needsText c.operator operand c.value.type)

/-! ## Predicates by operator -/

/-- The terms of a field in an order relation to a term. -/
def ordered (operator : Operator) (field term : String) (caseSensitive : Bool) : Predicate :=
  match operator with
  | .lessThan => .range field .unbounded (.excluded term) caseSensitive
  | .lessOrEqual => .range field .unbounded (.included term) caseSensitive
  | .greaterThan => .range field (.excluded term) .unbounded caseSensitive
  | _ => .range field (.included term) .unbounded caseSensitive

/-- A name, or any name with a namespace and the same local name. -/
def nameEquals (name : String) (caseSensitive : Bool) : Predicate :=
  .anyOf [.term Field.name name caseSensitive,
    .wildcard Field.name ("*:" ++ Wildcard.escape (Content.localName name)) caseSensitive]

/-- A name that matches a pattern. Every entry has a name, so that the pattern for any text is met
by all. -/
def nameLike (field pattern : String) (caseSensitive : Bool) : Predicate :=
  if pattern = Like.matchAll then .everything
  else .regex field (Like.regex pattern) caseSensitive

/-- The entries with a term in the field but for those that satisfy the predicate. -/
def differing (field : String) (equal : Predicate) : Predicate :=
  .without (.hasTerm field) equal

/-- The length that a pattern of `LIKE` names. Lengths are no text, so it can only be a plain
number. -/
def lengthLike (field pattern : String) : Except ComparisonError Predicate :=
  if pattern = Like.matchAll then .ok (.hasTerm field)
  else match Number.long? pattern with
    | some n => .ok (.term field (Term.ofLong n) true)
    | none => .error (.lengthPattern pattern)

/-! ## Operands -/

/-- A property, whose values are the terms of `field`, matched by a pattern. -/
def propertyLike (c : Comparison) (field : String) (columnType? : Option PropertyType) :
    Except ComparisonError Predicate :=
  match columnType?.filter (!·.isText) with
  | some type => .error (.needsTextColumn field type)
  | none => do
    let pattern ← c.textValue
    if pattern = Like.matchAll then .ok (.hasTerm field)
    else .ok (.regex field (Like.regex pattern) c.caseSensitive)

/-- A property, whose values are the terms of `field`. A property differs from a value when it has
values and none of them is equal. -/
def onProperty (c : Comparison) (field : String) (columnType? : Option PropertyType) :
    Except ComparisonError Predicate :=
  match c.operator with
  | .equalTo => do
    let (term, caseSensitive) ← c.propertyTerm columnType?
    .ok (.term field term caseSensitive)
  | .notEqualTo => do
    let (term, caseSensitive) ← c.propertyTerm columnType?
    .ok (differing field (.term field term caseSensitive))
  | .like => c.propertyLike field columnType?
  | operator => do
    let (term, caseSensitive) ← c.propertyTerm columnType?
    .ok (ordered operator field term caseSensitive)

/-- The lengths of a property, which are the terms of `field`. -/
def onLength (c : Comparison) (field : String) : Except ComparisonError Predicate :=
  match c.operator with
  | .equalTo => do .ok (.term field (← c.longTerm) true)
  | .notEqualTo => do .ok (differing field (.term field (← c.longTerm) true))
  | .like => do lengthLike field (← c.ownText .length)
  | operator => do .ok (ordered operator field (← c.longTerm) true)

/-- The name of an entry. -/
def onName (c : Comparison) : Except ComparisonError Predicate :=
  match c.operator with
  | .equalTo => do .ok (nameEquals (← c.textValue) c.caseSensitive)
  | .notEqualTo => do .ok (.complement (nameEquals (← c.textValue) c.caseSensitive))
  | .like => do .ok (nameLike Field.name (← c.textValue) c.caseSensitive)
  | operator =>
    if c.value.type = .string ∨ c.value.type = .text .name then do
      .ok (ordered operator Field.name (← c.textValue) c.caseSensitive)
    else .error (.needsName operator c.value.type)

/-- The local name of an entry, which has no order. -/
def onLocalName (c : Comparison) : Except ComparisonError Predicate :=
  match c.operator with
  | .equalTo => do .ok (.term Field.localName (← c.textValue) c.caseSensitive)
  | .notEqualTo => do
    .ok (.complement (.term Field.localName (← c.textValue) c.caseSensitive))
  | .like => do .ok (nameLike Field.localName (← c.ownText .localName) c.caseSensitive)
  | operator => .error (.unsupported operator .localName)

/-- The depth of an entry, which has no pattern. -/
def onDepth (c : Comparison) : Except ComparisonError Predicate :=
  match c.operator with
  | .equalTo => do .ok (.term Field.depth (← c.longTerm) true)
  | .notEqualTo => do .ok (.complement (.term Field.depth (← c.longTerm) true))
  | .like => .error (.unsupported .like .depth)
  | operator => do .ok (ordered operator Field.depth (← c.longTerm) true)

end Comparison

end ContentSearch
