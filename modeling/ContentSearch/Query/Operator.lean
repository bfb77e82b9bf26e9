import ContentSearch.Text.Casing

/-!
# Comparison operators

The operators that compare an operand of a query with a fixed value.
-/

namespace ContentSearch

/-- Equality, the four orders, and pattern matching. -/
inductive Operator
  | equalTo | notEqualTo | lessThan | lessOrEqual | greaterThan | greaterOrEqual | like
  deriving DecidableEq, Repr

namespace Operator

/-- All operators in their canonical order. -/
def all : List Operator :=
  [.equalTo, .notEqualTo, .lessThan, .lessOrEqual, .greaterThan, .greaterOrEqual, .like]

theorem mem_all (op : Operator) : op ∈ all := by
  cases op <;> decide

/-- How statements write the operator. -/
def symbol : Operator → String
  | .equalTo => "="
  | .notEqualTo => "<>"
  | .lessThan => "<"
  | .lessOrEqual => "<="
  | .greaterThan => ">"
  | .greaterOrEqual => ">="
  | .like => "LIKE"

/-- The name of the operator in messages and documents. -/
def label : Operator → String
  | .equalTo => "EQUAL_TO"
  | .notEqualTo => "NOT_EQUAL_TO"
  | .lessThan => "LESS_THAN"
  | .lessOrEqual => "LESS_THAN_OR_EQUAL_TO"
  | .greaterThan => "GREATER_THAN"
  | .greaterOrEqual => "GREATER_THAN_OR_EQUAL_TO"
  | .like => "LIKE"

/-- The operator that a symbol stands for, in letters of any case. -/
def ofSymbol? (symbol : String) : Option Operator :=
  all.find? fun op => Text.sameAscii op.symbol symbol

/-- The four orders. -/
def isRange : Operator → Bool
  | .lessThan | .lessOrEqual | .greaterThan | .greaterOrEqual => true
  | _ => false

end Operator

end ContentSearch
