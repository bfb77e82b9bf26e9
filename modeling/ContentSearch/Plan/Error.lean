import ContentSearch.Plan.Comparison
import ContentSearch.Query.Problem

/-!
# Refused queries

Why a query has no plan.
-/

namespace ContentSearch

/-- The number of views that may stand upon each other. -/
def maxViewDepth : Nat := 16

/-- The cause of a missing plan. -/
inductive PlanError
  | problems (found : List QueryProblem)
  | unknownTable (table : String)
  | viewTooDeep (view : String)
  | viewOverJoin (view : String)
  | viewWithoutSource (view : String)
  | undeclaredSelector (selector : String)
  | unnamedSelector
  | operatorUnavailable (operator : Operator) (column table : String)
  | unboundVariable (name : String)
  | comparison (error : ComparisonError)
  deriving DecidableEq

/-- The wording of a cause. -/
def PlanError.message : PlanError → String
  | .problems found => QueryProblem.messages found
  | .unknownTable table => s!"table '{table}' does not exist"
  | .viewTooDeep view => s!"view '{view}' is nested more than {maxViewDepth.repr} levels deep"
  | .viewOverJoin view => s!"view '{view}' is defined over a join and cannot be queried"
  | .viewWithoutSource view => s!"view '{view}' has no source table"
  | .undeclaredSelector selector => s!"selector '{selector}' is not declared"
  | .unnamedSelector => "reference must name its selector"
  | .operatorUnavailable operator column table =>
    s!"operator {operator.label} is not available for column '{column}' of table '{table}'"
  | .unboundVariable name => s!"no value is bound to variable '${name}'"
  | .comparison error => error.message

end ContentSearch
