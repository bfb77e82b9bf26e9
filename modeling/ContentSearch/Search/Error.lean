import ContentSearch.Config
import ContentSearch.Index.Snapshot
import ContentSearch.Plan.Error
import ContentSearch.Schema.Draft

/-!
# Errors

Everything that can be refused, with the words it is refused in.
-/

namespace ContentSearch

/-- Why a query is refused. -/
inductive QueryError
  | plan (error : PlanError)
  | cast (error : CastError)
  | unknownType (name : String)
  | schema (problems : List SchemaProblem)
  | pattern (error : InvalidPattern)
  | joinNotExecuted (statement : String)

/-- The wording of a refused query. -/
def QueryError.message : QueryError → String
  | .plan error => error.message
  | .cast error => error.message
  | .unknownType name => s!"unknown property type '{name}'"
  | .schema problems => String.intercalate "; " (problems.map SchemaProblem.message)
  | .pattern error => error.message
  | .joinNotExecuted statement =>
    s!"join queries are not executed by the in-memory index: {statement}"

/-- Why a change of the content is refused. -/
inductive UpdateError
  | inProgress
  | oversized (entries max : Nat)
  | indexFull
  deriving DecidableEq

/-- The wording of a refused change. -/
def UpdateError.message : UpdateError → String
  | .inProgress => "another update is in progress"
  | .oversized entries max => s!"batch of {entries.repr} entries exceeds the maximum of {max.repr}"
  | .indexFull => "document id space exhausted"

/-- An error of any part. -/
inductive SearchError
  | query (error : QueryError)
  | update (error : UpdateError)
  | config (error : ConfigError)
  | document

/-- The wording of an error. -/
def SearchError.message : SearchError → String
  | .query error => "invalid query: " ++ error.message
  | .update error => "index modification failed: " ++ error.message
  | .config error => "configuration error: " ++ error.message
  | .document => "serialization error"

end ContentSearch
