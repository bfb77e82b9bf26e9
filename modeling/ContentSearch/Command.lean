import ContentSearch.Document.Content
import ContentSearch.Document.Plan
import ContentSearch.Document.Schema
import ContentSearch.Files
import ContentSearch.Json.Printing
import ContentSearch.Query.Statement
import ContentSearch.Search.Service

/-!
# Commands

What can be asked of the program: to show the statement of a query, to check a query, to show its
plan, and to search content. A command names files, each with one JSON document, and yields a text.
-/

namespace ContentSearch

/-- A command with the names of its files. -/
inductive Command
  | render (query : String)
  | validate (query schema : String)
  | compile (query schema : String) (bindings? : Option String)
  | search (query schema content : String) (bindings? : Option String)
  deriving DecidableEq

/-- The document in a file. -/
def Files.document {α : Type} (files : Files) (ofJson? : Json → Option α) (name : String) :
    Except SearchError α :=
  match ((files name).bind Json.ofText?).bind ofJson? with
  | some v => .ok v
  | none => .error .document

/-- The values of variables in a file; without a file there are none. -/
def Files.bindings (files : Files) (name? : Option String) : Except SearchError Bindings :=
  match name? with
  | some name => files.document Bindings.ofJson? name
  | none => .ok .empty

/-- What a query that passed validation refers to, one thing in a line. -/
def ResolvedQuery.summary (r : ResolvedQuery) : String :=
  let selectors := r.selectors.entries.map fun e => s!"selector {e.1}: {e.2}\n"
  let boundNames := r.variableNames.toList.map fun v => s!"variable ${v}\n"
  "valid\n" ++ String.join (selectors ++ boundNames)

namespace Command

/-- The names of the files, in the order in which they are read. -/
def files : Command → List String
  | .render query => [query]
  | .validate query schema => [query, schema]
  | .compile query schema bindings? => [query, schema] ++ bindings?.toList
  | .search query schema content bindings? => [query, schema] ++ bindings?.toList ++ [content]

/-- Checks a query and tells what it refers to. -/
def validation (config : SearchConfig) (schema : Schema) (q : Query) :
    Except SearchError String :=
  let rules : ValidationRules := ⟨schema, config.query.validateColumns⟩
  match rules.resolve q with
  | .ok r => .ok r.summary
  | .error problems => .error (.query (.plan (.problems problems)))

/-- The plan of a query, made without content. -/
def plan (config : SearchConfig) (schema : Schema) (q : Query) (bindings : Bindings) :
    Except SearchError Plan :=
  let rules : PlanRules :=
    { schema
      caseSensitive := config.query.caseSensitive
      checksColumns := config.query.validateColumns
      resolvePath := fun _ => none }
  (Plan.ofQuery rules q bindings).mapError fun e => .query (.plan e)

/-- Adds entries to a service without any and searches them. -/
def results (config : SearchConfig) (schema : Schema) (q : Query) (bindings : Bindings)
    (entries : List Entry) : Except SearchError Results := do
  let service ← ((SearchService.start (.first schema) config).update entries []).mapError .update
  (service.search q bindings).2.mapError .query

/-- The text that a command yields. All files are read before anything else is done. -/
def run (files : Files) (config : SearchConfig) : Command → Except SearchError String
  | .render query => do
    let q ← files.document Query.ofJson? query
    .ok q.statement
  | .validate query schema => do
    let q ← files.document Query.ofJson? query
    let schema ← files.document Schema.ofJson? schema
    validation config schema q
  | .compile query schema bindings? => do
    let q ← files.document Query.ofJson? query
    let schema ← files.document Schema.ofJson? schema
    let bindings ← files.bindings bindings?
    let p ← plan config schema q bindings
    .ok p.toJson.pretty
  | .search query schema content bindings? => do
    let q ← files.document Query.ofJson? query
    let schema ← files.document Schema.ofJson? schema
    let bindings ← files.bindings bindings?
    let entries ← files.document (Json.listOf? Entry.ofJson?) content
    let r ← results config schema q bindings entries
    .ok r.toJson.pretty

end Command

end ContentSearch
