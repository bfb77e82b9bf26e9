import ContentSearch.Plan.Memo
import ContentSearch.Search.Error
import ContentSearch.Search.Results

/-!
# The search service

Searches see the entries of the last commit and the newest schema. One update at a time changes a
copy of the committed entries, which takes their place when the update is committed. The plans that
are kept belong to one set of entries and one schema, and are dropped with either.
-/

namespace ContentSearch

/-- What searches see: the committed entries, the schema with its version, and the plans made for
both. -/
structure Published where
  snapshot : Snapshot
  schema : PublishedSchema
  plans : PlanMemo

/-- The shared schema, the settings, what searches see, and the entries of an update that has
begun. -/
structure SearchService where
  schema : PublishedSchema
  config : SearchConfig
  published : Published
  staged? : Option Snapshot

namespace SearchService

/-! ## Beginning -/

/-- A service without entries. -/
def start (schema : PublishedSchema) (config : SearchConfig) : SearchService :=
  ⟨schema, config, ⟨Snapshot.empty, schema, PlanMemo.empty⟩, none⟩

/-- The committed entries. -/
def snapshot (s : SearchService) : Snapshot :=
  s.published.snapshot

/-- Lets searches see these entries and the newest schema. -/
def publish (s : SearchService) (entries : Snapshot) : SearchService :=
  { s with published := ⟨entries, s.schema, PlanMemo.empty⟩ }

/-! ## Schema -/

/-- Replaces the shared schema without telling the service. -/
def changeSharedSchema (s : SearchService) (change : Schema → Schema) : SearchService :=
  { s with schema := s.schema.update change }

/-- Replaces the schema. -/
def updateSchema (s : SearchService) (change : Schema → Schema) : SearchService :=
  let changed := s.changeSharedSchema change
  changed.publish changed.snapshot

/-- Catches up with a schema that was replaced behind the service. -/
def current (s : SearchService) : SearchService :=
  if s.published.schema.version = s.schema.version then s else s.publish s.snapshot

/-! ## Updates -/

/-- Begins an update, unless one has begun. -/
def beginUpdate (s : SearchService) : Except UpdateError SearchService :=
  match s.staged? with
  | some _ => .error .inProgress
  | none => .ok { s with staged? := some s.snapshot }

/-- Stages an entry in an update that has begun. -/
def stageEntry (s : SearchService) (staged : Snapshot) (e : Entry) :
    SearchService × Except UpdateError Unit :=
  match staged.insert e with
  | (next, .ok _) => ({ s with staged? := some next }, .ok ())
  | (next, .error _) => ({ s with staged? := some next }, .error .indexFull)

/-- Stages the removal of an identifier, and tells whether it was there. -/
def stageRemoval (s : SearchService) (staged : Snapshot) (identifier : String) :
    SearchService × Bool :=
  let (next, removed) := staged.remove identifier
  ({ s with staged? := some next }, removed)

/-- Ends an update and publishes what it staged. -/
def commit (s : SearchService) (staged : Snapshot) : SearchService :=
  { s.publish staged with staged? := none }

/-- Ends an update and forgets what it staged. -/
def discard (s : SearchService) : SearchService :=
  { s with staged? := none }

/-- Stages the removal of each identifier, if an update has begun. -/
def stageRemovals (s : SearchService) : List String → SearchService
  | [] => s
  | identifier :: rest =>
    match s.staged? with
    | some staged => (s.stageRemoval staged identifier).1.stageRemovals rest
    | none => s

/-- Stages entries up to the first that is refused, if an update has begun. -/
def stageEntries (s : SearchService) : List Entry → SearchService × Except UpdateError Unit
  | [] => (s, .ok ())
  | e :: rest =>
    match s.staged? with
    | some staged =>
      match s.stageEntry staged e with
      | (next, .ok _) => next.stageEntries rest
      | (next, .error problem) => (next, .error problem)
    | none => (s, .ok ())

/-- Publishes what is staged, if an update has begun. -/
def commitStaged (s : SearchService) : SearchService :=
  match s.staged? with
  | some staged => s.commit staged
  | none => s

/-- Removes and adds entries in an update of its own, which is forgotten when an entry is
refused. -/
def applyUpdate (s : SearchService) (added : List Entry) (removed : List String) :
    SearchService × Except UpdateError Unit :=
  if s.config.index.maxBatchSize.toNat < added.length then
    (s, .error (.oversized added.length s.config.index.maxBatchSize.toNat))
  else
    match s.beginUpdate with
    | .error problem => (s, .error problem)
    | .ok begun =>
      match (begun.stageRemovals removed).stageEntries added with
      | (next, .ok _) => (next.commitStaged, .ok ())
      | (next, .error problem) => (next.discard, .error problem)

/-- The service after an update that is not refused. -/
def update (s : SearchService) (added : List Entry) (removed : List String) :
    Except UpdateError SearchService :=
  match s.applyUpdate added removed with
  | (next, .ok _) => .ok next
  | (_, .error problem) => .error problem

/-! ## Searches -/

/-- What plans are made with. -/
def planRules (s : SearchService) : PlanRules :=
  { schema := s.published.schema.schema
    caseSensitive := s.config.query.caseSensitive
    checksColumns := s.config.query.validateColumns
    resolvePath := s.snapshot.resolve }

/-- Carries out a plan over one selector. -/
def execute (s : SearchService) (p : Plan) : Except QueryError Results :=
  if p.isJoin then .error (.joinNotExecuted p.statement)
  else (p.run s.snapshot).mapError .pattern

/-- Answers a query. -/
def search (s : SearchService) (q : Query) (bindings : Bindings) :
    SearchService × Except QueryError Results :=
  let s := s.current
  let (plans, planned) := s.published.plans.plan s.planRules q bindings
  let next := { s with published := { s.published with plans := plans } }
  match planned with
  | .error e => (next, .error (.plan e))
  | .ok numbered => (next, next.execute numbered.plan)

end SearchService

end ContentSearch
