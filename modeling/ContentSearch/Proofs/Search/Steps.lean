import ContentSearch.Proofs.Index.History
import ContentSearch.Proofs.Plan.Memo
import ContentSearch.Search.Service

/-!
# Steps of a service

What can happen to a service one thing after the other, and the services that can come about. A
search comes with the keys of the plans that are still kept by then.
-/

namespace ContentSearch

/-- One thing that happens to a service. -/
inductive SearchStep
  | begin
  | stage (change : Change)
  | commit
  | discard
  | updateSchema (change : Schema → Schema)
  | changeSharedSchema (change : Schema → Schema)
  | search (turn : PlanTurn)

namespace SearchStep

/-- The call of a search. -/
def call? : SearchStep → Option PlanCall
  | .search turn => some turn.call
  | _ => none

end SearchStep

namespace SearchService

/-- Stages a change in an update that has begun. -/
def stage (s : SearchService) (staged : Snapshot) : Change → SearchService
  | .insert e => (s.stageEntry staged e).1
  | .remove identifier => (s.stageRemoval staged identifier).1

/-- Gives up all plans but those of some keys. -/
def evict (s : SearchService) (keeps : String → Bool) : SearchService :=
  { s with published := { s.published with plans := s.published.plans.evict keeps } }

/-- The service after a step, and the answer if the step is a search. Nothing happens where an
update cannot begin, or where none has begun that the step could be part of. -/
def step (s : SearchService) : SearchStep → SearchService × Option (Except QueryError Results)
  | .begin =>
    match s.beginUpdate with
    | .ok begun => (begun, none)
    | .error _ => (s, none)
  | .stage change =>
    match s.staged? with
    | some staged => (s.stage staged change, none)
    | none => (s, none)
  | .commit => (s.commitStaged, none)
  | .discard => (s.discard, none)
  | .updateSchema change => (s.updateSchema change, none)
  | .changeSharedSchema change => (s.changeSharedSchema change, none)
  | .search turn =>
    let (next, answer) := (s.evict turn.keeps).search turn.call.query turn.call.bindings
    (next, some answer)

/-- The service after a sequence of steps, and the answers to the searches among them. -/
def steps (s : SearchService) :
    List SearchStep → SearchService × List (Except QueryError Results)
  | [] => (s, [])
  | now :: rest =>
    let (next, answer?) := s.step now
    let (last, answers) := next.steps rest
    (last, answer?.toList ++ answers)

theorem steps_cons (s : SearchService) (now : SearchStep) (rest : List SearchStep) :
    s.steps (now :: rest)
      = (((s.step now).1.steps rest).1,
        (s.step now).2.toList ++ ((s.step now).1.steps rest).2) :=
  rfl

/-- The services that can come about by steps and by whole updates. -/
inductive Reachable : SearchService → Prop
  | start (schema : PublishedSchema) (config : SearchConfig) : Reachable (start schema config)
  | step {s : SearchService} (h : Reachable s) (now : SearchStep) : Reachable (s.step now).1
  | applyUpdate {s : SearchService} (h : Reachable s) (added : List Entry)
      (removed : List String) : Reachable (s.applyUpdate added removed).1

/-! ## Staging -/

/-- An entry is staged as far as it goes, also when it is refused. -/
theorem stageEntry_eq (s : SearchService) (staged : Snapshot) (e : Entry) :
    s.stageEntry staged e
      = ({ s with staged? := some (staged.insert e).1 },
        (staged.insert e).2.mapError fun _ => .indexFull) := by
  unfold stageEntry
  split <;> rename_i h <;> rw [h] <;> rfl

theorem stage_eq (s : SearchService) (staged : Snapshot) (change : Change) :
    s.stage staged change = { s with staged? := some (staged.apply change) } := by
  cases change with
  | insert e => rw [stage, stageEntry_eq, Snapshot.apply]
  | remove identifier => rfl

end SearchService

end ContentSearch
