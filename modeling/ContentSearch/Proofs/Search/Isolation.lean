import ContentSearch.Proofs.Search.Steps

/-!
# Searches see committed content and the newest schema

A service is compared with a timeline that keeps nothing but the newest schema, the changes that
have been committed, and those of an update that has begun. The main statement says that searches
are answered from the timeline alone: every plan is made afresh, with the paths of the committed
entries, and carried out on these entries. Neither plans that are kept nor changes that are staged
can be noticed.
-/

namespace ContentSearch

/-! ## Timelines -/

/-- The newest schema, the committed changes, and all changes up to now of an update that has
begun. -/
structure Timeline where
  schema : Schema
  committed : List Change
  staged? : Option (List Change)

namespace Timeline

/-- What plans are made with. -/
def rules (config : SearchConfig) (t : Timeline) : PlanRules where
  schema := t.schema
  caseSensitive := config.query.caseSensitive
  checksColumns := config.query.validateColumns
  resolvePath := (Snapshot.ofHistory t.committed).resolve

/-- The answer to a call whose plan is made afresh. -/
def answer (config : SearchConfig) (t : Timeline) (c : PlanCall) : Except QueryError Results :=
  match c.fresh (t.rules config) with
  | .error problem => .error (.plan problem)
  | .ok p =>
    if p.isJoin then .error (.joinNotExecuted p.statement)
    else (p.run (Snapshot.ofHistory t.committed)).mapError .pattern

/-- The timeline after a step. -/
def after (t : Timeline) : SearchStep → Timeline
  | .begin =>
    match t.staged? with
    | some _ => t
    | none => { t with staged? := some t.committed }
  | .stage change =>
    match t.staged? with
    | some changes => { t with staged? := some (changes ++ [change]) }
    | none => t
  | .commit =>
    match t.staged? with
    | some changes => { t with committed := changes, staged? := none }
    | none => t
  | .discard => { t with staged? := none }
  | .updateSchema change | .changeSharedSchema change => { t with schema := change t.schema }
  | .search _ => t

/-- The timeline after a sequence of steps. -/
def afterAll (t : Timeline) (steps : List SearchStep) : Timeline :=
  steps.foldl after t

/-- The answers to the searches among a sequence of steps. -/
def answers (config : SearchConfig) (t : Timeline) :
    List SearchStep → List (Except QueryError Results)
  | [] => []
  | now :: rest => now.call?.toList.map (t.answer config) ++ (t.after now).answers config rest

end Timeline

/-! ## Calls that are the same -/

/-- Two calls ask the same query with the same values of variables. -/
structure PlanCall.Same (c c' : PlanCall) : Prop where
  query : c.query = c'.query
  bindings : ∀ name, c.bindings.get? name = c'.bindings.get? name

theorem PlanCall.Same.fresh_eq {c c' : PlanCall} (h : c.Same c') (rules : PlanRules) :
    c.fresh rules = c'.fresh rules := by
  rw [PlanCall.fresh, PlanCall.fresh, h.query]
  exact Plan.ofQueryWith_congr (fun name _ => h.bindings name) _

theorem PlanCall.Same.not_shadows {c c' : PlanCall} (h : c.Same c') (rules : PlanRules) :
    ¬c.Shadows rules c' := by
  rintro ⟨-, p, hfresh, hother⟩
  rw [h.fresh_eq rules] at hfresh
  exact hother hfresh

/-! ## What a service has to do with a timeline -/

/-- A service that stands where a timeline does. What it has published is of an earlier version of
the schema, or it is the newest, and the plans that it keeps were made for these calls with what it
has published. -/
structure SearchService.Follows (s : SearchService) (config : SearchConfig) (t : Timeline)
    (calls : List PlanCall) : Prop where
  config : s.config = config
  schema : s.schema.schema = t.schema
  committed : s.snapshot = Snapshot.ofHistory t.committed
  staged : s.staged? = t.staged?.map Snapshot.ofHistory
  older : s.published.schema.version ≤ s.schema.version
  newest : s.published.schema.version = s.schema.version → s.published.schema = s.schema
  plans : s.published.plans.MadeFor s.planRules calls

namespace SearchService.Follows

variable {s : SearchService} {config : SearchConfig} {t : Timeline} {calls : List PlanCall}

theorem start (schema : PublishedSchema) (config : SearchConfig) :
    (SearchService.start schema config).Follows config ⟨schema.schema, [], none⟩ [] where
  config := rfl
  schema := rfl
  committed := rfl
  staged := rfl
  older := Nat.le_refl _
  newest := fun _ => rfl
  plans := fun key p hp => by cases hp

/-- What is published is the newest schema, without plans. -/
theorem publish (h : s.Follows config t calls) {entries : Snapshot} {committed : List Change}
    (hentries : entries = Snapshot.ofHistory committed) :
    (s.publish entries).Follows config { t with committed := committed } calls where
  config := h.config
  schema := h.schema
  committed := hentries
  staged := h.staged
  older := Nat.le_refl _
  newest := fun _ => rfl
  plans := fun key p hp => by cases hp

theorem withStaged (h : s.Follows config t calls) {staged? : Option Snapshot}
    {changes? : Option (List Change)} (hstaged : staged? = changes?.map Snapshot.ofHistory) :
    { s with staged? := staged? }.Follows config { t with staged? := changes? } calls where
  config := h.config
  schema := h.schema
  committed := h.committed
  staged := hstaged
  older := h.older
  newest := h.newest
  plans := h.plans

/-- A schema that is changed behind the service has a version that is not published. -/
theorem changeSharedSchema (h : s.Follows config t calls) (change : Schema → Schema) :
    (s.changeSharedSchema change).Follows config { t with schema := change t.schema } calls where
  config := h.config
  schema := congrArg change h.schema
  committed := h.committed
  staged := h.staged
  older := Nat.le_succ_of_le h.older
  newest := fun hversion => by
    have hbehind := h.older
    have hsame : s.published.schema.version = s.schema.version + 1 := hversion
    omega
  plans := h.plans

theorem evict (h : s.Follows config t calls) (keeps : String → Bool) :
    (s.evict keeps).Follows config t calls :=
  { h with plans := h.plans.evict keeps }

/-- Before a search the service catches up with the schema. -/
theorem current (h : s.Follows config t calls) :
    s.current.Follows config t calls ∧ s.current.published.schema = s.current.schema := by
  unfold SearchService.current
  split
  · rename_i hversion
    exact ⟨h, h.newest hversion⟩
  · exact ⟨h.publish h.committed, rfl⟩

/-- Plans are made with what the timeline knows, once the service has caught up. -/
theorem planRules_eq (h : s.Follows config t calls) (hnewest : s.published.schema = s.schema) :
    s.planRules = t.rules config := by
  rw [SearchService.planRules, Timeline.rules, h.config, h.committed, hnewest, h.schema]

/-- A search that no earlier call shadows is answered from the timeline. -/
theorem search (h : s.Follows config t calls) {c : PlanCall}
    (hshadow : ∀ earlier ∈ calls, ¬earlier.Shadows (t.rules config) c) :
    (s.search c.query c.bindings).2 = t.answer config c
      ∧ (s.search c.query c.bindings).1.Follows config t (c :: calls) := by
  obtain ⟨hcurrent, hnewest⟩ := h.current
  have hrules := hcurrent.planRules_eq hnewest
  have hplans := hcurrent.plans
  rw [hrules] at hplans
  obtain ⟨hanswer, hnext⟩ := hplans.turn (t := PlanMemo.keepingAll c) hshadow
  cases hplan : s.current.published.plans.plan (t.rules config) c.query c.bindings with
  | mk next planned =>
    rw [PlanMemo.turn_keepingAll hplan] at hanswer hnext
    have hfollows : { s.current with
        published := { s.current.published with plans := next } }.Follows config t (c :: calls) :=
      { hcurrent with plans := hrules ▸ hnext }
    unfold SearchService.search
    simp only [hrules, hplan]
    unfold Timeline.answer
    cases planned with
    | error problem =>
      rw [← (show Except.error problem = c.fresh (t.rules config) from hanswer)]
      exact ⟨rfl, hfollows⟩
    | ok numbered =>
      rw [← (show Except.ok numbered.plan = c.fresh (t.rules config) from hanswer),
        ← hcurrent.committed]
      exact ⟨rfl, hfollows⟩

/-! ## One step and many -/

theorem begin (h : s.Follows config t calls) :
    (s.step .begin).2 = none ∧ (s.step .begin).1.Follows config (t.after .begin) calls := by
  have hstaged := h.staged
  unfold SearchService.step SearchService.beginUpdate Timeline.after
  cases hbegun : t.staged? with
  | none =>
    rw [hbegun, Option.map_none] at hstaged
    simp only [hstaged]
    exact ⟨trivial, h.withStaged (congrArg some h.committed)⟩
  | some changes =>
    rw [hbegun, Option.map_some] at hstaged
    simp only [hstaged]
    exact ⟨trivial, h⟩

theorem stage (h : s.Follows config t calls) (change : Change) :
    (s.step (.stage change)).2 = none
      ∧ (s.step (.stage change)).1.Follows config (t.after (.stage change)) calls := by
  have hstaged := h.staged
  unfold SearchService.step Timeline.after
  cases hbegun : t.staged? with
  | none =>
    rw [hbegun, Option.map_none] at hstaged
    simp only [hstaged]
    exact ⟨trivial, h⟩
  | some changes =>
    rw [hbegun, Option.map_some] at hstaged
    simp only [hstaged, stage_eq]
    exact ⟨trivial, h.withStaged (congrArg some (Snapshot.apply_ofHistory changes change))⟩

theorem commit (h : s.Follows config t calls) :
    (s.step .commit).2 = none ∧ (s.step .commit).1.Follows config (t.after .commit) calls := by
  have hstaged := h.staged
  unfold SearchService.step SearchService.commitStaged Timeline.after
  cases hbegun : t.staged? with
  | none =>
    rw [hbegun, Option.map_none] at hstaged
    simp only [hstaged]
    exact ⟨trivial, h⟩
  | some changes =>
    rw [hbegun, Option.map_some] at hstaged
    simp only [hstaged]
    exact ⟨trivial, (h.publish rfl).withStaged rfl⟩

/-- A step answers as the timeline does, and takes the service to where the timeline goes. -/
theorem step (h : s.Follows config t calls) (now : SearchStep)
    (hshadow : ∀ c ∈ now.call?, ∀ earlier ∈ calls, ¬earlier.Shadows (t.rules config) c) :
    (s.step now).2 = now.call?.map (t.answer config)
      ∧ (s.step now).1.Follows config (t.after now) (now.call?.toList ++ calls) := by
  cases now with
  | begin => exact h.begin
  | stage change => exact h.stage change
  | commit => exact h.commit
  | discard => exact ⟨rfl, h.withStaged rfl⟩
  | updateSchema change =>
    exact ⟨rfl, (h.changeSharedSchema change).publish h.committed⟩
  | changeSharedSchema change => exact ⟨rfl, h.changeSharedSchema change⟩
  | search turn =>
    obtain ⟨hanswer, hfollows⟩ := (h.evict turn.keeps).search (hshadow turn.call rfl)
    exact ⟨congrArg some hanswer, hfollows⟩

/-- Steps answer as the timeline does, if all calls that share a key are the same. -/
theorem steps (h : s.Follows config t calls) (asked : PlanCall → Prop)
    (hasked : ∀ c, asked c → ∀ c', asked c' → c.key = c'.key → c.Same c')
    (hcalls : ∀ c ∈ calls, asked c) {steps : List SearchStep}
    (hsteps : ∀ c ∈ steps.filterMap SearchStep.call?, asked c) :
    (s.steps steps).2 = t.answers config steps
      ∧ ∃ all, (s.steps steps).1.Follows config (t.afterAll steps) all := by
  induction steps generalizing s t calls with
  | nil => exact ⟨rfl, calls, h⟩
  | cons now rest ih =>
    have hnow : ∀ c ∈ now.call?, asked c := fun c hc =>
      hsteps c (List.mem_filterMap.mpr ⟨now, List.mem_cons_self, hc⟩)
    have hrest : ∀ c ∈ rest.filterMap SearchStep.call?, asked c := by
      intro c hc
      obtain ⟨later, hlater, hcall⟩ := List.mem_filterMap.mp hc
      exact hsteps c (List.mem_filterMap.mpr ⟨later, List.mem_cons_of_mem now hlater, hcall⟩)
    have hshadow : ∀ c ∈ now.call?, ∀ earlier ∈ calls,
        ¬earlier.Shadows (t.rules config) c := by
      intro c hc earlier hearlier hshadows
      exact (hasked earlier (hcalls earlier hearlier) c (hnow c hc) hshadows.1).not_shadows _
        hshadows
    obtain ⟨hanswer, hnext⟩ := h.step now hshadow
    have hknown : ∀ c ∈ now.call?.toList ++ calls, asked c := by
      intro c hc
      rcases List.mem_append.mp hc with hc | hc
      · exact hnow c (Option.mem_toList.mp hc)
      · exact hcalls c hc
    obtain ⟨hanswers, all, hlast⟩ := ih hnext hknown hrest
    refine ⟨?_, all, hlast⟩
    rw [steps_cons, Timeline.answers, hanswers, hanswer]
    cases now.call? <;> rfl

end SearchService.Follows

/-- Whatever happens to a service, every search has the answer of its time: the plan is made
afresh for the newest schema and the paths of the committed entries, and carried out on the
committed entries. What is staged is not seen before it is committed, and forgotten when it is
discarded. Calls that share a key are taken to be the same. -/
theorem SearchService.steps_start (schema : PublishedSchema) (config : SearchConfig)
    (steps : List SearchStep)
    (hkeys : ∀ c ∈ steps.filterMap SearchStep.call?, ∀ c' ∈ steps.filterMap SearchStep.call?,
      c.key = c'.key → c.Same c') :
    ((start schema config).steps steps).2
        = Timeline.answers config ⟨schema.schema, [], none⟩ steps
      ∧ ((start schema config).steps steps).1.snapshot
        = Snapshot.ofHistory (Timeline.afterAll ⟨schema.schema, [], none⟩ steps).committed
      ∧ ((start schema config).steps steps).1.staged?
        = (Timeline.afterAll ⟨schema.schema, [], none⟩ steps).staged?.map Snapshot.ofHistory := by
  obtain ⟨hanswers, all, hlast⟩ := (Follows.start schema config).steps
    (· ∈ steps.filterMap SearchStep.call?) hkeys (fun c hc => (List.not_mem_nil hc).elim)
    fun c hc => hc
  exact ⟨hanswers, hlast.committed, hlast.staged⟩

/-- Asks for all books. -/
def allBooks : PlanCall :=
  ⟨Query.all (.selector ⟨"book", none⟩), OrderedMap.empty⟩

/-- A book is added, another update is given up, and the table is dropped behind the service. The
plans of the first searches are kept. -/
def bookSteps : List SearchStep :=
  [.begin, .stage (.insert ((Entry.named "a" "one").inTable "book")),
    .search (PlanMemo.keepingAll allBooks), .commit, .search (PlanMemo.keepingAll allBooks),
    .begin, .stage (.remove "a"), .discard, .search (PlanMemo.keepingAll allBooks),
    .changeSharedSchema (·.withoutTable "book"), .search (PlanMemo.keepingAll allBooks)]

/-- A shelf has books. -/
def bookSchema : PublishedSchema :=
  .first (Schema.empty.withTable (Table.ofColumns "book" []))

/-- The first search is before the commit, the third one after the update that was given up, and the
last one after the table was dropped. -/
theorem SearchService.steps_start_bookSteps :
    (∀ c ∈ bookSteps.filterMap SearchStep.call?, ∀ c' ∈ bookSteps.filterMap SearchStep.call?,
      c.key = c'.key → c.Same c')
      ∧ (((start bookSchema SearchConfig.standard).steps bookSteps).2.map
          fun r => r.toOption.map (·.identifiers))
        = [some [], some ["a"], some ["a"], none] := by
  have hkeys : ∀ c ∈ bookSteps.filterMap SearchStep.call?,
      ∀ c' ∈ bookSteps.filterMap SearchStep.call?, c.key = c'.key → c.Same c' := by
    have hall : ∀ c ∈ bookSteps.filterMap SearchStep.call?, c = allBooks := by
      intro c hc
      simpa [bookSteps, SearchStep.call?, PlanMemo.keepingAll, eq_comm] using hc
    intro c hc c' hc' _
    rw [hall c hc, hall c' hc']
    exact ⟨rfl, fun _ => rfl⟩
  refine ⟨hkeys, ?_⟩
  rw [(steps_start bookSchema SearchConfig.standard bookSteps hkeys).1]
  decide +kernel

end ContentSearch
