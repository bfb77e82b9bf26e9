import ContentSearch.Proofs.Plan.Translation
import Mathlib.Data.List.Forall2

/-!
# The meaning of views

A view leads to a base table through the views that it stands upon. The main statement says that a
query of a view selects the entries of the base table that satisfy the constraints of all
definitions on the way and the constraint of the query, each of them written with the names that its
columns have in the base table.
-/

namespace ContentSearch

/-! ## Chains of views -/

/-- A table leads to a base table through views of one selector that rename columns. With the chain
come the names that its columns have in the base table, and the constraints of the definitions in
these names, from the base table upwards. -/
inductive Schema.Leads (schema : Schema) :
    String → String → (String → String) → List Constraint → Prop
  | base {name : String} {t : Table} (ht : schema.table? name = some t)
      (hbase : t.definition? = none) : Leads schema name name id []
  | view {name base : String} {t : Table} {q : Query} {s : Selector} {f : String → String}
      {constraints : List Constraint} (ht : schema.table? name = some t)
      (hdefinition : t.definition? = some q) (hsource : q.source = .selector s)
      (hrenames : q.Renames) (below : Leads schema s.table base f constraints) :
      Leads schema name base (f ∘ q.sourceColumn)
        (constraints ++ q.constraint?.toList.map (·.translate f))

/-- The columns of a view are shown from the base table. -/
theorem Schema.Leads.shows {schema : Schema} (hresolved : TablesResolved schema.tables)
    {name base : String} {f : String → String} {constraints : List Constraint}
    (h : schema.Leads name base f constraints) :
    ∃ t tb, schema.table? name = some t ∧ schema.table? base = some tb
      ∧ tb.definition? = none ∧ t.Shows tb f := by
  induction h with
  | @base name t ht hbase => exact ⟨t, t, ht, ht, hbase, .refl t⟩
  | @view name base t q s f constraints ht hdefinition hsource hrenames below ih =>
    obtain ⟨source, tb, hs, hbase, hdefinition?, hshows⟩ := ih
    obtain ⟨source', hs', hview⟩ := hresolved.view ht hdefinition hsource
    have hs' : schema.table? s.table = some source' := hs'
    obtain rfl := Option.some.inj (hs.symm.trans hs')
    exact ⟨t, tb, ht, hbase, hdefinition?, (hview hrenames).trans hshows⟩

/-! ## Names behind the columns of a view -/

namespace Plan

/-- The properties of the columns of a definition, the last one of each name counting. -/
theorem get?_foldl_addProperty (source : PlanSelector) (columns : List ResultColumn)
    (m : OrderedMap String String) (x : String) :
    (columns.foldl (addProperty source) m).get? x
      = (((columns.reverse.find? (·.isNamed x)).bind (·.property?)).map
        source.physicalProperty).or (m.get? x) := by
  induction columns generalizing m with
  | nil => rfl
  | cons c rest ih =>
    rw [List.foldl_cons, ih, List.reverse_cons, List.find?_append]
    -- a later column of the name counts, else this one, else what was there
    cases hlater : rest.reverse.find? (·.isNamed x) with
    | some later =>
      have hnamed := (ResultColumn.find?_isNamed_iff.mp hlater).1
      rw [ResultColumn.isNamed, Bool.and_eq_true, Option.isSome_iff_exists] at hnamed
      obtain ⟨⟨property, hproperty⟩, -⟩ := hnamed
      simp [hproperty]
    | none =>
      cases hproperty : c.property? with
      | none => simp [addProperty, ResultColumn.isNamed, hproperty]
      | some property =>
        by_cases hx : x = c.resolvedName
        · simp [addProperty, ResultColumn.isNamed, hproperty, hx]
        · simp [addProperty, ResultColumn.isNamed, hproperty, hx, Ne.symm hx]

/-- Entries that are merged in do not replace those that are there. -/
theorem get?_foldl_merge (es : List (String × String)) (m : OrderedMap String String)
    (x : String) :
    (es.foldl (fun found e => if found.contains e.1 then found else found.insert e.1 e.2) m).get? x
      = (m.get? x).or (OrderedMap.findEntry x es) := by
  induction es generalizing m with
  | nil => simp [OrderedMap.findEntry]
  | cons e rest ih =>
    rw [List.foldl_cons, ih, OrderedMap.findEntry, OrderedMap.contains]
    by_cases hx : e.1 = x
    · subst hx
      cases hm : m.get? e.1 <;> simp [hm]
    · cases hm : m.get? e.1 with
      | some v => simp [hx]
      | none => simp [hx, Ne.symm hx]

/-- A column that is called like its property may be left out. -/
theorem getD_filter_ne (property? : Option String) (column : String) :
    (property?.filter fun property => column != property).getD column
      = property?.getD column := by
  cases property? with
  | none => rfl
  | some property => by_cases h : column = property <;> simp [Option.filter, h]

/-- The property behind a column of a view is the one behind the column of its definition. -/
theorem getD_viewPropertyNames (source : PlanSelector) (q : Query) (x : String) :
    ((viewPropertyNames source q.columns).get? x).getD x
      = source.physicalProperty (q.propertyBehind x) := by
  unfold viewPropertyNames
  rw [OrderedMap.get?_filter, getD_filter_ne, get?_foldl_merge, get?_foldl_addProperty,
    Query.propertyBehind]
  cases (q.columns.reverse.find? (·.isNamed x)).bind (·.property?) with
  | none => rfl
  | some property => rfl

/-! ## Queries of one selector -/

section
variable {rules : PlanRules} {expand : SelectorExpansion} {q : Query} {selector : Selector}
  {bindings : Bindings} {plan : Plan}

/-- The plan of a query of one selector is made in a scope in which all references mean the
selector. -/
theorem ofQueryWith_of_selector (hsource : q.source = .selector selector)
    (h : ofQueryWith rules expand q bindings = .ok plan) :
    ∃ (s : Scope) (found : PlanSelector), s.rules = rules ∧ s.bindings = bindings
      ∧ expand selector.name selector.table = .ok found
      ∧ (∀ {name? x}, s.selector name? = .ok x → x = found)
      ∧ plan.selectors = [found]
      ∧ plan.predicate = .allOf (found.predicate :: plan.constraint?.toList)
      ∧ constraintPredicate? s q.constraint? = .ok plan.constraint?
      ∧ ∀ c ∈ q.constraint?, c.IsValid rules.validation selector := by
  obtain ⟨s, rfl, rfl, hresolved, hselectors, -, hconstraint, -, -, -, hplan, hpredicate, -⟩ :=
    ofQueryWith_eq_ok h
  rw [expandSelectors_of_single (ValidationRules.selectors_of_resolve hresolved hsource)]
    at hselectors
  obtain ⟨found, hfound, hselectors⟩ := Outcome.map_eq_ok hselectors
  have hsingle := hselectors.symm
  refine ⟨s, found, rfl, rfl, hfound, Scope.eq_of_selector hsingle, ?_, ?_, hconstraint, ?_⟩
  · rw [hplan, hsingle]
    rfl
  · rw [hpredicate, hsingle]
    rfl
  · intro c hc node hnode
    have hvalid := ((ValidationRules.resolve_eq_ok_iff hsource).mp ⟨_, hresolved⟩).2
    refine hvalid node ?_
    rw [Option.mem_def] at hc
    simp [Node.afterSource, hc, hnode]

theorem expandSelector_of_view {levels : Nat} {name view : String} {t : Table}
    {found : PlanSelector} (ht : rules.schema.table? view = some t)
    (hdefinition : t.definition? = some q) (hsource : q.source = .selector selector)
    (h : expandSelector rules levels name view = .ok found) :
    ∃ below plan, ofQueryWith rules (expandSelector rules below) q OrderedMap.empty = .ok plan
      ∧ viewSelector name view q.columns plan = .ok found := by
  cases levels with
  | zero =>
    rw [expandSelector_zero_of_view ht hdefinition] at h
    cases h
  | succ below =>
    rw [expandSelector_succ_of_view ht hdefinition hsource] at h
    obtain ⟨plan, hplan, hview⟩ := Outcome.bind_eq_ok h
    exact ⟨below, plan, hplan, hview⟩

end

end Plan

/-! ## Several predicates -/

namespace Predicate

variable {engine : Regex.Engine}

theorem compiles_allOf {clauses : List Predicate} :
    (allOf clauses).compiles engine = allCompile engine clauses := by
  simp [allOf, compiles, allCompile]

theorem allCompile_append (front back : List Predicate) :
    allCompile engine (front ++ back) = (allCompile engine front && allCompile engine back) := by
  induction front with
  | nil => rfl
  | cons p rest ih => rw [List.cons_append, allCompile, allCompile, ih, Bool.and_assoc]

end Predicate

theorem Entry.satisfies_allOf {engine : Regex.Engine} {e : Entry} {clauses : List Predicate} :
    e.satisfies engine (.allOf clauses) = e.satisfiesAll engine clauses := by
  simp [Predicate.allOf, satisfies, satisfiesAny]

theorem Entry.satisfiesAll_append {engine : Regex.Engine} {e : Entry}
    (front back : List Predicate) :
    e.satisfiesAll engine (front ++ back)
      = (e.satisfiesAll engine front && e.satisfiesAll engine back) := by
  induction front with
  | nil => rfl
  | cons p rest ih => rw [List.cons_append, satisfiesAll, satisfiesAll, ih, Bool.and_assoc]

/-- The predicate asks for the entries of a table that satisfy several predicates. -/
structure Predicate.Selects (p : Predicate) (table : String) (clauses : List Predicate) :
    Prop where
  compiles : ∀ engine, p.compiles engine = allCompile engine clauses
  satisfies : ∀ engine e, Entry.satisfies engine e p
    = (e.tables.contains table && e.satisfiesAll engine clauses)

theorem Predicate.Selects.allOf {p : Predicate} {table : String} {clauses : List Predicate}
    (h : p.Selects table clauses) (more : List Predicate) :
    (Predicate.allOf (p :: more)).Selects table (clauses ++ more) where
  compiles engine := by
    rw [compiles_allOf, allCompile, h.compiles, allCompile_append]
  satisfies engine e := by
    rw [Entry.satisfies_allOf, Entry.satisfiesAll, h.satisfies, Entry.satisfiesAll_append,
      Bool.and_assoc]

/-! ## Expanded selectors -/

/-- A scope in which a reference without a name means a base table. -/
structure Scope.IsOfBase (s : Scope) (rules : PlanRules) (base : String) : Prop where
  rules : s.rules = rules
  unnamed : ∃ name, s.selector none = .ok (Plan.baseSelector name base)

/-- What becomes of a selector of a view: it leads to the base table, with the names of the
properties there, and its predicate asks for the entries of the base table that satisfy the
constraints of all definitions. -/
structure PlanSelector.Expands (found : PlanSelector) (rules : PlanRules) (view base : String)
    (f : String → String) (constraints : List Constraint) : Prop where
  table : found.table = view
  indexTable : found.indexTable = base
  physical : ∀ x, found.physicalProperty x = f x
  valid : ∀ c ∈ constraints, c.IsValid rules.validation ⟨base, none⟩
  selects : ∃ clauses, found.predicate.Selects base clauses
    ∧ ∀ s : Scope, s.IsOfBase rules base →
      List.Forall₂ (fun c p => s.predicate c = .ok p) constraints clauses

namespace PlanSelector.Expands

variable {found : PlanSelector} {rules : PlanRules} {view base : String} {f : String → String}
  {constraints : List Constraint}

/-- References to the view lead to the base table. -/
theorem leadsTo (h : found.Expands rules view base f constraints) {s s' : Scope}
    (hrules : s.rules = rules) (hs' : s'.IsOfBase rules base)
    (honly : ∀ {name? x}, s.selector name? = .ok x → x = found)
    (hbindings : ∀ {name v}, s.bindings.get? name = some v → s'.bindings.get? name = some v)
    {t tb : Table} (ht : rules.schema.table? view = some t)
    (htb : rules.schema.table? base = some tb) (hshows : t.Shows tb f) :
    ∃ found', s.LeadsTo s' found found' t tb f := by
  obtain ⟨name, hunnamed⟩ := hs'.unnamed
  refine ⟨_, ?_, hbindings, honly, hunnamed, ?_, ?_, hshows, ?_, ?_⟩
  · rw [hs'.rules, hrules]
  · rw [hrules, h.table, ht]
  · rw [hrules]
    exact htb
  · exact h.indexTable.symm
  · intro x c _
    rw [h.physical]
    rfl

/-- A constraint of a query of the view has the same predicate over the base table, in the names
that the columns have there. -/
theorem forall₂_predicate (h : found.Expands rules view base f constraints) {s s' : Scope}
    (hrules : s.rules = rules) (hs' : s'.IsOfBase rules base)
    (honly : ∀ {name? x}, s.selector name? = .ok x → x = found)
    (hbindings : ∀ {name v}, s.bindings.get? name = some v → s'.bindings.get? name = some v)
    {t tb : Table} (ht : rules.schema.table? view = some t)
    (htb : rules.schema.table? base = some tb) (hshows : t.Shows tb f)
    (hchecks : rules.checksColumns = true) {selector : Selector} (hselector : selector.table = view)
    {c? : Option Constraint} (hvalid : ∀ c ∈ c?, c.IsValid rules.validation selector)
    {p? : Option Predicate} (hp : Plan.constraintPredicate? s c? = .ok p?) :
    List.Forall₂ (fun c p => s'.predicate c = .ok p) (c?.toList.map (·.translate f)) p?.toList := by
  obtain ⟨found', hleads⟩ := h.leadsTo hrules hs' honly hbindings ht htb hshows
  subst hrules hselector
  cases c? with
  | none =>
    obtain rfl := Except.ok.inj hp
    exact .nil
  | some c =>
    obtain ⟨p, hmade, rfl⟩ := Outcome.map_eq_ok hp
    exact .cons (hleads.predicate hchecks ht (hvalid c rfl) hmade) .nil

end PlanSelector.Expands

/-- Every selector of a view on a chain is expanded to the base table of the chain. -/
theorem Schema.Leads.expands {rules : PlanRules} (hresolved : TablesResolved rules.schema.tables)
    (hchecks : rules.checksColumns = true) {view base : String} {f : String → String}
    {constraints : List Constraint} (h : rules.schema.Leads view base f constraints)
    {levels : Nat} {name : String} {found : PlanSelector}
    (hfound : Plan.expandSelector rules levels name view = .ok found) :
    found.Expands rules view base f constraints := by
  induction h generalizing levels name found with
  | @base table t ht hbase =>
    rw [Plan.expandSelector_of_base ht hbase] at hfound
    obtain rfl := Except.ok.inj hfound
    refine ⟨rfl, rfl, fun _ => rfl, fun c hc => (List.not_mem_nil hc).elim, [], ⟨?_, ?_⟩, ?_⟩
    · exact fun _ => rfl
    · intro engine e
      rw [Plan.baseSelector, Plan.satisfies_table, Entry.satisfiesAll, Bool.and_true]
    · exact fun _ _ => .nil
  | @view table base t q s f constraints ht hdefinition hsource hrenames below ih =>
    obtain ⟨levels', plan, hplan, hview⟩ :=
      Plan.expandSelector_of_view ht hdefinition hsource hfound
    obtain ⟨scope, source, hrules, hbindings, hexpand, honly, hselectors, hpredicate, hconstraint,
      hvalid⟩ := Plan.ofQueryWith_of_selector hsource hplan
    have hsourceExpands := ih hexpand
    obtain ⟨tsource, tb, htsource, htb, -, hshows⟩ := below.shows hresolved
    simp only [Plan.viewSelector, hselectors] at hview
    obtain rfl := Except.ok.inj hview
    obtain ⟨clauses, hselects, hclauses⟩ := hsourceExpands.selects
    refine ⟨rfl, hsourceExpands.indexTable, ?_, ?_, clauses ++ plan.constraint?.toList, ?_, ?_⟩
    · -- names go through the definition, then down the rest of the chain
      intro x
      show ((Plan.viewPropertyNames source q.columns).get? x).getD x = f (q.sourceColumn x)
      rw [Plan.getD_viewPropertyNames, hrenames.propertyBehind_eq, hsourceExpands.physical]
    · intro c hc
      rcases List.mem_append.mp hc with hc | hc
      · exact hsourceExpands.valid c hc
      · obtain ⟨d, hd, rfl⟩ := List.mem_map.mp hc
        exact (hvalid d (Option.mem_toList.mp hd)).translate hchecks htsource htb hshows
    · rw [hpredicate]
      exact hselects.allOf _
    · intro s' hs'
      -- the definition sees no variables, so that all of them have their values
      have hnone : ∀ {name v}, scope.bindings.get? name = some v →
          s'.bindings.get? name = some v := by
        intro name v hv
        rw [hbindings] at hv
        cases hv
      exact List.rel_append (hclauses s' hs')
        (hsourceExpands.forall₂_predicate hrules hs' honly hnone htsource htb hshows hchecks rfl
          hvalid hconstraint)

/-! ## Queries of the base table -/

/-- All constraints of a list, and one more. -/
def Constraint.conjunction (constraints : List Constraint) (last : Constraint) : Constraint :=
  constraints.foldr .and last

/-- All entries of a table that satisfy a constraint. -/
def Query.ofTable (table : String) (c : Constraint) : Query :=
  (Query.all (.selector ⟨table, none⟩)).withConstraint c

theorem Constraint.IsValid.conjunction {rules : ValidationRules} {s : Selector}
    {constraints : List Constraint} (h : ∀ c ∈ constraints, c.IsValid rules s)
    {last : Constraint} (hlast : last.IsValid rules s) :
    (Constraint.conjunction constraints last).IsValid rules s := by
  induction constraints with
  | nil => exact hlast
  | cons c rest ih =>
    exact isValid_and.mpr ⟨h c List.mem_cons_self,
      ih fun c' hc' => h c' (List.mem_cons_of_mem c hc')⟩

/-- The predicate of a conjunction asks for what the predicates of its parts ask for. -/
theorem Scope.predicate_conjunction {s : Scope} {constraints : List Constraint}
    {clauses : List Predicate}
    (h : List.Forall₂ (fun c p => s.predicate c = .ok p) constraints clauses)
    {last : Constraint} {p : Predicate} (hlast : s.predicate last = .ok p) :
    ∃ all, s.predicate (Constraint.conjunction constraints last) = .ok all
      ∧ (∀ engine, all.compiles engine = Predicate.allCompile engine (clauses ++ [p]))
      ∧ ∀ engine (e : Entry), e.satisfies engine all = e.satisfiesAll engine (clauses ++ [p]) := by
  induction h with
  | nil =>
    refine ⟨p, hlast, fun engine => ?_, fun engine e => ?_⟩
    · rw [List.nil_append, Predicate.allCompile, Predicate.allCompile, Bool.and_true]
    · rw [List.nil_append, Entry.satisfiesAll, Entry.satisfiesAll, Bool.and_true]
  | @cons c first constraints clauses hfirst _ ih =>
    obtain ⟨rest, hrest, hcompiles, hsatisfies⟩ := ih
    refine ⟨.allOf [first, rest], ?_, fun engine => ?_, fun engine e => ?_⟩
    · have hconjunction : Constraint.conjunction (c :: constraints) last
          = .and c (Constraint.conjunction constraints last) := rfl
      rw [hconjunction, predicate, hfirst, Outcome.ok_bind, hrest, Outcome.ok_bind]
    · rw [Predicate.compiles_allOf, List.cons_append, Predicate.allCompile, Predicate.allCompile,
        Predicate.allCompile, Bool.and_true, Predicate.allCompile, hcompiles]
    · rw [Entry.satisfies_allOf, List.cons_append, Entry.satisfiesAll, Entry.satisfiesAll,
        Entry.satisfiesAll, Bool.and_true, Entry.satisfiesAll, hsatisfies]

namespace Plan

/-- An expanded selector is one of a table of the schema. -/
theorem exists_table_of_expandSelector {rules : PlanRules} {levels : Nat} {name table : String}
    {found : PlanSelector} (h : expandSelector rules levels name table = .ok found) :
    ∃ t, rules.schema.table? table = some t := by
  cases expandSelector_eq_ok_iff.mp h with
  | base ht | view ht => exact ⟨_, ht⟩

/-- A valid constraint on a table has a plan as soon as it has a predicate, if the selector of the
table can be expanded. -/
theorem exists_scope_of_expandSelector {rules : PlanRules} {table : String} {found : PlanSelector}
    (hfound : expandSelector rules maxViewDepth table table = .ok found) {c : Constraint}
    (hvalid : c.IsValid rules.validation ⟨table, none⟩) (bindings : Bindings) :
    ∃ s : Scope, s.rules = rules ∧ s.bindings = bindings ∧ s.selector none = .ok found
      ∧ ∀ p, s.predicate c = .ok p →
        ∃ plan, ofQuery rules (.ofTable table c) bindings = .ok plan
          ∧ plan.predicate = .allOf [found.predicate, p] := by
  have hsource : (Query.ofTable table c).source = .selector ⟨table, none⟩ := rfl
  have hafter : ∀ node ∈ Node.afterSource (.ofTable table c),
      rules.validation.problems (.ofSelector ⟨table, none⟩) node = [] := by
    intro node hnode
    have hnodes : Node.afterSource (.ofTable table c)
        = Node.walkConstraint c ++ [.limit Limit.unlimited] := by
      simp [Node.afterSource, Query.ofTable, Query.all, Query.withConstraint]
    rw [hnodes, List.mem_append, List.mem_singleton] at hnode
    rcases hnode with hnode | rfl
    · exact hvalid node hnode
    · rfl
  have htable := exists_table_of_expandSelector hfound
  obtain ⟨r, hr⟩ := (ValidationRules.resolve_eq_ok_iff hsource).mpr ⟨htable, hafter⟩
  have hselectors : r.selectors = OrderedMap.empty.insert table table :=
    ValidationRules.selectors_of_resolve hr hsource
  have hexpand : expandSelectors (expandSelector rules maxViewDepth) r
      = .ok (OrderedMap.empty.insert table found) := by
    rw [expandSelectors_of_single hselectors, hfound]
    rfl
  refine ⟨⟨rules, r, OrderedMap.empty.insert table found, bindings⟩, rfl, rfl, ?_, fun p hp => ?_⟩
  · have hname : r.selector? none = some table := by
      unfold ResolvedQuery.selector?
      rw [hselectors]
      rfl
    rw [Scope.selector, hname, Option.bind_some, OrderedMap.get?_insert, if_pos rfl]
  · simp only [ofQuery, ofQueryWith, hr, Except.mapError, Outcome.ok_bind, hexpand]
    have hconstraint : (Query.ofTable table c).constraint? = some c := rfl
    simp only [hconstraint, hp]
    exact ⟨_, rfl, rfl⟩

/-- A valid constraint on a base table has a plan as soon as it has a predicate. -/
theorem exists_scope_of_base {rules : PlanRules} {base : String} {tb : Table}
    (htb : rules.schema.table? base = some tb) (hbase : tb.definition? = none) {c : Constraint}
    (hvalid : c.IsValid rules.validation ⟨base, none⟩) (bindings : Bindings) :
    ∃ s : Scope, s.IsOfBase rules base ∧ s.bindings = bindings
      ∧ ∀ p, s.predicate c = .ok p →
        ∃ plan, ofQuery rules (.ofTable base c) bindings = .ok plan
          ∧ plan.predicate = .allOf [.term Field.table base true, p] := by
  obtain ⟨s, hrules, hbindings, hselector, hplan⟩ :=
    exists_scope_of_expandSelector (expandSelector_of_base htb hbase) hvalid bindings
  exact ⟨s, ⟨hrules, base, hselector⟩, hbindings, hplan⟩

/-- The plan of a query of a view selects, whatever has been added and removed before, the entries
of the base table of the view that satisfy the constraints of all definitions on the way and the
constraint of the query, each of them in the names that its columns have in the base table: this is
the constraint of a query of the base table that has a plan itself. The schema is one that a draft
builds without using a name twice, and columns are checked. -/
theorem ofQuery_view {calls : List SchemaCall} {rules : PlanRules}
    (hbuild : (SchemaDraft.ofCalls calls).build = .ok rules.schema)
    (hnames : (SchemaDraft.ofCalls calls).names.Nodup) (hchecks : rules.checksColumns = true)
    {selector : Selector} {base : String} {f : String → String} {constraints : List Constraint}
    (hleads : rules.schema.Leads selector.table base f constraints) {q : Query}
    (hsource : q.source = .selector selector) {c : Constraint}
    (hconstraint : q.constraint? = some c) {bindings : Bindings} {plan : Plan}
    (hplan : ofQuery rules q bindings = .ok plan) :
    ∃ direct p,
      ofQuery rules (.ofTable base (Constraint.conjunction constraints (c.translate f))) bindings
          = .ok direct
        ∧ direct.predicate = .allOf [.term Field.table base true, p]
        ∧ ∀ (engine : Regex.Engine) (history : List Change),
          (∀ docs, (Snapshot.ofHistory history).evaluateWith engine plan.predicate = .ok docs →
              docs = (Snapshot.ofHistory history).docsWhere fun e =>
                e.tables.contains base && e.satisfies engine p)
            ∧ (p.compiles engine = true →
              (Snapshot.ofHistory history).evaluateWith engine plan.predicate
                  = .ok ((Snapshot.ofHistory history).docsWhere fun e =>
                    e.tables.contains base && e.satisfies engine p)
                ∧ (Snapshot.ofHistory history).evaluateWith engine direct.predicate
                  = .ok ((Snapshot.ofHistory history).docsWhere fun e =>
                    e.tables.contains base && e.satisfies engine p)) := by
  have hresolved := SchemaDraft.tablesResolved_of_build hbuild hnames
  obtain ⟨t, tb, ht, htb, hbase, hshows⟩ := hleads.shows hresolved
  obtain ⟨scope, found, hrules, hbindings, hexpand, honly, -, hpredicate, hscope, hvalid⟩ :=
    ofQueryWith_of_selector hsource hplan
  have hexpands := hleads.expands hresolved hchecks hexpand
  rw [hconstraint] at hscope hvalid
  -- the query of the base table is valid, which gives the scope of its plan
  have hlast : (c.translate f).IsValid rules.validation ⟨base, none⟩ :=
    (hvalid c rfl).translate hchecks ht htb hshows
  obtain ⟨s, hs, hsame, hdirect⟩ := exists_scope_of_base htb hbase
    (Constraint.IsValid.conjunction hexpands.valid hlast) bindings
  obtain ⟨clauses, hselects, hclauses⟩ := hexpands.selects
  obtain ⟨p, hp, hplanConstraint⟩ := Outcome.map_eq_ok hscope
  have hrenamed := hexpands.forall₂_predicate hrules hs honly
    (fun hv => by rwa [hsame, ← hbindings]) ht htb hshows hchecks rfl hvalid hscope
  rw [← hplanConstraint] at hrenamed hpredicate
  obtain ⟨all, hall, hcompiles, hsatisfies⟩ :=
    Scope.predicate_conjunction (hclauses s hs) (List.forall₂_cons.mp hrenamed).1
  obtain ⟨direct, hok, hdirectPredicate⟩ := hdirect all hall
  refine ⟨direct, all, hok, hdirectPredicate, fun engine history => ?_⟩
  -- both predicates ask for the table, the clauses of the definitions and the last clause
  have hplanSelects : plan.predicate.Selects base (clauses ++ [p]) :=
    hpredicate ▸ hselects.allOf [p]
  have hplanTest : ∀ e : Entry, e.satisfies engine plan.predicate
      = (e.tables.contains base && e.satisfies engine all) := fun e => by
    rw [hplanSelects.satisfies, hsatisfies]
  have hdirectTest : ∀ e : Entry, e.satisfies engine direct.predicate
      = (e.tables.contains base && e.satisfies engine all) := fun e => by
    rw [hdirectPredicate, satisfies_inTable]
  have hconsistent := Snapshot.consistent_ofHistory history
  refine ⟨(hconsistent.evaluateWith_eq_docsWhere hplanTest).1, fun hcompile => ?_⟩
  have hplanCompiles : plan.predicate.compiles engine = true := by
    rw [hplanSelects.compiles, ← hcompiles, hcompile]
  have hdirectCompiles : direct.predicate.compiles engine = true := by
    simp [hdirectPredicate, Predicate.compiles_allOf, Predicate.allCompile, Predicate.compiles,
      hcompile]
  exact ⟨(hconsistent.evaluateWith_eq_docsWhere hplanTest).2 hplanCompiles,
    (hconsistent.evaluateWith_eq_docsWhere hdirectTest).2 hdirectCompiles⟩

/-! ## Three views of books -/

/-- Title and owner change names. -/
def swappedView : Query where
  source := .selector ⟨"book", some "b"⟩
  constraint? := some (.compare (.property ⟨some "b", "title"⟩) .notEqualTo
    (.literal (Literal.ofValue (.string "Emma"))))
  orderings := []
  columns := [⟨none, some "title", some "owner"⟩, ⟨some "b", some "owner", some "title"⟩]
  limit := Limit.unlimited

/-- What was called the owner is called the title again. -/
def restoredView : Query where
  source := .selector ⟨"swapped", none⟩
  constraint? := some (.compare (.lower (.property ⟨none, "title"⟩)) .like
    (.literal (Literal.ofValue (.string "a%"))))
  orderings := []
  columns := [⟨none, some "owner", some "title"⟩]
  limit := Limit.unlimited

/-- All of the second view. -/
def wholeView : Query :=
  Query.all (.selector ⟨"restored", none⟩)

def viewCalls : List SchemaCall :=
  [.addTable "book" ["title", "owner"], .addView "swapped" swappedView,
    .addView "restored" restoredView, .addView "whole" wholeView]

def viewRules : PlanRules where
  schema := (SchemaDraft.ofCalls viewCalls).build.toOption.getD Schema.empty
  caseSensitive := true
  checksColumns := true
  resolvePath := fun _ => none

/-- Asks for a title. -/
def titleQuery : Query :=
  (Query.all (.selector ⟨"whole", some "w"⟩)).withConstraint
    (.compare (.property ⟨some "w", "title"⟩) .equalTo (.variable "t"))

/-- The names that the columns of the last view have in the table of books. -/
def wholeNames : String → String :=
  ((id ∘ swappedView.sourceColumn) ∘ restoredView.sourceColumn) ∘ wholeView.sourceColumn

/-- The constraints of the three definitions in the names of the table of books. -/
def wholeConstraints : List Constraint :=
  [.compare (.property ⟨none, "title"⟩) .notEqualTo (.literal (Literal.ofValue (.string "Emma"))),
    .compare (.lower (.property ⟨none, "owner"⟩)) .like
      (.literal (Literal.ofValue (.string "a%")))]

def titleBindings : Bindings :=
  OrderedMap.empty.insert "t" (.string "Moby")

theorem renames_views : swappedView.Renames ∧ restoredView.Renames ∧ wholeView.Renames := by
  have hexplicit : ∀ q : Query, (q.columns.all fun c => c.property?.isSome) = true →
      ∀ c ∈ q.columns, ∃ property, c.property? = some property :=
    fun q hall c hc => Option.isSome_iff_exists.mp (List.all_eq_true.mp hall c hc)
  exact ⟨⟨hexplicit _ rfl, by decide⟩, ⟨hexplicit _ rfl, by decide⟩, ⟨hexplicit _ rfl, by decide⟩⟩

theorem leads_whole : viewRules.schema.Leads "whole" "book" wholeNames wholeConstraints := by
  have hview : ∀ (name : String) (q : Query),
      (viewRules.schema.table? name).bind (·.definition?) = some q →
      ∃ t, viewRules.schema.table? name = some t ∧ t.definition? = some q :=
    fun _ _ h => Option.bind_eq_some_iff.mp h
  obtain ⟨whole, hwhole, hwholeView⟩ := hview "whole" wholeView (by decide +kernel)
  obtain ⟨restored, hrestored, hrestoredView⟩ := hview "restored" restoredView (by decide +kernel)
  obtain ⟨swapped, hswapped, hswappedView⟩ := hview "swapped" swappedView (by decide +kernel)
  have hbase : (viewRules.schema.table? "book").map (·.definition?) = some none := by
    decide +kernel
  obtain ⟨book, hbook, hbookBase⟩ := Option.map_eq_some_iff.mp hbase
  obtain ⟨hswappedRenames, hrestoredRenames, hwholeRenames⟩ := renames_views
  have hleads := Schema.Leads.view hwhole hwholeView rfl hwholeRenames
    (.view hrestored hrestoredView rfl hrestoredRenames
      (.view hswapped hswappedView rfl hswappedRenames (.base hbook hbookBase)))
  have hconstraints : wholeConstraints
      = [] ++ swappedView.constraint?.toList.map (·.translate id)
        ++ restoredView.constraint?.toList.map (·.translate (id ∘ swappedView.sourceColumn))
        ++ wholeView.constraint?.toList.map
          (·.translate ((id ∘ swappedView.sourceColumn) ∘ restoredView.sourceColumn)) := by
    decide +kernel
  rw [hconstraints]
  exact hleads

/-- The title of the last view is the title of the table of books again. -/
theorem ofQuery_view_whole :
    ∃ plan direct p, ofQuery viewRules titleQuery titleBindings = .ok plan
      ∧ ofQuery viewRules (.ofTable "book" (Constraint.conjunction wholeConstraints
          (.compare (.property ⟨none, "title"⟩) .equalTo (.variable "t")))) titleBindings
        = .ok direct
      ∧ direct.predicate = .allOf [.term Field.table "book" true, p]
      ∧ ∀ (engine : Regex.Engine) (history : List Change),
        ∀ docs, (Snapshot.ofHistory history).evaluateWith engine plan.predicate = .ok docs →
          docs = (Snapshot.ofHistory history).docsWhere fun e =>
            e.tables.contains "book" && e.satisfies engine p := by
  have hbuild : (SchemaDraft.ofCalls viewCalls).build = .ok viewRules.schema :=
    Outcome.eq_ok_getD (by decide +kernel) Schema.empty
  have hisOk : (ofQuery viewRules titleQuery titleBindings).isOk = true := by decide +kernel
  obtain ⟨plan, hplan⟩ := Outcome.exists_of_isOk hisOk
  have hsource : titleQuery.source = .selector ⟨"whole", some "w"⟩ := rfl
  have hconstraint : titleQuery.constraint?
      = some (.compare (.property ⟨some "w", "title"⟩) .equalTo (.variable "t")) := rfl
  obtain ⟨direct, p, hdirect, hpredicate, hdocs⟩ :=
    ofQuery_view hbuild (by decide +kernel) rfl leads_whole hsource hconstraint hplan
  have htranslated : (Constraint.compare (.property ⟨some "w", "title"⟩) .equalTo
      (.variable "t")).translate wholeNames
      = .compare (.property ⟨none, "title"⟩) .equalTo (.variable "t") := by
    decide +kernel
  rw [htranslated] at hdirect
  exact ⟨plan, direct, p, hplan, hdirect, hpredicate, fun engine history =>
    (hdocs engine history).1⟩

end Plan

end ContentSearch
