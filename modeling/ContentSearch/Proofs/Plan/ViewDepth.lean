import ContentSearch.Proofs.Plan.Lookup
import ContentSearch.Proofs.Plan.ViewColumn

/-!
# The depth of views

A schema that is put together table by table may have any views in it: views upon views, and views
that lead back to themselves. The main statement, `Plan.ofQuery_depth`, says which of them can be
queried: a plan is made through at most sixteen views that end in a base table, and a query of
anything else is refused.
-/

namespace ContentSearch

/-! ## Going down -/

/-- Taking the selector of the definition `n` times leads from one table to another. -/
inductive Schema.Descends (schema : Schema) : Nat → String → String → Prop
  | here (name : String) : Descends schema 0 name name
  | view {n : Nat} {name below : String} {t : Table} {q : Query} {s : Selector}
      (ht : schema.table? name = some t) (hdefinition : t.definition? = some q)
      (hsource : q.source = .selector s) (rest : Descends schema n s.table below) :
      Descends schema (n + 1) name below

/-- The table is there and has a definition. -/
def Schema.IsView (schema : Schema) (name : String) : Prop :=
  ∃ t q, schema.table? name = some t ∧ t.definition? = some q

namespace Schema

variable {schema : Schema} {name : String} {t t' : Table}

theorem not_isView_of_base (ht : schema.table? name = some t) (hbase : t.definition? = none) :
    ¬ schema.IsView name := by
  intro ⟨t', q, ht', hdefinition⟩
  obtain rfl := Option.some.inj (ht.symm.trans ht')
  rw [hbase] at hdefinition
  cases hdefinition

/-- A table has one definition at most, and this has one source. -/
theorem source_unique {q q' : Query} {s s' : Selector} (ht : schema.table? name = some t)
    (hdefinition : t.definition? = some q) (hsource : q.source = .selector s)
    (ht' : schema.table? name = some t') (hdefinition' : t'.definition? = some q')
    (hsource' : q'.source = .selector s') : s = s' := by
  obtain rfl := Option.some.inj (ht.symm.trans ht')
  obtain rfl := Option.some.inj (hdefinition.symm.trans hdefinition')
  exact Source.selector.inj (hsource.symm.trans hsource')

/-- Where there is a view to reach, every table on the way is there. -/
theorem Descends.exists_table {n : Nat} {below : String} (h : schema.Descends n name below)
    (hview : schema.IsView below) : ∃ t, schema.table? name = some t := by
  cases h with
  | here =>
    obtain ⟨t, q, ht, -⟩ := hview
    exact ⟨t, ht⟩
  | view ht => exact ⟨_, ht⟩

end Schema

namespace Schema.StandsUpon

variable {schema : Schema} {name base base' : String} {views views' : List String}

theorem exists_table (h : schema.StandsUpon name views base) :
    ∃ t, schema.table? name = some t := by
  cases h with
  | base ht | view ht => exact ⟨_, ht⟩

/-- There is one way down from a table. -/
theorem unique (h : schema.StandsUpon name views base) (h' : schema.StandsUpon name views' base') :
    views = views' ∧ base = base' := by
  induction h generalizing views' base' with
  | base ht hbase =>
    cases h' with
    | base => exact ⟨rfl, rfl⟩
    | view ht' hdefinition' => exact absurd ⟨_, _, ht', hdefinition'⟩ (not_isView_of_base ht hbase)
  | view ht hdefinition hsource below ih =>
    cases h' with
    | base ht' hbase' => exact absurd ⟨_, _, ht, hdefinition⟩ (not_isView_of_base ht' hbase')
    | view ht' hdefinition' hsource' below' =>
      obtain rfl := source_unique ht hdefinition hsource ht' hdefinition' hsource'
      obtain ⟨hviews, hbase⟩ := ih below'
      exact ⟨congrArg _ hviews, hbase⟩

/-- Each step down a chain leaves one view behind. -/
theorem drop {n : Nat} {below : String} (hdown : schema.Descends n name below)
    (h : schema.StandsUpon name views base) :
    n ≤ views.length ∧ schema.StandsUpon below (views.drop n) base := by
  induction hdown generalizing views with
  | here name => exact ⟨Nat.zero_le _, h⟩
  | view ht hdefinition hsource rest ih =>
    cases h with
    | base ht' hbase => exact absurd ⟨_, _, ht, hdefinition⟩ (not_isView_of_base ht' hbase)
    | view ht' hdefinition' hsource' below' =>
      obtain rfl := source_unique ht hdefinition hsource ht' hdefinition' hsource'
      obtain ⟨hle, hbelow⟩ := ih below'
      exact ⟨Nat.succ_le_succ hle, hbelow⟩

/-- A view that is reached is one of the views of the chain. -/
theorem lt_length {n : Nat} {below : String} (h : schema.StandsUpon name views base)
    (hdown : schema.Descends n name below) (hview : schema.IsView below) : n < views.length := by
  obtain ⟨-, hbelow⟩ := drop hdown h
  apply Nat.lt_of_not_le
  intro hle
  rw [List.drop_of_length_le hle] at hbelow
  -- no view is left, so the table that is reached is the base table
  cases hbelow with
  | base ht hbase => exact not_isView_of_base ht hbase hview

/-- A chain that ends in a base table goes through no table twice. -/
theorem not_cyclic {n m : Nat} {below : String} (h : schema.StandsUpon name views base)
    (hdown : schema.Descends n name below) : ¬ schema.Descends (m + 1) below below := by
  intro hcycle
  obtain ⟨-, hbelow⟩ := drop hdown h
  obtain ⟨hle, hagain⟩ := drop hcycle hbelow
  -- the chain below the table would be its own proper end
  obtain ⟨heq, -⟩ := hbelow.unique hagain
  have hlength := congrArg List.length heq
  rw [List.length_drop (i := m + 1)] at hlength
  omega

end Schema.StandsUpon

/-! ## Queries of everything -/

/-- The query takes all that its only selector has, in no particular order. -/
structure Query.SelectsAll (q : Query) (s : Selector) : Prop where
  source : q.source = .selector s
  constraint : q.constraint? = none
  orderings : q.orderings = []
  columns : ∀ c ∈ q.columns, c.property? = none ∧ ∀ name ∈ c.selector?, name = s.name

/-- If the table is a view of one selector, then its definition selects everything. -/
def Schema.IsBare (schema : Schema) (name : String) : Prop :=
  ∀ t q s, schema.table? name = some t → t.definition? = some q → q.source = .selector s →
    q.SelectsAll s

/-- A query of everything is valid if its table exists. -/
theorem Query.SelectsAll.exists_resolve {rules : ValidationRules} {q : Query} {s : Selector}
    (h : q.SelectsAll s) (htable : ∃ t, rules.schema.table? s.table = some t) :
    ∃ r, rules.resolve q = .ok r := by
  refine (ValidationRules.resolve_eq_ok_iff h.source).mpr ⟨htable, ?_⟩
  intro node hnode
  rw [Node.afterSource, h.constraint, h.orderings] at hnode
  simp only [Option.toList_none, List.flatMap_nil, List.nil_append, List.mem_append, List.mem_map,
    List.mem_singleton] at hnode
  rcases hnode with ⟨c, hc, rfl⟩ | rfl
  · obtain ⟨hproperty, hselector⟩ := h.columns c hc
    have hmeant : (ResolvedQuery.ofSelector s).selector? c.selector? = some s.name := by
      cases hname : c.selector? with
      | none => rfl
      | some name =>
        obtain rfl := hselector name hname
        simp [ResolvedQuery.selector?, ResolvedQuery.ofSelector, OrderedMap.contains]
    simp only [ValidationRules.problems, hproperty, ValidationRules.selectorProblems, hmeant]
  · rfl

namespace Plan

variable {rules : PlanRules} {q : Query} {s : Selector} {bindings : Bindings}

/-- All that can go wrong with a query of everything is its selector. -/
theorem ofQueryWith_eq_error_iff_of_selectsAll {expand : SelectorExpansion}
    (hexpand : expand.KeepsNames) (hall : q.SelectsAll s)
    (htable : ∃ t, rules.schema.table? s.table = some t) {e : PlanError} :
    ofQueryWith rules expand q bindings = .error e ↔ expand s.name s.table = .error e := by
  have hcause : ∀ {e}, ofQueryWith rules expand q bindings = .error e →
      expand s.name s.table = .error e := by
    intro e h
    obtain ⟨found, hfound, -⟩ | ⟨m, hm, -, he⟩ | ⟨part, hpart, -⟩ := ofQueryWith_eq_error hexpand h
    · have hvalid : ∃ r, rules.validation.resolve q = .ok r := hall.exists_resolve htable
      obtain ⟨r, hr⟩ := hvalid
      rw [hr] at hfound
      cases hfound
    · rw [hall.source] at hm
      obtain rfl := List.mem_singleton.mp hm
      exact he
    · rw [Query.conditions, hall.constraint] at hpart
      cases hpart
  refine ⟨hcause, fun he => ?_⟩
  cases hplan : ofQueryWith rules expand q bindings with
  | ok plan =>
    obtain ⟨-, found, -, -, hfound, -⟩ := ofQueryWith_of_selector hall.source hplan
    rw [hfound] at he
    cases he
  | error e' =>
    obtain rfl := Except.error.inj ((hcause hplan).symm.trans he)
    rfl

/-! ## The levels of an expansion -/

/-- A selector is expanded through no more views than there are levels, and leads to the base table
below them. -/
theorem Expanded.standsUpon {levels : Nat} {name table : String} {found : PlanSelector}
    (h : Expanded rules levels name table found) :
    ∃ views, rules.schema.StandsUpon table views found.indexTable ∧ views.length ≤ levels := by
  induction h with
  | base ht hbase => exact ⟨[], .base ht hbase, Nat.zero_le _⟩
  | @view below name view t q s plan source ht hdefinition hsource hplan hselectors hbelow ih =>
    obtain ⟨views, hviews, hle⟩ := ih
    exact ⟨view :: views, .view ht hdefinition hsource hviews, Nat.succ_le_succ hle⟩

/-- The definition of a bare view adds no error to those of its source. -/
theorem expandSelector_eq_error_iff_of_bare {below : Nat} {name view : String} {t : Table}
    (ht : rules.schema.table? view = some t) (hdefinition : t.definition? = some q)
    (hall : q.SelectsAll s) (htable : ∃ t, rules.schema.table? s.table = some t) {e : PlanError} :
    expandSelector rules (below + 1) name view = .error e
      ↔ expandSelector rules below s.name s.table = .error e := by
  have hplan : ofQueryWith rules (expandSelector rules below) q OrderedMap.empty = .error e ↔ _ :=
    ofQueryWith_eq_error_iff_of_selectsAll (keepsNames_expandSelector rules below) hall htable
  rw [← hplan, expandSelector_succ_of_view ht hdefinition hall.source]
  constructor
  · intro h
    obtain hplan | ⟨plan, hplan, hview⟩ := Outcome.bind_eq_error h
    · exact hplan
    · -- the plan of one selector always has it
      obtain ⟨-, source, -, -, -, -, hselectors, -⟩ := ofQueryWith_of_selector hall.source hplan
      simp only [viewSelector, hselectors] at hview
      cases hview
  · intro h
    rw [h]
    rfl

/-- A chain of bare views is expanded if there is a level for each of them. -/
theorem expandSelector_ne_error_of_bare {levels : Nat} {name table base : String}
    {views : List String} (h : rules.schema.StandsUpon table views base)
    (hbare : ∀ v ∈ views, rules.schema.IsBare v) (hle : views.length ≤ levels) (e : PlanError) :
    expandSelector rules levels name table ≠ .error e := by
  induction h generalizing levels name with
  | base ht hbase =>
    rw [expandSelector_of_base ht hbase]
    nofun
  | view ht hdefinition hsource below ih =>
    rw [List.forall_mem_cons] at hbare
    have hall := hbare.1 _ _ _ ht hdefinition hsource
    obtain ⟨levels, rfl⟩ := Nat.exists_eq_add_one_of_ne_zero (Nat.ne_zero_of_lt hle)
    rw [ne_eq, expandSelector_eq_error_iff_of_bare ht hdefinition hall below.exists_table]
    exact ih hbare.2 (Nat.le_of_succ_le_succ hle)

/-- Bare views are followed until the levels are used up, and the next view is too deep. -/
theorem expandSelector_of_descends {levels : Nat} {name table below : String}
    (h : rules.schema.Descends levels table below) (hview : rules.schema.IsView below)
    (hbare : ∀ n v, rules.schema.Descends n table v → rules.schema.IsBare v) :
    expandSelector rules levels name table = .error (.viewTooDeep below) := by
  induction h generalizing name with
  | here table =>
    obtain ⟨t, q, ht, hdefinition⟩ := hview
    exact expandSelector_zero_of_view ht hdefinition
  | view ht hdefinition hsource rest ih =>
    have hall := hbare 0 _ (.here _) _ _ _ ht hdefinition hsource
    rw [expandSelector_eq_error_iff_of_bare ht hdefinition hall (rest.exists_table hview)]
    exact ih hview fun n v hdown => hbare (n + 1) v (.view ht hdefinition hsource hdown)

/-! ## Queries of views -/

/-- Whatever views a schema has: if a query of one selector has a plan, then its table stands upon
at most sixteen views and a base table, which the plan asks for. The query is refused if there is a
seventeenth view on the way down from its table, or if the way comes back to a table. If the query
and all definitions on the way select everything, then there is a plan through any sixteen views,
and otherwise the seventeenth is refused by name. -/
theorem ofQuery_depth (hsource : q.source = .selector s) (bindings : Bindings) :
    (∀ plan, ofQuery rules q bindings = .ok plan →
        ∃ views base found, rules.schema.StandsUpon s.table views base ∧ views.length ≤ 16
          ∧ plan.selectors = [found] ∧ found.indexTable = base)
      ∧ (∀ below, rules.schema.Descends 16 s.table below → rules.schema.IsView below →
        ∃ e, ofQuery rules q bindings = .error e)
      ∧ (∀ n m below, rules.schema.Descends n s.table below →
        rules.schema.Descends (m + 1) below below → ∃ e, ofQuery rules q bindings = .error e)
      ∧ (q.SelectsAll s →
        (∀ views base, rules.schema.StandsUpon s.table views base → views.length ≤ 16 →
            (∀ v ∈ views, rules.schema.IsBare v) → ∃ plan, ofQuery rules q bindings = .ok plan)
          ∧ ∀ below, rules.schema.Descends 16 s.table below → rules.schema.IsView below →
            (∀ n v, rules.schema.Descends n s.table v → rules.schema.IsBare v) →
            ofQuery rules q bindings = .error (.viewTooDeep below)) := by
  have hchain : ∀ plan, ofQuery rules q bindings = .ok plan →
      ∃ views base found, rules.schema.StandsUpon s.table views base ∧ views.length ≤ 16
        ∧ plan.selectors = [found] ∧ found.indexTable = base := by
    intro plan hplan
    obtain ⟨-, found, -, -, hfound, -, hselectors, -⟩ := ofQueryWith_of_selector hsource hplan
    obtain ⟨views, hviews, hle⟩ := (expandSelector_eq_ok_iff.mp hfound).standsUpon
    exact ⟨views, found.indexTable, found, hviews, hle, hselectors, rfl⟩
  refine ⟨hchain, ?_, ?_, fun hall => ⟨?_, ?_⟩⟩
  · intro below hdown hview
    rw [Outcome.exists_error_iff]
    intro plan hplan
    obtain ⟨views, base, -, hviews, hle, -⟩ := hchain plan hplan
    have hlt := hviews.lt_length hdown hview
    omega
  · intro n m below hdown hcycle
    rw [Outcome.exists_error_iff]
    intro plan hplan
    obtain ⟨views, base, -, hviews, -⟩ := hchain plan hplan
    exact hviews.not_cyclic hdown hcycle
  · intro views base hviews hle hbare
    cases hplan : ofQuery rules q bindings with
    | ok plan => exact ⟨plan, rfl⟩
    | error e =>
      have hselector := (ofQueryWith_eq_error_iff_of_selectsAll
        (keepsNames_expandSelector rules maxViewDepth) hall hviews.exists_table).mp hplan
      exact absurd hselector (expandSelector_ne_error_of_bare hviews hbare hle e)
  · intro below hdown hview hbare
    have hselector : expandSelector rules maxViewDepth s.name s.table = .error _ :=
      expandSelector_of_descends hdown hview hbare
    exact (ofQueryWith_eq_error_iff_of_selectsAll (keepsNames_expandSelector rules maxViewDepth)
      hall (hdown.exists_table hview)).mpr hselector

/-! ## Views upon views -/

/-- The view of everything in a table. -/
def bareView (name below : String) : Table :=
  ⟨name, OrderedMap.empty, some (Query.all (.selector ⟨below, none⟩))⟩

/-- Books are on shelves, and two views stand upon each other. -/
def stackedSchema : Schema :=
  [bareView "shelf" "book", bareView "room" "shelf", bareView "even" "odd",
    bareView "odd" "even"].foldl Schema.withTable
      (Schema.empty.withTable (Table.ofColumns "book" []))

def stackedRules : PlanRules where
  schema := stackedSchema
  caseSensitive := true
  checksColumns := true
  resolvePath := fun _ => none

theorem table?_stacked :
    stackedRules.schema.table? "book" = some (Table.ofColumns "book" [])
      ∧ stackedRules.schema.table? "shelf" = some (bareView "shelf" "book")
      ∧ stackedRules.schema.table? "room" = some (bareView "room" "shelf")
      ∧ stackedRules.schema.table? "even" = some (bareView "even" "odd")
      ∧ stackedRules.schema.table? "odd" = some (bareView "odd" "even") := by
  simp [stackedRules, stackedSchema, bareView, Table.ofColumns]

theorem selectsAll_all (table : String) (name? : Option String) :
    (Query.all (.selector ⟨table, name?⟩)).SelectsAll ⟨table, name?⟩ where
  source := rfl
  constraint := rfl
  orderings := rfl
  columns := fun _ hc => (List.not_mem_nil hc).elim

/-- The room of shelves of books is planned, and the views that stand upon each other are not. -/
theorem ofQuery_depth_stacked :
    (∃ plan, ofQuery stackedRules (Query.all (.selector ⟨"room", some "r"⟩)) OrderedMap.empty
        = .ok plan ∧ ∃ found, plan.selectors = [found] ∧ found.indexTable = "book")
      ∧ ∃ e, ofQuery stackedRules (Query.all (.selector ⟨"even", none⟩)) OrderedMap.empty
        = .error e := by
  obtain ⟨hbook, hshelf, hroom, heven, hodd⟩ := table?_stacked
  have hviews : stackedRules.schema.StandsUpon "room" ["room", "shelf"] "book" :=
    .view hroom rfl rfl (.view hshelf rfl rfl (.base hbook rfl))
  have hbare : ∀ v ∈ ["room", "shelf"], stackedRules.schema.IsBare v := by
    intro v hv t q s ht hdefinition hsource
    simp only [List.mem_cons, List.not_mem_nil, or_false] at hv
    rcases hv with rfl | rfl
    · obtain rfl := Option.some.inj (hroom.symm.trans ht)
      obtain rfl := Option.some.inj hdefinition
      obtain rfl := Source.selector.inj hsource
      exact selectsAll_all "shelf" none
    · obtain rfl := Option.some.inj (hshelf.symm.trans ht)
      obtain rfl := Option.some.inj hdefinition
      obtain rfl := Source.selector.inj hsource
      exact selectsAll_all "book" none
  have hcycle : stackedRules.schema.Descends 2 "even" "even" :=
    .view heven rfl rfl (.view hodd rfl rfl (.here "even"))
  obtain ⟨hchain, -, -, hall⟩ :=
    @ofQuery_depth stackedRules (Query.all (.selector ⟨"room", some "r"⟩)) ⟨"room", some "r"⟩ rfl
      OrderedMap.empty
  obtain ⟨-, -, hrefused, -⟩ :=
    @ofQuery_depth stackedRules (Query.all (.selector ⟨"even", none⟩)) ⟨"even", none⟩ rfl
      OrderedMap.empty
  obtain ⟨plan, hplan⟩ :=
    (hall (selectsAll_all "room" (some "r"))).1 _ _ hviews (by decide) hbare
  refine ⟨⟨plan, hplan, ?_⟩, hrefused 0 1 "even" (.here "even") hcycle⟩
  obtain ⟨views, base, found, hstands, -, hselectors, hindex⟩ := hchain plan hplan
  exact ⟨found, hselectors, hindex.trans (hstands.unique hviews).2⟩

/-- A table without columns, and so many views upon it. -/
def towerSchema : Nat → Schema
  | 0 => Schema.empty.withTable (Table.ofColumns "v0" [])
  | n + 1 => (towerSchema n).withTable (bareView ("v" ++ (n + 1).repr) ("v" ++ n.repr))

/-- The sixteenth view can be queried, and the seventeenth cannot. -/
example :
    let rules := { stackedRules with schema := towerSchema 17 }
    (ofQuery rules (Query.all (.selector ⟨"v16", none⟩)) OrderedMap.empty).isOk = true
      ∧ (ofQuery rules (Query.all (.selector ⟨"v17", none⟩)) OrderedMap.empty).map (·.columns)
        = .error (.viewTooDeep "v1") := by
  decide +kernel

end Plan

end ContentSearch
