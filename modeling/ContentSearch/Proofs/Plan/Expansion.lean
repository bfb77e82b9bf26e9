import ContentSearch.Plan.Expansion
import ContentSearch.Proofs.Outcome
import ContentSearch.Proofs.Query.Resolved

/-!
# The parts of a plan

What a plan is made of, how selectors of base tables and of views are expanded, and that variables
are read by their names.
-/

namespace ContentSearch.Plan

/-- The predicate of a constraint, if there is one. -/
def constraintPredicate? (s : Scope) : Option Constraint → Except PlanError (Option Predicate)
  | some c => (s.predicate c).map some
  | none => .ok none

/-- A plan is made of the selectors, joins, constraint, orderings and columns of the query, all of
them read in one scope. -/
theorem ofQueryWith_eq_ok {rules : PlanRules} {expand : SelectorExpansion} {q : Query}
    {bindings : Bindings} {plan : Plan} (h : ofQueryWith rules expand q bindings = .ok plan) :
    ∃ s : Scope, s.rules = rules ∧ s.bindings = bindings
      ∧ rules.validation.resolve q = .ok s.resolved
      ∧ expandSelectors expand s.resolved = .ok s.selectors
      ∧ s.joins q.source = .ok plan.joins
      ∧ constraintPredicate? s q.constraint? = .ok plan.constraint?
      ∧ q.orderings.mapM s.sortKey = .ok plan.sort
      ∧ s.columns q.columns = .ok plan.columns
      ∧ plan.statement = q.statement
      ∧ plan.selectors = s.selectors.values
      ∧ plan.predicate
        = .allOf (s.selectors.values.map (·.predicate) ++ plan.constraint?.toList)
      ∧ plan.limit = q.limit := by
  unfold ofQueryWith at h
  obtain ⟨resolved, hresolved, h⟩ := Outcome.bind_eq_ok h
  obtain ⟨selectors, hselectors, h⟩ := Outcome.bind_eq_ok h
  obtain ⟨joins, hjoins, h⟩ := Outcome.bind_eq_ok h
  have hresolved := Outcome.mapError_eq_ok hresolved
  -- the plan goes on in the same way with and without a constraint
  cases hc : q.constraint? with
  | none | some c =>
    simp only [hc] at h
    obtain ⟨constraint?, hconstraint, h⟩ := Outcome.bind_eq_ok h
    obtain ⟨sort, hsort, h⟩ := Outcome.bind_eq_ok h
    obtain ⟨columns, hcolumns, rfl⟩ := Outcome.bind_ok_eq_ok h
    exact ⟨⟨rules, resolved, selectors, bindings⟩, rfl, rfl, hresolved, hselectors, hjoins,
      hconstraint, hsort, hcolumns, rfl, rfl, rfl, rfl⟩

/-! ## Connectives -/

/-- The combination of predicates as which a connective of constraints is planned. -/
inductive IsPlannedAs :
    (Constraint → Constraint → Constraint) → (List Predicate → Predicate) → Prop
  | and : IsPlannedAs .and .allOf
  | or : IsPlannedAs .or .anyOf

namespace IsPlannedAs

variable {join : Constraint → Constraint → Constraint} {combine : List Predicate → Predicate}
  (hjoin : IsPlannedAs join combine) {s : Scope} {left right : Constraint}
include hjoin

theorem predicate_eq : s.predicate (join left right) = (do
    let first ← s.predicate left
    let second ← s.predicate right
    .ok (combine [first, second])) := by
  cases hjoin <;> rfl

/-- Constraints joined by a connective are planned only if both of them are. -/
theorem exists_of_predicate {p : Predicate} (h : s.predicate (join left right) = .ok p) :
    ∃ first second, s.predicate left = .ok first ∧ s.predicate right = .ok second
      ∧ p = combine [first, second] := by
  rw [hjoin.predicate_eq] at h
  obtain ⟨first, hfirst, h⟩ := Outcome.bind_eq_ok h
  obtain ⟨second, hsecond, rfl⟩ := Outcome.bind_ok_eq_ok h
  exact ⟨first, second, hfirst, hsecond, rfl⟩

theorem predicate_of_parts {first second : Predicate} (hfirst : s.predicate left = .ok first)
    (hsecond : s.predicate right = .ok second) :
    s.predicate (join left right) = .ok (combine [first, second]) := by
  rw [hjoin.predicate_eq, hfirst, hsecond]
  rfl

end IsPlannedAs

/-! ## Base tables -/

theorem expandSelector_of_base {rules : PlanRules} {levels : Nat} {name table : String} {t : Table}
    (ht : rules.schema.table? table = some t) (hbase : t.definition? = none) :
    expandSelector rules levels name table = .ok (baseSelector name table) := by
  unfold expandSelector
  simp only [ht, hbase]

/-! ## Selectors of a query -/

section
variable {expand : SelectorExpansion}

/-- Selectors that are expanded one after the other are found under their names, and what was there
before stays under other names. -/
theorem get?_of_foldlM_expand {es : List (String × String)}
    {before after : OrderedMap String PlanSelector} (hdistinct : (es.map Prod.fst).Nodup)
    (h : es.foldlM (fun found e => (expand e.1 e.2).map (found.insert e.1)) before = .ok after) :
    (∀ e ∈ es, ∃ found, expand e.1 e.2 = .ok found ∧ after.get? e.1 = some found)
      ∧ ∀ key ∉ es.map Prod.fst, after.get? key = before.get? key := by
  induction es generalizing before with
  | nil =>
    obtain rfl := Except.ok.inj h
    exact ⟨List.forall_mem_nil _, fun key _ => rfl⟩
  | cons e rest ih =>
    rw [List.map_cons, List.nodup_cons] at hdistinct
    rw [List.foldlM_cons] at h
    obtain ⟨next, hnext, h⟩ := Outcome.bind_eq_ok h
    obtain ⟨expanded, hexpanded, rfl⟩ := Outcome.map_eq_ok hnext
    obtain ⟨hrest, hother⟩ := ih hdistinct.2 h
    refine ⟨List.forall_mem_cons.mpr ⟨⟨expanded, hexpanded, ?_⟩, hrest⟩, ?_⟩
    · rw [hother e.1 hdistinct.1, OrderedMap.get?_insert, if_pos rfl]
    · intro key hkey
      rw [List.map_cons, List.mem_cons, not_or] at hkey
      rw [hother key hkey.2, OrderedMap.get?_insert, if_neg hkey.1]

variable {r : ResolvedQuery} {selectors : OrderedMap String PlanSelector} {name : String}

/-- Where all selectors can be expanded, each is found under its name. -/
theorem get?_of_expandSelectors (h : expandSelectors expand r = .ok selectors) {table : String}
    (hname : r.selectors.get? name = some table) :
    ∃ found, expand name table = .ok found ∧ selectors.get? name = some found :=
  (get?_of_foldlM_expand r.selectors.nodup h).1 (name, table) (OrderedMap.get?_eq_some_iff.mp hname)

/-- Under other names there are no selectors. -/
theorem get?_eq_none_of_expandSelectors (h : expandSelectors expand r = .ok selectors)
    (hname : r.selectors.get? name = none) : selectors.get? name = none := by
  refine (get?_of_foldlM_expand r.selectors.nodup h).2 name fun hmem => ?_
  obtain ⟨table, htable⟩ := OrderedMap.mem_keys_iff.mp hmem
  rw [hname] at htable
  cases htable

/-- Every expanded selector comes from one expansion of its name. -/
theorem exists_expand_of_get? (h : expandSelectors expand r = .ok selectors)
    {found : PlanSelector} (hfound : selectors.get? name = some found) :
    ∃ table, expand name table = .ok found := by
  cases htable : r.selectors.get? name with
  | none =>
    rw [get?_eq_none_of_expandSelectors h htable] at hfound
    cases hfound
  | some table =>
    obtain ⟨found', hexpand, hfound'⟩ := get?_of_expandSelectors h htable
    obtain rfl := Option.some.inj (hfound.symm.trans hfound')
    exact ⟨table, hexpand⟩

/-- One selector is expanded by itself. -/
theorem expandSelectors_of_single {table : String}
    (hr : r.selectors = OrderedMap.empty.insert name table) :
    expandSelectors expand r = (expand name table).map (OrderedMap.empty.insert name) := by
  have hentries : r.selectors.entries = [(name, table)] := by
    rw [hr]
    rfl
  rw [expandSelectors, hentries, List.foldlM_cons]
  cases expand name table <;> rfl

/-- The plan of a query of one selector has this selector only. -/
theorem selectors_of_selector {rules : PlanRules} {q : Query} {s : Selector} {bindings : Bindings}
    {plan : Plan} (hsource : q.source = .selector s)
    (h : ofQueryWith rules expand q bindings = .ok plan) :
    ∃ found, expand s.name s.table = .ok found ∧ plan.selectors = [found] := by
  obtain ⟨scope, -, -, hresolved, hselectors, -, -, -, -, -, hplan, -⟩ := ofQueryWith_eq_ok h
  rw [expandSelectors_of_single (ValidationRules.selectors_of_resolve hresolved hsource)]
    at hselectors
  obtain ⟨found, hfound, hsingle⟩ := Outcome.map_eq_ok hselectors
  refine ⟨found, hfound, ?_⟩
  rw [hplan, ← hsingle]
  rfl

end

/-- The only selector of a query of a base table stands for the table. -/
theorem selectors_of_base {rules : PlanRules} {levels : Nat} {q : Query} {selector : Selector}
    (hsource : q.source = .selector selector) {t : Table}
    (ht : rules.schema.table? selector.table = some t) (hbase : t.definition? = none)
    {r : ResolvedQuery} (hr : rules.validation.resolve q = .ok r)
    {selectors : OrderedMap String PlanSelector}
    (hselectors : expandSelectors (expandSelector rules levels) r = .ok selectors) :
    selectors
      = OrderedMap.empty.insert selector.name (baseSelector selector.name selector.table) := by
  rw [expandSelectors_of_single (ValidationRules.selectors_of_resolve hr hsource),
    expandSelector_of_base ht hbase] at hselectors
  exact (Except.ok.inj hselectors).symm

/-! ## Views -/

section
variable {rules : PlanRules} {name view : String} {t : Table} {q : Query} {s : Selector}

theorem expandSelector_zero_of_view (ht : rules.schema.table? view = some t)
    (hdefinition : t.definition? = some q) :
    expandSelector rules 0 name view = .error (.viewTooDeep view) := by
  unfold expandSelector
  simp only [ht, hdefinition]

/-- Each view takes one level. -/
theorem expandSelector_succ_of_view {below : Nat} (ht : rules.schema.table? view = some t)
    (hdefinition : t.definition? = some q) (hsource : q.source = .selector s) :
    expandSelector rules (below + 1) name view
      = (ofQueryWith rules (expandSelector rules below) q OrderedMap.empty
        >>= viewSelector name view q.columns) := by
  rw [expandSelector]
  simp only [ht, hdefinition, hsource]

end

/-- How a selector is expanded through at most so many views: a base table is its own, and a view
has the base table of the selector that its definition draws from, and the predicate of the plan of
its definition. -/
inductive Expanded (rules : PlanRules) : Nat → String → String → PlanSelector → Prop
  | base {levels : Nat} {name table : String} {t : Table} (ht : rules.schema.table? table = some t)
      (hbase : t.definition? = none) : Expanded rules levels name table (baseSelector name table)
  | view {below : Nat} {name view : String} {t : Table} {q : Query} {s : Selector} {plan : Plan}
      {source : PlanSelector} (ht : rules.schema.table? view = some t)
      (hdefinition : t.definition? = some q) (hsource : q.source = .selector s)
      (hplan : ofQueryWith rules (expandSelector rules below) q OrderedMap.empty = .ok plan)
      (hselectors : plan.selectors = [source])
      (hbelow : Expanded rules below s.name s.table source) :
      Expanded rules (below + 1) name view
        ⟨name, view, source.indexTable, viewPropertyNames source q.columns, plan.predicate⟩

theorem expandSelector_eq_ok_iff {rules : PlanRules} {levels : Nat} {name table : String}
    {found : PlanSelector} :
    expandSelector rules levels name table = .ok found
      ↔ Expanded rules levels name table found := by
  constructor
  · intro h
    induction levels using Nat.strongRecOn generalizing name table found with
    | ind levels ih =>
      cases ht : rules.schema.table? table with
      | none =>
        unfold expandSelector at h
        simp only [ht] at h
        cases h
      | some t =>
        cases hdefinition : t.definition? with
        | none =>
          rw [expandSelector_of_base ht hdefinition] at h
          obtain rfl := Except.ok.inj h
          exact .base ht hdefinition
        | some q =>
          cases levels with
          | zero =>
            rw [expandSelector_zero_of_view ht hdefinition] at h
            cases h
          | succ below =>
            cases hsource : q.source with
            | join kind left right condition =>
              rw [expandSelector] at h
              simp only [ht, hdefinition, hsource] at h
              cases h
            | selector s =>
              rw [expandSelector_succ_of_view ht hdefinition hsource] at h
              obtain ⟨plan, hplan, hview⟩ := Outcome.bind_eq_ok h
              obtain ⟨source, hexpand, hselectors⟩ := selectors_of_selector hsource hplan
              simp only [viewSelector, hselectors] at hview
              obtain rfl := Except.ok.inj hview
              exact .view ht hdefinition hsource hplan hselectors
                (ih below (Nat.lt_succ_self below) hexpand)
  · intro h
    cases h with
    | base ht hbase => exact expandSelector_of_base ht hbase
    | view ht hdefinition hsource hplan hselectors hbelow =>
      rw [expandSelector_succ_of_view ht hdefinition hsource, hplan, Outcome.ok_bind]
      simp only [viewSelector, hselectors]

end ContentSearch.Plan

namespace ContentSearch

/-- What a reference means is one of the selectors. -/
theorem Scope.exists_get?_of_selector {s : Scope} {name? : Option String} {found : PlanSelector}
    (h : s.selector name? = .ok found) : ∃ name, s.selectors.get? name = some found := by
  unfold selector at h
  split at h
  · rename_i hget
    obtain rfl := Except.ok.inj h
    obtain ⟨name, -, hget⟩ := Option.bind_eq_some_iff.mp hget
    exact ⟨name, hget⟩
  · split at h <;> cases h

/-- With one selector all references mean this one. -/
theorem Scope.eq_of_selector {s : Scope} {name : String} {found : PlanSelector}
    (hsingle : s.selectors = OrderedMap.empty.insert name found) {name? : Option String}
    {x : PlanSelector} (h : s.selector name? = .ok x) : x = found := by
  obtain ⟨meant, hget⟩ := exists_get?_of_selector h
  rw [hsingle, OrderedMap.get?_insert] at hget
  split at hget
  · exact (Option.some.inj hget).symm
  · cases hget

/-! ## Variables -/

theorem Node.mem_walkQuery_of_constraint {q : Query} {c : Constraint} (hc : q.constraint? = some c)
    {n : Node} (hn : n ∈ walkConstraint c) : n ∈ walkQuery q := by
  simp [walkQuery, hc, hn]

section
variable {rules : PlanRules} {resolved : ResolvedQuery} {selectors : OrderedMap String PlanSelector}
  {b b' : Bindings}

/-- Constraints read the values of their variables, and nothing else of the bindings. -/
theorem Scope.predicate_congr {c : Constraint}
    (h : ∀ name, .static (.variable name) ∈ Node.walkConstraint c → b.get? name = b'.get? name) :
    Scope.predicate ⟨rules, resolved, selectors, b⟩ c
      = Scope.predicate ⟨rules, resolved, selectors, b'⟩ c := by
  induction c with
  | and left right ihl ihr | or left right ihl ihr =>
    have hleft := ihl fun name hname =>
      h name (List.mem_cons_of_mem _ (List.mem_append_left _ hname))
    have hright := ihr fun name hname =>
      h name (List.mem_cons_of_mem _ (List.mem_append_right _ hname))
    simp only [predicate, hleft, hright]
  | not c ih =>
    have hc := ih fun name hname => h name (List.mem_cons_of_mem _ hname)
    simp only [predicate, hc]
  | compare left operator right =>
    have hvalue : Scope.value ⟨rules, resolved, selectors, b⟩ right
        = Scope.value ⟨rules, resolved, selectors, b'⟩ right := by
      rcases right with l | name
      · rfl
      · have hname := h name (List.mem_cons_of_mem _ (List.mem_append_right _ List.mem_cons_self))
        simp only [value, hname]
    simp only [predicate, hvalue]
    rfl
  | _ => rfl

theorem Scope.joins_congr (source : Source) :
    Scope.joins ⟨rules, resolved, selectors, b⟩ source
      = Scope.joins ⟨rules, resolved, selectors, b'⟩ source := by
  induction source with
  | selector s => rfl
  | join kind left right condition ihl ihr =>
    have hown : Scope.joinOf ⟨rules, resolved, selectors, b⟩ kind condition
        = Scope.joinOf ⟨rules, resolved, selectors, b'⟩ kind condition := by
      cases condition <;> rfl
    simp only [joins, ihl, ihr, hown]

/-- A plan reads the values of the variables of its query, in whatever order they come. -/
theorem Plan.ofQueryWith_congr {q : Query}
    (h : ∀ name, .static (.variable name) ∈ Node.walkQuery q → b.get? name = b'.get? name)
    (expand : SelectorExpansion) :
    ofQueryWith rules expand q b = ofQueryWith rules expand q b' := by
  have hsort : ∀ r t, Scope.sortKey ⟨rules, r, t, b⟩ = Scope.sortKey ⟨rules, r, t, b'⟩ :=
    fun _ _ => rfl
  have hcolumns : ∀ r t, Scope.columns ⟨rules, r, t, b⟩ = Scope.columns ⟨rules, r, t, b'⟩ :=
    fun _ _ => rfl
  have hjoins : ∀ r t source, Scope.joins ⟨rules, r, t, b⟩ source
      = Scope.joins ⟨rules, r, t, b'⟩ source := fun _ _ => Scope.joins_congr
  cases hc : q.constraint? with
  | none => simp only [ofQueryWith, hc, hsort, hcolumns, hjoins]
  | some c =>
    have hpredicate : ∀ r t, Scope.predicate ⟨rules, r, t, b⟩ c
        = Scope.predicate ⟨rules, r, t, b'⟩ c := fun _ _ =>
      Scope.predicate_congr fun name hname => h name (Node.mem_walkQuery_of_constraint hc hname)
    simp only [ofQueryWith, hc, hsort, hcolumns, hjoins, hpredicate]

end

end ContentSearch
