import ContentSearch.Proofs.Plan.Lookup

/-!
# Operators of planned queries

A query that has a plan compares each column by an operator that the column allows, and so do the
definitions of all views that were expanded for it (`Plan.respectsOperators_of_ofQuery`). A view may
stand upon views; every definition on the way has a plan of its own, made one level further down.
-/

namespace ContentSearch

/-- The queries that are planned along with a query: itself, and along with it the definitions of
the views that it selects from. -/
inductive Query.DrawsOn (schema : Schema) : Query → Query → Prop
  | self (q : Query) : DrawsOn schema q q
  | view {q definition further : Query} {m : Selector} {t : Table} (hm : m ∈ q.source.selectors)
      (ht : schema.table? m.table = some t) (hdefinition : t.definition? = some definition)
      (below : DrawsOn schema definition further) : DrawsOn schema q further

/-- Each comparison of the query whose operand is a property, bare or within functions, is by an
operator that the column of the property allows, if there is such a column. -/
def Query.RespectsOperators (rules : ValidationRules) (q : Query) : Prop :=
  ∀ ⦃left operator right⦄, .compare left operator right ∈ q.conditions →
    ∀ property, left.reference.column? = some property →
      ∀ c, rules.HasColumn q.source.selectors left.reference.selector? property c →
        operator ∈ c.availableOperators

namespace Scope

variable {s : Scope} {left : Operand} {operator : Operator} {right : StaticOperand}

/-- An operand that refers to a property is restricted by it, whatever functions it stands in. -/
theorem restrictingProperty_of_reference {property : String}
    (h : left.reference.column? = some property) :
    restrictingProperty? left = some ⟨left.reference.selector?, property⟩ := by
  induction left with
  | property ref | length ref =>
    obtain rfl := Option.some.inj h
    rfl
  | upper o ih | lower o ih => exact ih h
  | _ => cases h

/-- A constraint is planned only if the operators of all comparisons in it pass. -/
theorem checkOperator_of_predicate {c : Constraint} {p : Predicate} (h : s.predicate c = .ok p)
    (hpart : .compare left operator right ∈ c.conditions) :
    s.checkOperator left operator = .ok () := by
  induction c generalizing p with
  | and first second ihfirst ihsecond | or first second ihfirst ihsecond =>
    obtain ⟨before, hbefore, h⟩ := Outcome.bind_eq_ok h
    obtain ⟨after, hafter, -⟩ := Outcome.bind_eq_ok h
    rcases List.mem_append.mp hpart with hpart | hpart
    · exact ihfirst hbefore hpart
    · exact ihsecond hafter hpart
  | not c ih =>
    obtain ⟨inner, hinner, -⟩ := Outcome.map_eq_ok h
    exact ih hinner hpart
  | compare left' operator' right' =>
    obtain ⟨rfl, rfl, rfl⟩ := Constraint.compare.inj (List.mem_singleton.mp hpart)
    obtain ⟨_, hpassed, -⟩ := Outcome.bind_eq_ok h
    exact hpassed
  | _ => cases List.mem_singleton.mp hpart

/-- A property of a covered selector is looked up as its column. -/
theorem Covers.exists_column {ss : List Selector} (hs : s.Covers ss) {name? : Option String}
    {property : String} {c : Column} (hc : s.rules.validation.HasColumn ss name? property c) :
    ∃ found, s.selector name? = .ok found ∧ s.column? found property = some c := by
  obtain ⟨m, hm, t, ht, hcolumn⟩ := hc
  obtain ⟨found, hfound, -, htable⟩ := hs hm
  refine ⟨found, hfound, ?_⟩
  unfold column?
  rw [htable]
  exact Option.bind_eq_some_iff.mpr ⟨t, ht, hcolumn⟩

/-- An operator that passes is one that the column of the property allows. -/
theorem Covers.mem_availableOperators {ss : List Selector} (hs : s.Covers ss)
    (h : s.checkOperator left operator = .ok ()) {property : String}
    (hproperty : left.reference.column? = some property) {c : Column}
    (hc : s.rules.validation.HasColumn ss left.reference.selector? property c) :
    operator ∈ c.availableOperators := by
  obtain ⟨found, hfound, hfoundColumn⟩ := hs.exists_column hc
  unfold checkOperator at h
  rw [restrictingProperty_of_reference hproperty] at h
  simp only [hfound, Outcome.ok_bind, hfoundColumn] at h
  rw [Column.mem_availableOperators_iff]
  split at h
  · assumption
  · cases h

end Scope

namespace Plan

variable {rules : PlanRules} {q : Query} {bindings : Bindings} {plan : Plan}

/-- A planned query respects the operators of its columns, however its selectors are expanded. -/
theorem respectsOperators_of_ofQueryWith {expand : SelectorExpansion} (hexpand : expand.KeepsNames)
    (h : ofQueryWith rules expand q bindings = .ok plan) :
    q.RespectsOperators rules.validation := by
  obtain ⟨s, rfl, rfl, hresolved, hselectors, -, hconstraint, -⟩ := ofQueryWith_eq_ok h
  have hcovers : s.Covers q.source.selectors :=
    covers_of_expandSelectors hexpand (ValidationRules.knows_of_resolve hresolved) hselectors
  intro left operator right hpart property hproperty c hc
  unfold Query.conditions at hpart
  cases hq : q.constraint? with
  | none =>
    rw [hq] at hpart
    cases hpart
  | some constraint =>
    rw [hq, Option.toList_some, List.flatMap_singleton] at hpart
    rw [hq] at hconstraint
    obtain ⟨p, hp, -⟩ := Outcome.map_eq_ok hconstraint
    exact hcovers.mem_availableOperators (Scope.checkOperator_of_predicate hp hpart) hproperty hc

/-- For a selector of a view that is expanded, the definition of the view has a plan, made with one
level less. -/
theorem exists_ofQueryWith_of_expandSelector {levels : Nat} {name table : String}
    {found : PlanSelector} (h : expandSelector rules levels name table = .ok found) {t : Table}
    {definition : Query} (ht : rules.schema.table? table = some t)
    (hdefinition : t.definition? = some definition) :
    ∃ below plan, levels = below + 1
      ∧ ofQueryWith rules (expandSelector rules below) definition OrderedMap.empty = .ok plan := by
  unfold expandSelector at h
  simp only [ht, hdefinition] at h
  cases levels with
  | zero => cases h
  | succ below =>
    dsimp only at h
    split at h
    · cases h
    · obtain ⟨plan, hplan, -⟩ := Outcome.bind_eq_ok h
      exact ⟨below, plan, rfl, hplan⟩

/-- Where a query is planned, the definitions of the views that it selects from are planned. -/
theorem exists_ofQueryWith_of_view {levels : Nat}
    (h : ofQueryWith rules (expandSelector rules levels) q bindings = .ok plan) {m : Selector}
    (hm : m ∈ q.source.selectors) {t : Table} {definition : Query}
    (ht : rules.schema.table? m.table = some t) (hdefinition : t.definition? = some definition) :
    ∃ below plan', levels = below + 1
      ∧ ofQueryWith rules (expandSelector rules below) definition OrderedMap.empty = .ok plan' := by
  obtain ⟨s, rfl, rfl, hresolved, hselectors, -⟩ := ofQueryWith_eq_ok h
  have htable : s.resolved.selectors.get? m.name = some m.table :=
    (ValidationRules.knows_of_resolve hresolved).get?_iff.mpr ⟨m, hm, rfl, rfl⟩
  obtain ⟨found, hfound, -⟩ := get?_of_expandSelectors hselectors htable
  exact exists_ofQueryWith_of_expandSelector hfound ht hdefinition

/-- No operator that its column does not allow reaches a plan: neither a comparison of the planned
query has one, nor a comparison in the definition of a view that is expanded on the way. -/
theorem respectsOperators_of_ofQuery (h : ofQuery rules q bindings = .ok plan) {further : Query}
    (hfurther : q.DrawsOn rules.schema further) : further.RespectsOperators rules.validation := by
  unfold ofQuery at h
  -- from view to view there is one level less, and a definition sees no variables
  generalize maxViewDepth = levels at h
  induction hfurther generalizing levels bindings plan with
  | self q => exact respectsOperators_of_ofQueryWith (keepsNames_expandSelector rules levels) h
  | view hm ht hdefinition _ ih =>
    obtain ⟨below, plan', -, hplan'⟩ := exists_ofQueryWith_of_view h hm ht hdefinition
    exact ih below hplan'

/-! ## Long titles -/

/-- The long titles of books, as headings. -/
def longTitles : Query :=
  ((Query.all (.selector ⟨"book", none⟩)).withConstraint
    (.compare (.length ⟨none, "title"⟩) .greaterThan (.literal (.ofValue (.long 20))))).withColumn
      ⟨none, some "title", some "heading"⟩

/-- All of these but one. -/
def otherTitles : Query :=
  ((Query.all (.selector ⟨"long", none⟩)).withConstraint
    (.not (.compare (.upper (.property ⟨none, "heading"⟩)) .equalTo
      (.literal (.ofValue (.string "CHILDREN OF THE ARBAT")))))).withColumn
        ⟨none, some "heading", none⟩

/-- Titles can be told apart and ordered upwards. -/
def titleRules : PlanRules where
  schema := (SchemaDraft.ofCalls
    [.addTable "book" [], .addColumn "book" ⟨"title", .string, false, [.equalTo, .greaterThan]⟩,
      .addView "long" longTitles, .addView "other" otherTitles]).build.toOption.getD Schema.empty
  caseSensitive := true
  checksColumns := true
  resolvePath := fun _ => none

/-- The titles after a given one. -/
def laterTitles : Query :=
  (Query.all (.selector ⟨"other", some "o"⟩)).withConstraint
    (.compare (.lower (.upper (.property ⟨some "o", "heading"⟩))) .greaterThan (.variable "first"))

/-- Of two views below a query, the lower one is on the way. -/
theorem respectsOperators_of_ofQuery_laterTitles :
    ∃ plan,
      ofQuery titleRules laterTitles (OrderedMap.empty.insert "first" (.string "m")) = .ok plan
      ∧ laterTitles.DrawsOn titleRules.schema longTitles
      ∧ longTitles.RespectsOperators titleRules.validation := by
  have hplanned : (ofQuery titleRules laterTitles
      (OrderedMap.empty.insert "first" (.string "m"))).isOk = true := by
    decide +kernel
  obtain ⟨plan, hplan⟩ := Outcome.exists_of_isOk hplanned
  have hother : (titleRules.schema.table? "other").bind Table.definition? = some otherTitles := by
    decide +kernel
  have hlong : (titleRules.schema.table? "long").bind Table.definition? = some longTitles := by
    decide +kernel
  obtain ⟨other, hother, hotherTitles⟩ := Option.bind_eq_some_iff.mp hother
  obtain ⟨long, hlong, hlongTitles⟩ := Option.bind_eq_some_iff.mp hlong
  have hdraws : laterTitles.DrawsOn titleRules.schema longTitles :=
    .view List.mem_cons_self hother hotherTitles
      (.view List.mem_cons_self hlong hlongTitles (.self longTitles))
  exact ⟨plan, hplan, hdraws, respectsOperators_of_ofQuery hplan hdraws⟩

end Plan

end ContentSearch
