import ContentSearch.Proofs.Plan.Expansion
import ContentSearch.Proofs.Query.WellFormed
import ContentSearch.Proofs.Schema.Draft

/-!
# Looking up selectors

Validation resolves the references of a query while it goes along the query, and planning looks
them up again once all selectors are expanded. The two agree: a query that is valid has a table for
each of its selectors, every reference in it is looked up as the selector that it means, and what
is left to go wrong lies in the views that it draws from and in its comparisons
(`Plan.lookups_of_resolve`).
-/

namespace ContentSearch

/-! ## Expanded selectors -/

namespace Plan

variable {expand : SelectorExpansion} {r : ResolvedQuery}

/-- Selectors are refused for one that cannot be expanded. -/
theorem expandSelectors_eq_error {e : PlanError} (h : expandSelectors expand r = .error e) :
    ∃ entry ∈ r.selectors.entries, expand entry.1 entry.2 = .error e := by
  obtain ⟨entry, hmem, before, hentry⟩ := Outcome.foldlM_eq_error h
  exact ⟨entry, hmem, Outcome.map_eq_error hentry⟩

/-- An expansion that keeps the name and the table of each selector. -/
def SelectorExpansion.KeepsNames (expand : SelectorExpansion) : Prop :=
  ∀ ⦃name table found⦄, expand name table = .ok found → found.name = name ∧ found.table = table

theorem keepsNames_expandSelector (rules : PlanRules) (levels : Nat) :
    SelectorExpansion.KeepsNames (expandSelector rules levels) := by
  intro name table found h
  cases expandSelector_eq_ok_iff.mp h with
  | base | view => exact ⟨rfl, rfl⟩

end Plan

/-! ## What a valid query refers to -/

namespace Query

/-- All references of a query, those of its join conditions first. -/
def allReferences (q : Query) : List Reference :=
  q.source.conditions.flatMap JoinCondition.references ++ q.references

/-- In a well-formed query every reference means a selector, in join conditions as well. -/
theorem WellFormed.exists_isMeant {rules : ValidationRules} {q : Query} (h : q.WellFormed rules)
    {ref : Reference} (href : ref ∈ q.allReferences) :
    ∃ s : Selector, s.IsMeant q.source.selectors ref.selector? := by
  rcases List.mem_append.mp href with href | href
  · obtain ⟨c, hc, href⟩ := List.mem_flatMap.mp href
    have hwalk : .joinCondition c ∈ Node.walkQuery q := by
      rw [Node.walkQuery_eq]
      apply List.mem_cons_of_mem
      exact List.mem_append_left _ (Node.joinCondition_mem_walkSource.mpr hc)
    obtain ⟨front, back, hwalk⟩ := List.append_of_mem hwalk
    -- what is declared before the condition is declared by the source
    have hsource : ∀ name ∈ (Node.declared front).map Selector.name,
        ∃ s : Selector, s.IsMeant q.source.selectors (some name) := by
      intro name hname
      obtain ⟨s, hs, hname⟩ := List.mem_map.mp hname
      refine ⟨s, ?_, hname⟩
      rw [← Node.declared_walkQuery, hwalk, Node.declared_append]
      exact List.mem_append_left _ hs
    obtain ⟨-, hfirst, hsecond⟩ := h.joins front c back hwalk
    rcases ValidationRules.selector?_of_mem_references href with heq | heq
    · rw [heq]
      exact hsource _ hfirst
    · rw [heq]
      exact hsource _ hsecond
  · exact h.references ref href

end Query

/-- What is known of a valid query are the selectors of its source. -/
theorem ValidationRules.knows_of_resolve {rules : ValidationRules} {q : Query} {r : ResolvedQuery}
    (h : rules.resolve q = .ok r) : r.Knows q.source.selectors := by
  have hnil := exists_resolve_iff.mp ⟨r, h⟩
  rw [eq_foldl_of_resolve h, ← Node.declared_walkQuery]
  exact (knows_of_follow .empty hnil).1

/-! ## Scopes -/

/-- A scope in which each reference that means one of these selectors is looked up as this
selector. -/
def Scope.Covers (s : Scope) (ss : List Selector) : Prop :=
  ∀ ⦃name? : Option String⦄ ⦃m : Selector⦄, m.IsMeant ss name? →
    ∃ found, s.selector name? = .ok found ∧ found.name = m.name ∧ found.table = m.table

/-- Once its selectors are expanded, the scope of a query covers them. -/
theorem Plan.covers_of_expandSelectors {expand : SelectorExpansion} (hexpand : expand.KeepsNames)
    {s : Scope} {ss : List Selector} (hknows : s.resolved.Knows ss)
    (hselectors : expandSelectors expand s.resolved = .ok s.selectors) : s.Covers ss := by
  intro name? m hm
  have hname : s.resolved.selector? name? = some m.name := hknows.selector?_iff.mpr ⟨m, hm, rfl⟩
  have htable : s.resolved.selectors.get? m.name = some m.table :=
    hknows.get?_iff.mpr ⟨m, hm.mem, rfl, rfl⟩
  obtain ⟨found, hfound, hget⟩ := get?_of_expandSelectors hselectors htable
  refine ⟨found, ?_, hexpand hfound⟩
  unfold Scope.selector
  rw [hname, Option.bind_some, hget]

/-- Why a comparison has no plan: the column does not allow the operator, the variable has no value,
or operand and value cannot be compared in this way. -/
inductive Constraint.Refused (rules : PlanRules) (bindings : Bindings) (ss : List Selector) :
    Constraint → PlanError → Prop
  | operator {left : Operand} {operator : Operator} {right : StaticOperand} {ref : PropertyRef}
      {m : Selector} {t : Table} {c : Column} (href : Scope.restrictingProperty? left = some ref)
      (hm : m.IsMeant ss ref.selector?) (ht : rules.schema.table? m.table = some t)
      (hc : t.column? ref.property = some c) (hop : operator ∉ c.availableOperators) :
      Refused rules bindings ss (.compare left operator right)
        (.operatorUnavailable operator c.name m.table)
  | variable {left : Operand} {operator : Operator} {name : String}
      (hname : bindings.get? name = none) :
      Refused rules bindings ss (.compare left operator (.variable name)) (.unboundVariable name)
  | comparison {left : Operand} {operator : Operator} {right : StaticOperand}
      (error : ComparisonError) :
      Refused rules bindings ss (.compare left operator right) (.comparison error)

theorem Column.mem_availableOperators_iff {c : Column} {op : Operator} :
    op ∈ c.availableOperators ↔ c.supports op = true := by
  rw [availableOperators, List.mem_filter]
  exact and_iff_right (Operator.mem_all op)

namespace Scope

variable {s : Scope} {ss : List Selector}

theorem reference_of_restrictingProperty {o : Operand} {ref : PropertyRef}
    (h : restrictingProperty? o = some ref) : o.reference = ⟨ref.selector?, some ref.property⟩ := by
  induction o with
  | property ref' | length ref' =>
    obtain rfl := Option.some.inj h
    rfl
  | upper o ih | lower o ih => exact ih h
  | _ => cases h

theorem reference_withoutCase (o : Operand) : (withoutCase o).reference = o.reference := by
  induction o with
  | upper o ih | lower o ih => exact ih
  | _ => rfl

theorem value_eq_error {left : Operand} {operator : Operator} {right : StaticOperand}
    {e : PlanError} (h : s.value right = .error e) :
    (Constraint.compare left operator right).Refused s.rules s.bindings ss e := by
  unfold value at h
  split at h
  · cases h
  · split at h
    · cases h
    · rename_i hname
      obtain rfl := Except.error.inj h
      exact .variable hname

section
variable (hs : s.Covers ss)
include hs

/-- What comes after a look-up is refused for a reason of its own. -/
theorem Covers.bind_eq_error {α : Type} {name? : Option String} {e : PlanError}
    (hname : ∃ m : Selector, m.IsMeant ss name?) {f : PlanSelector → Except PlanError α}
    (h : (s.selector name? >>= f) = .error e) :
    ∃ (m : Selector) (found : PlanSelector),
      m.IsMeant ss name? ∧ found.table = m.table ∧ f found = .error e := by
  obtain ⟨m, hm⟩ := hname
  obtain ⟨found, hfound, -, htable⟩ := hs hm
  rw [hfound, Outcome.ok_bind] at h
  exact ⟨m, found, hm, htable, h⟩

/-- The operator of a comparison is refused for no other reason than that the column does not allow
it. -/
theorem checkOperator_eq_error {left : Operand} {operator : Operator} {right : StaticOperand}
    {e : PlanError} (href : ∃ m : Selector, m.IsMeant ss left.reference.selector?)
    (h : s.checkOperator left operator = .error e) :
    (Constraint.compare left operator right).Refused s.rules s.bindings ss e := by
  unfold checkOperator at h
  split at h
  · cases h
  · rename_i ref hrestricting
    rw [reference_of_restrictingProperty hrestricting] at href
    obtain ⟨m, found, hm, htable, h⟩ := hs.bind_eq_error href h
    split at h
    · rename_i c hcolumn
      split at h
      · cases h
      · rename_i hop
        obtain rfl := Except.error.inj h
        unfold column? at hcolumn
        rw [htable] at hcolumn ⊢
        obtain ⟨t, ht, hc⟩ := Option.bind_eq_some_iff.mp hcolumn
        exact .operator hrestricting hm ht hc (mt Column.mem_availableOperators_iff.mp hop)
    · cases h

/-- Outside of case functions, a comparison is refused for its operand and value alone. -/
theorem plainComparison_eq_error {o : Operand} {c : Comparison} {e : PlanError}
    (href : ∃ m : Selector, m.IsMeant ss o.reference.selector?)
    (h : s.plainComparison o c = .error e) : ∃ error, e = .comparison error := by
  have hmapped : ∀ {α : Type} {x : Except ComparisonError α},
      x.mapError PlanError.comparison = .error e → ∃ error, e = .comparison error := by
    intro α x hx
    obtain ⟨error, -, herror⟩ := Outcome.mapError_eq_error hx
    exact ⟨error, herror.symm⟩
  cases o with
  | property ref | length ref =>
    obtain ⟨m, found, -, -, h⟩ := hs.bind_eq_error href h
    exact hmapped h
  | name _ | localName _ | depth _ => exact hmapped h
  | score _ | upper _ | lower _ => exact ⟨_, (Except.error.inj h).symm⟩

/-- Case functions add no reason to refuse a comparison. -/
theorem comparison_eq_error {o : Operand} {operator : Operator} {v : Value} {e : PlanError}
    (href : ∃ m : Selector, m.IsMeant ss o.reference.selector?)
    (h : s.comparison o operator v = .error e) : ∃ error, e = .comparison error := by
  have hcase : ∀ {change : String → String} {inner : Operand},
      (∃ m : Selector, m.IsMeant ss inner.reference.selector?) →
      s.caseComparison change inner operator v = .error e → ∃ error, e = .comparison error := by
    intro change inner hinner h
    rw [← reference_withoutCase] at hinner
    unfold caseComparison at h
    dsimp only at h
    split at h
    · exact plainComparison_eq_error hs hinner h
    · split at h
      · cases h
      · cases h
      · exact plainComparison_eq_error hs hinner h
      · exact plainComparison_eq_error hs hinner h
  unfold comparison at h
  split at h
  · exact hcase href h
  · exact hcase href h
  · exact plainComparison_eq_error hs href h

/-- A constraint whose references mean selectors is refused for one of its comparisons. -/
theorem predicate_eq_error {c : Constraint} {e : PlanError}
    (hrefs : ∀ ref ∈ c.references, ∃ m : Selector, m.IsMeant ss ref.selector?)
    (h : s.predicate c = .error e) :
    ∃ part ∈ c.conditions, part.Refused s.rules s.bindings ss e := by
  induction c with
  | and left right ihleft ihright | or left right ihleft ihright =>
    rw [Constraint.references, List.forall_mem_append] at hrefs
    rw [Constraint.conditions]
    obtain hleft | ⟨first, -, h⟩ := Outcome.bind_eq_error h
    · obtain ⟨part, hpart, hrefused⟩ := ihleft hrefs.1 hleft
      exact ⟨part, List.mem_append_left _ hpart, hrefused⟩
    · obtain hright | ⟨second, -, h⟩ := Outcome.bind_eq_error h
      · obtain ⟨part, hpart, hrefused⟩ := ihright hrefs.2 hright
        exact ⟨part, List.mem_append_right _ hpart, hrefused⟩
      · cases h
  | not c ih => exact ih hrefs (Outcome.map_eq_error h)
  | compare left operator right =>
    refine ⟨_, List.mem_singleton.mpr rfl, ?_⟩
    have href := hrefs left.reference (List.mem_singleton.mpr rfl)
    obtain hop | ⟨_, -, h⟩ := Outcome.bind_eq_error h
    · exact checkOperator_eq_error hs href hop
    · obtain hvalue | ⟨v, -, h⟩ := Outcome.bind_eq_error h
      · exact value_eq_error hvalue
      · obtain ⟨error, rfl⟩ := comparison_eq_error hs href h
        exact .comparison error
  | child name? path | descendant name? path | same name? path
  | contains name? property? expression | hasValue ref =>
    -- a condition with nothing but a reference is planned once that is looked up
    obtain ⟨m, found, -, -, h⟩ := hs.bind_eq_error (hrefs _ (List.mem_singleton.mpr rfl)) h
    cases h

/-- Joins whose references mean selectors are planned. -/
theorem joins_ne_error {source : Source} {e : PlanError}
    (hrefs : ∀ ref ∈ source.conditions.flatMap JoinCondition.references,
      ∃ m : Selector, m.IsMeant ss ref.selector?) : s.joins source ≠ .error e := by
  induction source with
  | selector _ =>
    intro h
    cases h
  | join kind left right condition ihleft ihright =>
    rw [Source.conditions, List.flatMap_append, List.flatMap_append, List.forall_mem_append,
      List.forall_mem_append, List.flatMap_singleton] at hrefs
    obtain ⟨⟨hleft, hright⟩, hown⟩ := hrefs
    intro h
    obtain h | ⟨before, -, h⟩ := Outcome.bind_eq_error h
    · exact ihleft hleft h
    obtain h | ⟨after, -, h⟩ := Outcome.bind_eq_error h
    · exact ihright hright h
    obtain h | ⟨own, -, h⟩ := Outcome.bind_eq_error h
    · cases condition with
      | equi s₁ p₁ s₂ p₂ =>
        -- the only condition that looks its selectors up
        obtain ⟨hfirst, hsecond⟩ := List.forall_mem_cons.mp hown
        obtain ⟨m, found, -, -, h⟩ := hs.bind_eq_error hfirst h
        obtain ⟨m', found', -, -, h⟩ := hs.bind_eq_error (hsecond _ List.mem_cons_self) h
        cases h
      | _ => cases h
    · cases h

theorem sortKey_ne_error {o : OrderBy} {e : PlanError}
    (href : ∃ m : Selector, m.IsMeant ss o.operand.reference.selector?) :
    s.sortKey o ≠ .error e := by
  have hselector : ∀ o : Operand, o.reference.selector? = o.selector? := by
    intro o
    induction o with
    | upper o ih | lower o ih => exact ih
    | _ => rfl
  intro h
  rw [hselector] at href
  obtain ⟨m, found, -, -, h⟩ := hs.bind_eq_error href h
  cases h

theorem columns_ne_error {columns : List ResultColumn} {e : PlanError}
    (hrefs : ∀ c ∈ columns, ∃ m : Selector, m.IsMeant ss c.selector?) :
    s.columns columns ≠ .error e := by
  intro h
  unfold Scope.columns at h
  split at h
  · cases h
  · obtain ⟨c, hc, h⟩ := Outcome.mapM_eq_error (Outcome.map_eq_error h)
    obtain ⟨m, found, -, -, h⟩ := hs.bind_eq_error (hrefs c hc) h
    split at h <;> cases h

end

end Scope

/-! ## Valid queries -/

/-- A reference that cannot be looked up, or a table that is missing. -/
def PlanError.IsLookup : PlanError → Prop
  | .undeclaredSelector _ | .unnamedSelector | .unknownTable _ => True
  | _ => False

theorem Constraint.Refused.not_isLookup {rules : PlanRules} {bindings : Bindings}
    {ss : List Selector} {c : Constraint} {e : PlanError} (h : c.Refused rules bindings ss e) :
    ¬ e.IsLookup := by
  cases h <;> exact id

namespace Plan

variable {rules : PlanRules} {q : Query} {bindings : Bindings} {e : PlanError}

/-- A query is refused for problems that validation finds, for one of its selectors, or for one of
its comparisons. -/
theorem ofQueryWith_eq_error {expand : SelectorExpansion} (hexpand : expand.KeepsNames)
    (h : ofQueryWith rules expand q bindings = .error e) :
    (∃ found, rules.validation.resolve q = .error found ∧ e = .problems found)
      ∨ (∃ m ∈ q.source.selectors, (∃ t, rules.schema.table? m.table = some t)
        ∧ expand m.name m.table = .error e)
      ∨ ∃ part ∈ q.conditions, part.Refused rules bindings q.source.selectors e := by
  unfold ofQueryWith at h
  obtain hresolve | ⟨resolved, hresolve, h⟩ := Outcome.bind_eq_error h
  · obtain ⟨found, hproblems, hfound⟩ := Outcome.mapError_eq_error hresolve
    exact Or.inl ⟨found, hproblems, hfound.symm⟩
  have hresolve := Outcome.mapError_eq_ok hresolve
  have hknows := ValidationRules.knows_of_resolve hresolve
  have hwell : q.WellFormed rules.validation :=
    (ValidationRules.resolve_iff_wellFormed _ q).mp ⟨resolved, hresolve⟩
  obtain hselectors | ⟨selectors, hselectors, h⟩ := Outcome.bind_eq_error h
  · obtain ⟨entry, hentry, he⟩ := expandSelectors_eq_error hselectors
    rw [hknows] at hentry
    obtain ⟨m, hm, rfl⟩ := List.mem_map.mp hentry
    exact Or.inr (Or.inl ⟨m, hm, hwell.tables m hm, he⟩)
  -- from here on all references are looked up in one scope
  have hcovers : Scope.Covers ⟨rules, resolved, selectors, bindings⟩ q.source.selectors :=
    covers_of_expandSelectors hexpand hknows hselectors
  have hrefs :
      ∀ ref ∈ q.allReferences, ∃ m : Selector, m.IsMeant q.source.selectors ref.selector? :=
    fun ref href => hwell.exists_isMeant href
  rw [Query.allReferences, Query.references, List.forall_mem_append, List.forall_mem_append,
    List.forall_mem_append, List.forall_mem_map, List.forall_mem_map] at hrefs
  obtain ⟨hjoinRefs, ⟨hconstraintRefs, hsortRefs⟩, hcolumnRefs⟩ := hrefs
  obtain hjoins | ⟨joins, -, h⟩ := Outcome.bind_eq_error h
  · exact absurd hjoins (Scope.joins_ne_error hcovers hjoinRefs)
  -- orderings and columns consist of references alone
  have hrest : ∀ {α : Type} {f : List SortKey → List PlanColumn → α},
      (do
        let sort ← q.orderings.mapM (Scope.sortKey ⟨rules, resolved, selectors, bindings⟩)
        let columns ← Scope.columns ⟨rules, resolved, selectors, bindings⟩ q.columns
        Except.ok (f sort columns)) ≠ .error e := by
    intro α f h
    obtain hsort | ⟨sort, -, h⟩ := Outcome.bind_eq_error h
    · obtain ⟨o, ho, hsort⟩ := Outcome.mapM_eq_error hsort
      exact Scope.sortKey_ne_error hcovers (hsortRefs o ho) hsort
    obtain hcolumns | ⟨columns, -, h⟩ := Outcome.bind_eq_error h
    · exact Scope.columns_ne_error hcovers hcolumnRefs hcolumns
    · cases h
  cases hc : q.constraint? with
  | none =>
    simp only [hc] at h
    exact absurd h hrest
  | some c =>
    simp only [hc] at h
    obtain hconstraint | ⟨constraint?, -, h⟩ := Outcome.bind_eq_error h
    · rw [hc, Option.toList_some, List.flatMap_singleton] at hconstraintRefs
      rw [Query.conditions, hc, Option.toList_some, List.flatMap_singleton]
      right; right
      exact Scope.predicate_eq_error hcovers hconstraintRefs (Outcome.map_eq_error hconstraint)
    · exact absurd h hrest

/-- Expanding a selector of a table that exists never ends in a look-up, through however many views
it goes. -/
theorem not_isLookup_of_expandSelector {levels : Nat} {name table : String}
    (htable : ∃ t, rules.schema.table? table = some t)
    (h : expandSelector rules levels name table = .error e) : ¬ e.IsLookup := by
  obtain ⟨t, ht⟩ := htable
  induction levels generalizing name table t e with
  | zero =>
    unfold expandSelector at h
    simp only [ht] at h
    split at h
    · cases h
    · obtain rfl := Except.error.inj h
      exact id
  | succ below ih =>
    unfold expandSelector at h
    simp only [ht] at h
    split at h
    · cases h
    · split at h
      · obtain rfl := Except.error.inj h
        exact id
      · obtain hdefinition | ⟨plan, -, hview⟩ := Outcome.bind_eq_error h
        · -- the definition is planned like a query, one level further down
          obtain ⟨found, -, rfl⟩ | ⟨m, -, ⟨t', ht'⟩, hm⟩ | ⟨part, -, hrefused⟩ :=
            ofQueryWith_eq_error (keepsNames_expandSelector rules below) hdefinition
          · exact id
          · exact ih hm t' ht'
          · exact hrefused.not_isLookup
        · unfold viewSelector at hview
          split at hview
          · obtain rfl := Except.error.inj hview
            exact id
          · cases hview

/-- Where a query is valid, its tables exist, every reference in it is looked up as the selector
that it means, and so it is never refused for a look-up: what can go wrong is the expansion of a
view that it draws from, or one of its comparisons. -/
theorem lookups_of_resolve {r : ResolvedQuery} (h : rules.validation.resolve q = .ok r)
    (bindings : Bindings) :
    (∀ m ∈ q.source.selectors, ∃ t, rules.schema.table? m.table = some t)
      ∧ (∀ selectors, expandSelectors (expandSelector rules maxViewDepth) r = .ok selectors →
        ∀ ref ∈ q.allReferences, ∃ (m : Selector) (found : PlanSelector),
          m.IsMeant q.source.selectors ref.selector?
            ∧ Scope.selector ⟨rules, r, selectors, bindings⟩ ref.selector? = .ok found
            ∧ found.name = m.name ∧ found.table = m.table)
      ∧ ∀ e, ofQuery rules q bindings = .error e → ¬ e.IsLookup
        ∧ ((∃ m ∈ q.source.selectors, ∃ t, rules.schema.table? m.table = some t ∧ t.isView = true
            ∧ expandSelector rules maxViewDepth m.name m.table = .error e)
          ∨ ∃ part ∈ q.conditions, part.Refused rules bindings q.source.selectors e) := by
  have hwell : q.WellFormed rules.validation :=
    (ValidationRules.resolve_iff_wellFormed _ q).mp ⟨r, h⟩
  have hkeeps := keepsNames_expandSelector rules maxViewDepth
  refine ⟨hwell.tables, ?_, ?_⟩
  · intro selectors hselectors ref href
    obtain ⟨m, hm⟩ := hwell.exists_isMeant href
    have hcovers : Scope.Covers ⟨rules, r, selectors, bindings⟩ q.source.selectors :=
      covers_of_expandSelectors hkeeps (ValidationRules.knows_of_resolve h) hselectors
    obtain ⟨found, hfound⟩ := hcovers hm
    exact ⟨m, found, hm, hfound⟩
  · intro e he
    obtain ⟨found, hproblems, -⟩ | ⟨m, hmem, ⟨t, ht⟩, hm⟩ | ⟨part, hpart, hrefused⟩ :=
      ofQueryWith_eq_error hkeeps he
    · rw [h] at hproblems
      cases hproblems
    · refine ⟨not_isLookup_of_expandSelector ⟨t, ht⟩ hm, Or.inl ⟨m, hmem, t, ht, ?_, hm⟩⟩
      -- a base table is always expanded
      cases hdefinition : t.definition? with
      | none =>
        rw [expandSelector_of_base ht hdefinition] at hm
        cases hm
      | some definition =>
        rw [Table.isView, hdefinition]
        rfl
    · exact ⟨hrefused.not_isLookup, Or.inr ⟨part, hpart, hrefused⟩⟩

/-! ## Novels on shelves -/

/-- The titles and shelves of books that have a title. -/
def novelView : Query :=
  (((Query.all (.selector ⟨"book", none⟩)).withConstraint
    (.hasValue ⟨none, "title"⟩)).withColumn ⟨none, some "title", none⟩).withColumn
      ⟨none, some "shelf", none⟩

def shelvedRules : PlanRules where
  schema := (SchemaDraft.ofCalls
    [.addTable "book" ["title", "shelf"], .addTable "shelf" ["label"],
      .addView "novel" novelView]).build.toOption.getD Schema.empty
  caseSensitive := true
  checksColumns := true
  resolvePath := fun _ => none

/-- Novels of a title whose shelf lies below a place. -/
def shelvedQuery : Query :=
  (((Query.all (.join .inner (.selector ⟨"novel", some "n"⟩) (.selector ⟨"shelf", none⟩)
      (.equi "n" "shelf" "shelf" "label"))).withConstraint
    (.and (.compare (.upper (.property ⟨some "n", "title"⟩)) .equalTo (.variable "t"))
      (.not (.descendant (some "shelf") "/attic")))).orderedBy
    (.lower (.name (some "n"))) .ascending).withColumn ⟨some "shelf", none, none⟩

/-- Without a title, the query is refused for the missing value and not for any of its references.
-/
theorem lookups_of_resolve_shelved :
    ∃ r, shelvedRules.validation.resolve shelvedQuery = .ok r
      ∧ ofQuery shelvedRules shelvedQuery OrderedMap.empty = .error (.unboundVariable "t")
      ∧ ¬ (PlanError.unboundVariable "t").IsLookup
      ∧ ∃ selectors,
        expandSelectors (expandSelector shelvedRules maxViewDepth) r = .ok selectors
          ∧ ∃ (m : Selector) (found : PlanSelector),
            m.IsMeant shelvedQuery.source.selectors (some "n")
              ∧ Scope.selector ⟨shelvedRules, r, selectors, OrderedMap.empty⟩ (some "n") = .ok found
              ∧ found.name = m.name ∧ found.table = m.table := by
  have hresolve : (shelvedRules.validation.resolve shelvedQuery).isOk = true := by decide +kernel
  have hexpand : ((shelvedRules.validation.resolve shelvedQuery).toOption.bind fun r =>
      (expandSelectors (expandSelector shelvedRules maxViewDepth) r).toOption).isSome = true := by
    decide +kernel
  have hrefused : Outcome.refusal? (ofQuery shelvedRules shelvedQuery OrderedMap.empty)
      = some (.unboundVariable "t") := by
    decide +kernel
  obtain ⟨r, hr⟩ := Outcome.exists_of_isOk hresolve
  rw [hr] at hexpand
  obtain ⟨selectors, hselectors⟩ := Option.isSome_iff_exists.mp hexpand
  have hselectors := Outcome.toOption_eq_some hselectors
  have he := Outcome.eq_error_of_refusal hrefused
  obtain ⟨-, hlookups, herrors⟩ := lookups_of_resolve hr OrderedMap.empty
  refine ⟨r, hr, he, (herrors _ he).1, selectors, hselectors, ?_⟩
  -- the property under UPPER comes right after the two references of the join
  exact hlookups selectors hselectors ⟨some "n", some "title"⟩
    (List.mem_cons_of_mem _ (List.mem_cons_of_mem _ List.mem_cons_self))

end Plan

end ContentSearch
