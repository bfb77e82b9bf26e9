import ContentSearch.Proofs.Index.Expressions
import ContentSearch.Proofs.Plan.View

/-!
# Plans are always answered

All expressions in the predicate of a plan come from patterns of `LIKE` and from names that are
looked for behind any namespace, and both are written as well-formed expressions
(`Plan.isWellWritten_ofQuery`). The main statement follows: with an engine that accepts these, a
plan that could be made is answered by every snapshot.
-/

namespace ContentSearch

/-! ## Comparisons -/

namespace Comparison

theorem isWellWritten_ordered (operator : Operator) (field term : String) (caseSensitive : Bool) :
    (ordered operator field term caseSensitive).IsWellWritten := by
  apply Predicate.isWellWritten_of_expressions
  cases operator <;> rfl

theorem isWellWritten_differing_term (field term : String) (caseSensitive : Bool) :
    (differing field (.term field term caseSensitive)).IsWellWritten :=
  Predicate.isWellWritten_of_expressions (Predicate.expressions_without _ _)

/-- A pattern for a length names a number or any length, without an expression. -/
theorem isWellWritten_lengthLike {field pattern : String} {p : Predicate}
    (h : lengthLike field pattern = .ok p) : p.IsWellWritten := by
  apply Predicate.isWellWritten_of_expressions
  unfold lengthLike at h
  split at h
  · obtain rfl := Except.ok.inj h
    rfl
  · split at h
    · obtain rfl := Except.ok.inj h
      rfl
    · cases h

/-- A pattern of `LIKE` is the one expression of its predicate. -/
theorem isWellWritten_like (field pattern : String) (caseSensitive : Bool) :
    (Predicate.regex field (Like.regex pattern) caseSensitive).IsWellWritten :=
  List.forall_mem_singleton.mpr (Like.isWellFormed_regex pattern)

/-- The one expression in the predicate of a name is that of its local name behind any
namespace. -/
theorem expressions_nameEquals (name : String) (caseSensitive : Bool) :
    (nameEquals name caseSensitive).expressions
      = [(Wildcard.regex ("*:" ++ Wildcard.escape (Content.localName name)), caseSensitive)] :=
  Predicate.expressions_anyOf _

/-- The expression that leaves the namespace open is that of a wildcard. -/
theorem isWellWritten_nameEquals (name : String) (caseSensitive : Bool) :
    (nameEquals name caseSensitive).IsWellWritten := by
  rw [Predicate.IsWellWritten, expressions_nameEquals, List.forall_mem_singleton]
  exact Wildcard.isWellFormed_regex _

theorem isWellWritten_nameLike (field pattern : String) (caseSensitive : Bool) :
    (nameLike field pattern caseSensitive).IsWellWritten := by
  unfold nameLike
  split
  · exact Predicate.isWellWritten_of_expressions rfl
  · exact isWellWritten_like field pattern caseSensitive

/-- A pattern of all texts asks for any term, and any other one is written as its expression. -/
theorem isWellWritten_propertyLike {c : Comparison} {field : String} {type? : Option PropertyType}
    {p : Predicate} (h : c.propertyLike field type? = .ok p) : p.IsWellWritten := by
  unfold propertyLike at h
  split at h
  · cases h
  · obtain ⟨pattern, -, h⟩ := Outcome.bind_eq_ok h
    split at h
    · obtain rfl := Except.ok.inj h
      exact Predicate.isWellWritten_of_expressions rfl
    · obtain rfl := Except.ok.inj h
      exact isWellWritten_like field pattern c.caseSensitive

/-- Comparisons of properties write expressions for patterns only. -/
theorem isWellWritten_onProperty {c : Comparison} {field : String} {type? : Option PropertyType}
    {p : Predicate} (h : c.onProperty field type? = .ok p) : p.IsWellWritten := by
  unfold onProperty at h
  split at h
  · obtain ⟨term, -, rfl⟩ := Outcome.bind_ok_eq_ok h
    exact Predicate.isWellWritten_of_expressions rfl
  · obtain ⟨term, -, rfl⟩ := Outcome.bind_ok_eq_ok h
    exact isWellWritten_differing_term _ _ _
  · exact isWellWritten_propertyLike h
  · obtain ⟨term, -, rfl⟩ := Outcome.bind_ok_eq_ok h
    exact isWellWritten_ordered _ _ _ _

/-- Comparisons of names write expressions for patterns and for open namespaces. -/
theorem isWellWritten_onName {c : Comparison} {p : Predicate} (h : c.onName = .ok p) :
    p.IsWellWritten := by
  unfold onName at h
  split at h
  · obtain ⟨name, -, rfl⟩ := Outcome.bind_ok_eq_ok h
    exact isWellWritten_nameEquals name c.caseSensitive
  · obtain ⟨name, -, rfl⟩ := Outcome.bind_ok_eq_ok h
    exact (isWellWritten_nameEquals name c.caseSensitive).complement
  · obtain ⟨pattern, -, rfl⟩ := Outcome.bind_ok_eq_ok h
    exact isWellWritten_nameLike Field.name pattern c.caseSensitive
  · split at h
    · obtain ⟨name, -, rfl⟩ := Outcome.bind_ok_eq_ok h
      exact isWellWritten_ordered _ _ _ _
    · cases h

theorem isWellWritten_onLocalName {c : Comparison} {p : Predicate} (h : c.onLocalName = .ok p) :
    p.IsWellWritten := by
  unfold onLocalName at h
  split at h
  · obtain ⟨name, -, rfl⟩ := Outcome.bind_ok_eq_ok h
    exact Predicate.isWellWritten_of_expressions rfl
  · obtain ⟨name, -, rfl⟩ := Outcome.bind_ok_eq_ok h
    exact Predicate.isWellWritten_of_expressions (Predicate.expressions_complement _)
  · obtain ⟨pattern, -, rfl⟩ := Outcome.bind_ok_eq_ok h
    exact isWellWritten_nameLike Field.localName pattern c.caseSensitive
  · cases h

/-- Comparisons of lengths write no expressions of their own. -/
theorem isWellWritten_onLength {c : Comparison} {field : String} {p : Predicate}
    (h : c.onLength field = .ok p) : p.IsWellWritten := by
  unfold onLength at h
  split at h
  · obtain ⟨term, -, rfl⟩ := Outcome.bind_ok_eq_ok h
    exact Predicate.isWellWritten_of_expressions rfl
  · obtain ⟨term, -, rfl⟩ := Outcome.bind_ok_eq_ok h
    exact isWellWritten_differing_term _ _ _
  · obtain ⟨pattern, -, h⟩ := Outcome.bind_eq_ok h
    exact isWellWritten_lengthLike h
  · obtain ⟨term, -, rfl⟩ := Outcome.bind_ok_eq_ok h
    exact isWellWritten_ordered _ _ _ _

theorem isWellWritten_onDepth {c : Comparison} {p : Predicate} (h : c.onDepth = .ok p) :
    p.IsWellWritten := by
  unfold onDepth at h
  split at h
  · obtain ⟨term, -, rfl⟩ := Outcome.bind_ok_eq_ok h
    exact Predicate.isWellWritten_of_expressions rfl
  · obtain ⟨term, -, rfl⟩ := Outcome.bind_ok_eq_ok h
    exact Predicate.isWellWritten_of_expressions (Predicate.expressions_complement _)
  · cases h
  · obtain ⟨term, -, rfl⟩ := Outcome.bind_ok_eq_ok h
    exact isWellWritten_ordered _ _ _ _

end Comparison

/-! ## Constraints -/

namespace Scope

variable {s : Scope}

theorem isWellWritten_pathTerm (field path : String) : (s.pathTerm field path).IsWellWritten := by
  apply Predicate.isWellWritten_of_expressions
  unfold pathTerm
  split <;> rfl

/-- The comparison of an operand is the one of its kind. -/
theorem isWellWritten_plainComparison {o : Operand} {c : Comparison} {p : Predicate}
    (h : s.plainComparison o c = .ok p) : p.IsWellWritten := by
  unfold plainComparison at h
  split at h
  · obtain ⟨selector, -, h⟩ := Outcome.bind_eq_ok h
    exact Comparison.isWellWritten_onProperty (Outcome.mapError_eq_ok h)
  · obtain ⟨selector, -, h⟩ := Outcome.bind_eq_ok h
    exact Comparison.isWellWritten_onLength (Outcome.mapError_eq_ok h)
  · exact Comparison.isWellWritten_onName (Outcome.mapError_eq_ok h)
  · exact Comparison.isWellWritten_onLocalName (Outcome.mapError_eq_ok h)
  · exact Comparison.isWellWritten_onDepth (Outcome.mapError_eq_ok h)
  all_goals cases h

/-- Within a case function, what is not a plain comparison asks for nothing or for any text. -/
theorem isWellWritten_caseComparison {change : String → String} {o : Operand}
    {operator : Operator} {v : Value} {p : Predicate}
    (h : s.caseComparison change o operator v = .ok p) : p.IsWellWritten := by
  unfold caseComparison at h
  simp only at h
  split at h
  · exact isWellWritten_plainComparison h
  · -- what no changed text can equal
    split at h
    · obtain rfl := Except.ok.inj h
      exact Predicate.isWellWritten_of_expressions rfl
    · obtain rfl := Except.ok.inj h
      exact Predicate.isWellWritten_of_expressions rfl
    · exact isWellWritten_plainComparison h
    · exact isWellWritten_plainComparison h

/-- Comparisons are planned with well-formed expressions only. -/
theorem isWellWritten_comparison {o : Operand} {operator : Operator} {v : Value} {p : Predicate}
    (h : s.comparison o operator v = .ok p) : p.IsWellWritten := by
  unfold comparison at h
  split at h
  · exact isWellWritten_caseComparison h
  · exact isWellWritten_caseComparison h
  · exact isWellWritten_plainComparison h

/-- Connectives add no expressions to those of their two sides. -/
theorem isWellWritten_connective {join : Constraint → Constraint → Constraint}
    {combine : List Predicate → Predicate} (hjoin : Plan.IsPlannedAs join combine)
    {left right : Constraint} (hleft : ∀ {p}, s.predicate left = .ok p → p.IsWellWritten)
    (hright : ∀ {p}, s.predicate right = .ok p → p.IsWellWritten) {p : Predicate}
    (h : s.predicate (join left right) = .ok p) : p.IsWellWritten := by
  obtain ⟨first, second, hfirst, hsecond, rfl⟩ := hjoin.exists_of_predicate h
  have hexpressions : (combine [first, second]).expressions
      = first.expressions ++ second.expressions := by
    cases hjoin <;> simp
  rw [Predicate.IsWellWritten, hexpressions, List.forall_mem_append]
  exact ⟨hleft hfirst, hright hsecond⟩

/-- All expressions that a constraint leads to are well-formed. -/
theorem isWellWritten_predicate {c : Constraint} {p : Predicate} (h : s.predicate c = .ok p) :
    p.IsWellWritten := by
  induction c generalizing p with
  | and left right ihl ihr => exact isWellWritten_connective .and ihl ihr h
  | or left right ihl ihr => exact isWellWritten_connective .or ihl ihr h
  | not c ih =>
    obtain ⟨inner, hinner, rfl⟩ := Outcome.map_eq_ok h
    exact (ih hinner).complement
  | compare left operator right =>
    obtain ⟨-, -, h⟩ := Outcome.bind_eq_ok h
    obtain ⟨v, -, h⟩ := Outcome.bind_eq_ok h
    exact isWellWritten_comparison h
  | child name? path | descendant name? path | same name? path =>
    obtain ⟨selector, -, rfl⟩ := Outcome.bind_ok_eq_ok h
    exact isWellWritten_pathTerm _ _
  | contains name? property? expression =>
    obtain ⟨selector, -, rfl⟩ := Outcome.bind_ok_eq_ok h
    exact Predicate.isWellWritten_of_expressions rfl
  | hasValue ref =>
    obtain ⟨selector, -, rfl⟩ := Outcome.bind_ok_eq_ok h
    exact Predicate.isWellWritten_of_expressions rfl

end Scope

/-! ## Plans -/

namespace Plan

variable {rules : PlanRules}

/-- All expressions of a plan are well-formed, if those of its selectors are. -/
theorem isWellWritten_ofQueryWith {expand : SelectorExpansion} {q : Query} {bindings : Bindings}
    {plan : Plan} (h : ofQueryWith rules expand q bindings = .ok plan)
    (hselectors : ∀ found ∈ plan.selectors, found.predicate.IsWellWritten) :
    plan.predicate.IsWellWritten := by
  obtain ⟨s, -, -, -, -, -, hconstraint, -, -, -, hplan, hpredicate, -⟩ := ofQueryWith_eq_ok h
  rw [hplan] at hselectors
  rw [hpredicate, Predicate.IsWellWritten, Predicate.forall_mem_expressions_allOf,
    List.forall_mem_append, List.forall_mem_map]
  refine ⟨hselectors, fun p hp => ?_⟩
  unfold constraintPredicate? at hconstraint
  split at hconstraint
  · obtain ⟨p', hp', heq⟩ := Outcome.map_eq_ok hconstraint
    rw [← heq, Option.toList_some, List.mem_singleton] at hp
    obtain rfl := hp
    exact Scope.isWellWritten_predicate hp'
  · rw [← Except.ok.inj hconstraint] at hp
    cases hp

/-- All expressions of a selector are well-formed, through however many views it is expanded. -/
theorem Expanded.isWellWritten {levels : Nat} {name table : String} {found : PlanSelector}
    (h : Expanded rules levels name table found) : found.predicate.IsWellWritten := by
  induction h with
  | base => exact Predicate.isWellWritten_of_expressions rfl
  | view ht hdefinition hsource hplan hselectors hbelow ih =>
    refine isWellWritten_ofQueryWith hplan ?_
    rw [hselectors]
    exact List.forall_mem_singleton.mpr ih

/-- All expressions of a plan are well-formed, also those that its views add. -/
theorem isWellWritten_ofQuery {q : Query} {bindings : Bindings} {plan : Plan}
    (h : ofQuery rules q bindings = .ok plan) : plan.predicate.IsWellWritten := by
  obtain ⟨s, -, -, -, hselectors, -, -, -, -, -, hplan, -⟩ := ofQueryWith_eq_ok h
  refine isWellWritten_ofQueryWith h fun found hfound => ?_
  rw [hplan] at hfound
  obtain ⟨name, hname⟩ := OrderedMap.exists_get?_of_mem_values hfound
  obtain ⟨table, hexpand⟩ := exists_expand_of_get? hselectors hname
  exact (expandSelector_eq_ok_iff.mp hexpand).isWellWritten

/-- A plan is answered by every snapshot: the engine accepts all its expressions, and asking for
its predicate does not fail. -/
theorem evaluateWith_isOk_of_ofQuery {engine : Regex.Engine} (hengine : engine.AcceptsWellFormed)
    {q : Query} {bindings : Bindings} {plan : Plan} (h : ofQuery rules q bindings = .ok plan) :
    plan.predicate.compiles engine = true
      ∧ ∀ history, ∃ docs,
        (Snapshot.ofHistory history).evaluateWith engine plan.predicate = .ok docs := by
  have hcompiles := (isWellWritten_ofQuery h).compiles
    (Predicate.admitted_of_acceptsWellFormed hengine plan.predicate)
  exact ⟨hcompiles, fun history => Snapshot.evaluateWith_isOk hcompiles⟩

/-! ## Brackets and backslashes -/

/-- Books whose name is another than one full of operators. -/
def bracketView : Query :=
  (Query.all (.selector ⟨"book", none⟩)).withConstraint
    (.compare (.name none) .notEqualTo (.literal (Literal.ofValue (.string "x:a.*[?(b"))))

/-- Case does not matter here. -/
def bracketRules : PlanRules where
  schema := (SchemaDraft.ofCalls
    [.addTable "book" ["title"], .addView "bracketed" bracketView]).build.toOption.getD Schema.empty
  caseSensitive := false
  checksColumns := true
  resolvePath := fun _ => none

def bracketQuery : Query :=
  (Query.all (.selector ⟨"bracketed", none⟩)).withConstraint
    (.compare (.property ⟨none, "title"⟩) .like (.variable "p"))

/-- A pattern that begins with an escaped letter and ends in a backslash. -/
def bracketBindings : Bindings :=
  OrderedMap.empty.insert "p" (.string "\\É<_%(]\\")

def bracketBook : Entry :=
  ((Entry.named "a" "y:b").inTable "book").withProperty
    (Property.single "title" (Value.string "é<+**(]\\"))

/-- The pattern is looked for in the titles of a view that leaves out a name full of operators. -/
theorem evaluateWith_isOk_of_ofQuery_brackets :
    Regex.engine.AcceptsWellFormed
      ∧ ∃ plan, ofQuery bracketRules bracketQuery bracketBindings = .ok plan
        ∧ plan.predicate.compiles Regex.engine = true
        ∧ ∃ docs,
          (Snapshot.ofHistory [.insert bracketBook]).evaluateWith Regex.engine plan.predicate
            = .ok docs
          ∧ docs.toList = [0] := by
  have hfound : (ofQuery bracketRules bracketQuery bracketBindings).toOption.map (fun plan =>
      ((Snapshot.ofHistory [.insert bracketBook]).evaluateWith Regex.engine
        plan.predicate).toOption.map (·.toList)) = some (some [0]) := by
    decide +kernel
  obtain ⟨plan, hplan, hfound⟩ := Option.map_eq_some_iff.mp hfound
  have hplan := Outcome.toOption_eq_some hplan
  obtain ⟨hcompiles, hdocs⟩ :=
    evaluateWith_isOk_of_ofQuery Regex.engine_acceptsWellFormed hplan
  obtain ⟨docs, hok⟩ := hdocs [.insert bracketBook]
  rw [hok] at hfound
  exact ⟨Regex.engine_acceptsWellFormed, plan, hplan, hcompiles, docs, hok,
    Option.some.inj hfound⟩

end Plan

end ContentSearch
