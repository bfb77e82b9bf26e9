import ContentSearch.Proofs.Plan.Expansion

/-!
# The variables of a query

Resolving a query collects its variables. These are the ones that its plan depends on: a plan is
made only if all of them have values, and it is made from these values alone, whatever other
variables have values too (`Plan.dependsOn_variableNames`). The definitions of views bring in no
variables, since they see no values.
-/

namespace ContentSearch

/-! ## Variables along a walk -/

namespace ResolvedQuery

theorem mem_variableNames_learn {r : ResolvedQuery} {n : Node} {name : String} :
    name ∈ (r.learn n).variableNames
      ↔ name ∈ r.variableNames ∨ n = .static (.variable name) := by
  cases n with
  | static operand =>
    rcases operand with l | name'
    · rw [or_iff_left (by simp)]
      rfl
    · rw [learn, SortedSet.mem_insert, or_comm, Node.static.injEq, StaticOperand.variable.injEq,
        eq_comm]
  | selector s =>
    rw [or_iff_left (by simp), learn]
    split <;> rfl
  | _ =>
    rw [or_iff_left (by simp)]
    rfl

theorem mem_variableNames_foldl_learn {r : ResolvedQuery} {nodes : List Node} {name : String} :
    name ∈ (nodes.foldl learn r).variableNames
      ↔ name ∈ r.variableNames ∨ .static (.variable name) ∈ nodes := by
  induction nodes generalizing r with
  | nil => simp
  | cons n rest ih =>
    rw [List.foldl_cons, ih, mem_variableNames_learn, List.mem_cons, or_assoc, eq_comm (a := n)]

end ResolvedQuery

/-- The variables of a valid query are those that are met along it. -/
theorem ValidationRules.mem_variableNames_iff {rules : ValidationRules} {q : Query}
    {r : ResolvedQuery} (h : rules.resolve q = .ok r) {name : String} :
    name ∈ r.variableNames ↔ .static (.variable name) ∈ Node.walkQuery q := by
  have hnone : name ∉ ResolvedQuery.empty.variableNames := SortedSet.not_mem_empty
  rw [eq_foldl_of_resolve h, ResolvedQuery.mem_variableNames_foldl_learn, or_iff_right hnone]

namespace Node

theorem static_notMem_walkOperand {s : StaticOperand} {o : Operand} :
    .static s ∉ walkOperand o := by
  induction o with
  | upper o ih | lower o ih => simp [walkOperand, ih]
  | _ => simp [walkOperand]

theorem static_notMem_walkSource {s : StaticOperand} {source : Source} :
    .static s ∉ walkSource source := by
  induction source with
  | selector selector => simp [walkSource]
  | join kind left right condition ihl ihr => simp [walkSource, ihl, ihr]

/-- Only the constraint of a query has values in it. -/
theorem exists_constraint_of_static {q : Query} {s : StaticOperand}
    (h : .static s ∈ walkQuery q) :
    ∃ c, q.constraint? = some c ∧ .static s ∈ walkConstraint c := by
  simpa [walkQuery, walkOrderBy, static_notMem_walkSource, static_notMem_walkOperand] using h

end Node

/-! ## Variables of plans -/

/-- A constraint that is translated has values for all its variables. -/
theorem Scope.exists_value_of_predicate {s : Scope} {c : Constraint} {p : Predicate}
    (h : s.predicate c = .ok p) {name : String}
    (hname : .static (.variable name) ∈ Node.walkConstraint c) :
    ∃ v, s.bindings.get? name = some v := by
  induction c generalizing p with
  | and left right ihl ihr | or left right ihl ihr =>
    obtain ⟨first, hfirst, h⟩ := Outcome.bind_eq_ok h
    obtain ⟨second, hsecond, -⟩ := Outcome.bind_eq_ok h
    simp only [Node.walkConstraint, List.mem_cons, reduceCtorEq, false_or, List.mem_append] at hname
    rcases hname with hname | hname
    · exact ihl hfirst hname
    · exact ihr hsecond hname
  | not c ih =>
    obtain ⟨inner, hinner, -⟩ := Outcome.map_eq_ok h
    simp only [Node.walkConstraint, List.mem_cons, reduceCtorEq, false_or] at hname
    exact ih hinner hname
  | compare left operator right =>
    obtain ⟨-, -, h⟩ := Outcome.bind_eq_ok h
    obtain ⟨v, hv, -⟩ := Outcome.bind_eq_ok h
    simp only [Node.walkConstraint, List.mem_cons, reduceCtorEq, false_or, List.mem_append,
      Node.static_notMem_walkOperand, List.not_mem_nil, or_false, Node.static.injEq] at hname
    rw [← hname, value] at hv
    split at hv
    · rename_i found hfound
      exact ⟨found, hfound⟩
    · cases hv
  | _ => simp [Node.walkConstraint] at hname

namespace Plan

variable {rules : PlanRules} {q : Query} {r : ResolvedQuery}

/-- A query that has a plan has values for all its variables. -/
theorem exists_value_of_ofQuery (hr : rules.validation.resolve q = .ok r) {bindings : Bindings}
    {plan : Plan} (hplan : ofQuery rules q bindings = .ok plan) {name : String}
    (hname : name ∈ r.variableNames) : ∃ v, bindings.get? name = some v := by
  obtain ⟨s, -, rfl, -, -, -, hconstraint, -⟩ := ofQueryWith_eq_ok hplan
  obtain ⟨c, hc, hmem⟩ :=
    Node.exists_constraint_of_static ((ValidationRules.mem_variableNames_iff hr).mp hname)
  rw [hc] at hconstraint
  obtain ⟨p, hp, -⟩ := Outcome.map_eq_ok hconstraint
  exact s.exists_value_of_predicate hp hmem

/-- The variables of a valid query are those that its plan depends on. There is no plan unless all
of them have values, and two sets of bindings with the same values of them make the same plan, or
are refused for the same reason. -/
theorem dependsOn_variableNames (hr : rules.validation.resolve q = .ok r) :
    (∀ bindings plan, ofQuery rules q bindings = .ok plan →
        ∀ name ∈ r.variableNames, ∃ v, bindings.get? name = some v)
      ∧ ∀ b b' : Bindings, (∀ name ∈ r.variableNames, b.get? name = b'.get? name) →
        ofQuery rules q b = ofQuery rules q b' := by
  refine ⟨fun bindings plan hplan name hname => exists_value_of_ofQuery hr hplan hname,
    fun b b' hsame => ofQueryWith_congr (fun name hname => ?_) _⟩
  exact hsame name ((ValidationRules.mem_variableNames_iff hr).mpr hname)

/-! ## Variables above a view -/

/-- The books that are no drafts. -/
def finishedBooks : Query :=
  (Query.all (.selector ⟨"book", none⟩)).withConstraint
    (.compare (.property ⟨none, "title"⟩) .notEqualTo (.literal (.ofValue (.string "draft"))))

def finishedRules : PlanRules :=
  { schema := (Schema.empty.withTable
        (Table.ofColumns "book" [Column.plain "title" .string])).withTable
      { Table.ofColumns "finished" [Column.plain "title" .string] with
        definition? := some finishedBooks }
    caseSensitive := true
    checksColumns := true
    resolvePath := fun _ => none }

/-- Asks the view for one title, and that it is not another one. -/
def finishedQuery : Query :=
  (Query.all (.selector ⟨"finished", none⟩)).withConstraint
    (.and (.compare (.property ⟨none, "title"⟩) .equalTo (.variable "x"))
      (.not (.compare (.lower (.property ⟨none, "title"⟩)) .like (.variable "y"))))

/-- Both variables have values. -/
def finishedBindings : Bindings :=
  OrderedMap.ofList [("x", .string "Moby Dick"), ("y", .string "moby%")]

/-- They have the same values, and a third one has a value too. -/
def furtherBindings : Bindings :=
  OrderedMap.ofList [("z", .long 3), ("y", .string "moby%"), ("x", .string "Moby Dick")]

/-- A third variable changes nothing about the plan, and without values for the first two there is
none. -/
theorem dependsOn_variableNames_finished :
    ∃ r, finishedRules.validation.resolve finishedQuery = .ok r
      ∧ r.variableNames.toList = ["x", "y"]
      ∧ (ofQuery finishedRules finishedQuery finishedBindings).isOk = true
      ∧ ofQuery finishedRules finishedQuery finishedBindings
        = ofQuery finishedRules finishedQuery furtherBindings
      ∧ ∀ plan, ofQuery finishedRules finishedQuery OrderedMap.empty ≠ .ok plan := by
  have hresolved : ((finishedRules.validation.resolve finishedQuery).toOption.map
      (·.variableNames.toList)) = some ["x", "y"] := by decide
  obtain ⟨r, hr, hnames⟩ := Option.map_eq_some_iff.mp hresolved
  have hr := Outcome.toOption_eq_some hr
  have hmem : ∀ {name}, name ∈ r.variableNames ↔ name ∈ ["x", "y"] := by
    intro name
    rw [← SortedSet.mem_toList, hnames]
  obtain ⟨hneeds, hsame⟩ := dependsOn_variableNames hr
  refine ⟨r, hr, hnames, by decide, hsame _ _ fun name hname => ?_, fun plan hplan => ?_⟩
  · have hboth : ∀ name ∈ ["x", "y"],
        finishedBindings.get? name = furtherBindings.get? name := by decide
    exact hboth name (hmem.mp hname)
  · obtain ⟨v, hv⟩ := hneeds _ plan hplan "x" (hmem.mpr List.mem_cons_self)
    cases hv

end Plan

end ContentSearch
