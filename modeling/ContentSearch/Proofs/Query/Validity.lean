import ContentSearch.Proofs.Outcome
import ContentSearch.Proofs.Query.Resolved

/-!
# Valid queries of one table

What is wrong with a node depends on the selectors alone. A query of one table is valid if its table
exists and if nothing is wrong with any node after the source, the selector being known.
-/

namespace ContentSearch

/-- What is known of a query of one table before its other parts are looked at. -/
def ResolvedQuery.ofSelector (s : Selector) : ResolvedQuery :=
  ⟨OrderedMap.empty.insert s.name s.table, SortedSet.empty, OrderedMap.empty⟩

/-- The nodes after the source of a query. -/
def Node.afterSource (q : Query) : List Node :=
  q.constraint?.toList.flatMap walkConstraint ++ q.orderings.flatMap walkOrderBy
    ++ q.columns.map Node.column ++ [.limit q.limit]

theorem Node.walkQuery_of_selector {q : Query} {s : Selector} (hsource : q.source = .selector s) :
    walkQuery q = .query q :: .selector s :: afterSource q := by
  rw [walkQuery, hsource, walkSource]
  rfl

namespace ValidationRules

variable {rules : ValidationRules} {r r' : ResolvedQuery}

theorem problems_congr (h : r.selectors = r'.selectors) (node : Node) :
    rules.problems r node = rules.problems r' node := by
  obtain ⟨selectors, variableNames, columns⟩ := r
  obtain ⟨selectors', variableNames', columns'⟩ := r'
  obtain rfl : selectors = selectors' := h
  cases node <;> rfl

/-- Nodes that declare no selector are checked against what is known before them. -/
theorem follow_of_silent {nodes : List Node} (h : ∀ node ∈ nodes, node.IsSilent) :
    (rules.follow r nodes).2 = nodes.flatMap (rules.problems r) := by
  induction nodes generalizing r with
  | nil => rfl
  | cons node rest ih =>
    have hlearn : rules.problems (r.learn node) = rules.problems r :=
      funext (problems_congr (ResolvedQuery.selectors_learn (h node List.mem_cons_self)))
    have hlater := ih (r := r.learn node) fun later hmem => h later (List.mem_cons_of_mem _ hmem)
    rw [hlearn] at hlater
    rw [List.flatMap_cons, ← hlater]
    rfl

/-- The problems of a query of one table. -/
theorem problems_of_selector {q : Query} {s : Selector} (hsource : q.source = .selector s) :
    (rules.follow .empty (Node.walkQuery q)).2
      = rules.declarationProblems .empty s
        ++ (Node.afterSource q).flatMap (rules.problems (.ofSelector s)) := by
  have hsilent : ∀ node ∈ Node.afterSource q, node.IsSilent := fun _ => Node.isSilent_of_mem_rest
  rw [Node.walkQuery_of_selector hsource, ← follow_of_silent hsilent]
  rfl

theorem declarationProblems_eq_nil {s : Selector} :
    rules.declarationProblems .empty s = [] ↔ ∃ t, rules.schema.table? s.table = some t := by
  have hnew : ResolvedQuery.empty.selectors.contains s.name = false := rfl
  rw [declarationProblems, hnew, ← Option.isSome_iff_exists]
  cases rules.schema.table? s.table <;> simp

/-- A query is valid exactly if no problem is found. -/
theorem exists_resolve_iff {q : Query} :
    (∃ r, rules.resolve q = .ok r) ↔ (rules.follow .empty (Node.walkQuery q)).2 = [] := by
  unfold resolve
  split
  · rename_i r hfollow
    simp [hfollow]
  · rename_i r problems hnone hfollow
    refine iff_of_false (by simp) fun hnil => ?_
    rw [hfollow] at hnil
    exact hnone (by rw [← hnil])

/-- A query of one table is valid exactly if its table exists and nothing is wrong with the other
nodes. -/
theorem resolve_eq_ok_iff {q : Query} {s : Selector} (hsource : q.source = .selector s) :
    (∃ r, rules.resolve q = .ok r)
      ↔ (∃ t, rules.schema.table? s.table = some t)
        ∧ ∀ node ∈ Node.afterSource q, rules.problems (.ofSelector s) node = [] := by
  have hproblems : (rules.follow .empty (Node.walkQuery q)).2 = _ := problems_of_selector hsource
  rw [exists_resolve_iff, hproblems, List.append_eq_nil_iff, declarationProblems_eq_nil,
    List.flatMap_eq_nil_iff]

end ValidationRules

end ContentSearch
