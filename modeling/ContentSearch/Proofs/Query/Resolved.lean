import ContentSearch.Query.Resolved

/-!
# What is known of a query of one table

Selectors are declared by the source alone, so that a query of one table has one selector, whatever
its other parts are.
-/

namespace ContentSearch

namespace Node

/-- A node that declares no selector. -/
def IsSilent (n : Node) : Prop :=
  ∀ s, n ≠ .selector s

theorem isSilent_walkOperand {o : Operand} : ∀ n ∈ walkOperand o, n.IsSilent := by
  induction o with
  | upper o ih | lower o ih =>
    -- the operand itself, then the one that it maps
    intro n hn
    rcases List.mem_cons.mp hn with rfl | hn
    · intro s h
      cases h
    · exact ih n hn
  | _ =>
    intro n hn s h
    subst h
    simp [walkOperand] at hn

theorem isSilent_walkConstraint {c : Constraint} : ∀ n ∈ walkConstraint c, n.IsSilent := by
  induction c with
  | and left right ihl ihr | or left right ihl ihr =>
    intro n hn
    rw [walkConstraint, List.mem_cons, List.mem_append] at hn
    rcases hn with rfl | hn | hn
    · intro s h
      cases h
    · exact ihl n hn
    · exact ihr n hn
  | not c ih =>
    intro n hn
    rcases List.mem_cons.mp hn with rfl | hn
    · intro s h
      cases h
    · exact ih n hn
  | compare left operator right =>
    intro n hn
    rw [walkConstraint, List.mem_cons, List.mem_append, List.mem_singleton] at hn
    rcases hn with rfl | hn | rfl
    · intro s h
      cases h
    · exact isSilent_walkOperand n hn
    · intro s h
      cases h
  | _ =>
    intro n hn s h
    subst h
    simp [walkConstraint] at hn

theorem isSilent_walkOrderBy {o : OrderBy} : ∀ n ∈ walkOrderBy o, n.IsSilent := by
  intro n hn
  rcases List.mem_cons.mp hn with rfl | hn
  · intro s h
    cases h
  · exact isSilent_walkOperand n hn

/-- The nodes after the source of a query declare no selector. -/
theorem isSilent_of_mem_rest {q : Query} {n : Node}
    (hn : n ∈ q.constraint?.toList.flatMap walkConstraint ++ q.orderings.flatMap walkOrderBy
      ++ q.columns.map Node.column ++ [.limit q.limit]) : n.IsSilent := by
  simp only [List.mem_append, List.mem_flatMap, List.mem_map, List.mem_singleton] at hn
  rcases hn with ((⟨c, -, hn⟩ | ⟨o, -, hn⟩) | ⟨column, -, rfl⟩) | rfl
  · exact isSilent_walkConstraint n hn
  · exact isSilent_walkOrderBy n hn
  · intro s h
    cases h
  · intro s h
    cases h

end Node

namespace ResolvedQuery

theorem selectors_learn {r : ResolvedQuery} {n : Node} (h : n.IsSilent) :
    (r.learn n).selectors = r.selectors := by
  unfold learn
  split
  · exact absurd rfl (h _)
  all_goals rfl

theorem selectors_foldl_learn {r : ResolvedQuery} {nodes : List Node}
    (h : ∀ n ∈ nodes, n.IsSilent) : (nodes.foldl learn r).selectors = r.selectors := by
  induction nodes generalizing r with
  | nil => rfl
  | cons n rest ih =>
    rw [List.foldl_cons, ih fun m hm => h m (List.mem_cons_of_mem n hm),
      selectors_learn (h n List.mem_cons_self)]

end ResolvedQuery

namespace ValidationRules

theorem eq_foldl_of_resolve {rules : ValidationRules} {q : Query} {r : ResolvedQuery}
    (h : rules.resolve q = .ok r) :
    r = (Node.walkQuery q).foldl ResolvedQuery.learn .empty := by
  unfold resolve at h
  split at h
  · rename_i r' hfollow
    obtain rfl := Except.ok.inj h
    rw [← follow_fst rules, hfollow]
  · cases h

/-- A query of one table has the selector of that table alone. -/
theorem selectors_of_resolve {rules : ValidationRules} {q : Query} {r : ResolvedQuery}
    {s : Selector} (h : rules.resolve q = .ok r) (hsource : q.source = .selector s) :
    r.selectors = OrderedMap.empty.insert s.name s.table := by
  have hwalk : Node.walkQuery q = .query q :: .selector s
      :: (q.constraint?.toList.flatMap Node.walkConstraint
        ++ q.orderings.flatMap Node.walkOrderBy ++ q.columns.map Node.column
        ++ [.limit q.limit]) := by
    rw [Node.walkQuery, hsource, Node.walkSource]
    rfl
  -- the first two nodes say all there is to say about selectors
  rw [eq_foldl_of_resolve h, hwalk, List.foldl_cons, List.foldl_cons,
    ResolvedQuery.selectors_foldl_learn fun n hn => Node.isSilent_of_mem_rest hn]
  rfl

end ValidationRules

end ContentSearch
