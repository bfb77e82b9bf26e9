import ContentSearch.Proofs.Query.Validity

/-!
# Well-formed queries

What a query has to be like, said of its syntax and of the schema alone: how the names of its
selectors are declared, which selectors and columns its parts refer to, and which comparisons it
makes. Validation accepts exactly these queries (`ValidationRules.resolve_iff_wellFormed`).

The selectors known at a node are those declared by the nodes before it (`Knows`), so that the
problems of a node are decided by a list of selectors. For the nodes after the source this list is
the source's.
-/

namespace ContentSearch

/-! ## References -/

/-- A reference to a selector, and to one of its columns if there is one. -/
structure Reference where
  selector? : Option String
  column? : Option String

/-- The selector that a reference means among those declared: the one of its name, or the only
one. -/
def Selector.IsMeant (ss : List Selector) : Option String → Selector → Prop
  | some name, s => s ∈ ss ∧ s.name = name
  | none, s => ss = [s]

theorem Selector.IsMeant.mem {ss : List Selector} {name? : Option String} {s : Selector}
    (hs : s.IsMeant ss name?) : s ∈ ss := by
  cases name? with
  | some name => exact hs.1
  | none =>
    have hss : ss = [s] := hs
    rw [hss]
    exact List.mem_singleton.mpr rfl

/-- The reference of an operand, at any depth of functions. -/
def Operand.reference : Operand → Reference
  | .property ref | .length ref => ⟨ref.selector?, some ref.property⟩
  | .name name? | .localName name? | .depth name? | .score name? => ⟨name?, none⟩
  | .upper o | .lower o => o.reference

/-- The references of a constraint. -/
def Constraint.references : Constraint → List Reference
  | .and left right | .or left right => left.references ++ right.references
  | .not c => c.references
  | .compare left _ _ => [left.reference]
  | .child name? _ | .descendant name? _ | .same name? _ => [⟨name?, none⟩]
  | .contains name? property? _ => [⟨name?, property?⟩]
  | .hasValue ref => [⟨ref.selector?, some ref.property⟩]

/-- The conditions that a constraint is composed of. -/
def Constraint.conditions : Constraint → List Constraint
  | .and left right | .or left right => left.conditions ++ right.conditions
  | .not c => c.conditions
  | c => [c]

/-- The references of a join condition. -/
def JoinCondition.references : JoinCondition → List Reference
  | .equi s₁ p₁ s₂ p₂ => [⟨some s₁, some p₁⟩, ⟨some s₂, some p₂⟩]
  | c => [⟨some c.selectors.1, none⟩, ⟨some c.selectors.2, none⟩]

/-- The join conditions of a source. -/
def Source.conditions : Source → List JoinCondition
  | .selector _ => []
  | .join _ left right condition => left.conditions ++ right.conditions ++ [condition]

namespace Query

/-- The references of a query outside of its source. -/
def references (q : Query) : List Reference :=
  q.constraint?.toList.flatMap Constraint.references
    ++ q.orderings.map (fun o => o.operand.reference)
    ++ q.columns.map fun c => ⟨c.selector?, c.property?⟩

/-- The conditions that the constraint of a query is composed of. -/
def conditions (q : Query) : List Constraint :=
  q.constraint?.toList.flatMap Constraint.conditions

end Query

namespace ValidationRules

/-- The column of this name in the table of the selector that is meant. -/
def HasColumn (rules : ValidationRules) (ss : List Selector) (name? : Option String)
    (property : String) (c : Column) : Prop :=
  ∃ s : Selector, s.IsMeant ss name?
    ∧ ∃ t, rules.schema.table? s.table = some t ∧ t.column? property = some c

end ValidationRules

/-! ## Walks -/

namespace Node

/-- A walk meets a node, and then goes down each of its children in turn. -/
theorem walk_eq_children (n : Node) : n.walk = n :: n.children.flatMap walk := by
  cases n with
  | query q =>
    have hflat : ∀ cs : List ResultColumn, (cs.map Node.column).flatMap walk = cs.map Node.column :=
      fun cs => by induction cs with
        | nil => rfl
        | cons c cs ih => exact congrArg (Node.column c :: ·) ih
    have hconstraint : ∀ c? : Option Constraint,
        (c?.map Node.constraint).toList.flatMap walk = c?.toList.flatMap walkConstraint :=
      fun c? => by cases c? <;> rfl
    rw [walk, walkQuery, children, ofQuery, List.flatMap_append, List.flatMap_append,
      List.flatMap_append, List.flatMap_cons, walk_source, hconstraint, hflat, List.flatMap_map]
    rfl
  | join kind left right condition =>
    rw [walk, walkSource, children, List.flatMap_cons, List.flatMap_cons, walk_source, walk_source,
      List.append_assoc]
    rfl
  | constraint c => cases c <;> simp [walk, walkConstraint, children, ofConstraint]
  | operand o => cases o <;> simp [walk, walkOperand, children, ofOperand]
  | orderBy o => simp [walk, walkOrderBy, children]
  | selector s => rfl
  | joinCondition c => rfl
  | static o => rfl
  | column c => rfl
  | limit l => rfl

/-- The selectors that are declared by these nodes. -/
def declared (nodes : List Node) : List Selector :=
  nodes.filterMap fun
    | .selector s => some s
    | _ => none

/-- A node of the walk declares one selector or none. -/
theorem selector_or_isSilent (n : Node) : (∃ s, n = .selector s) ∨ n.IsSilent := by
  cases n with
  | selector s => exact Or.inl ⟨s, rfl⟩
  | _ => exact Or.inr fun s h => by cases h

theorem declared_cons_of_isSilent {n : Node} (hn : n.IsSilent) (rest : List Node) :
    declared (n :: rest) = declared rest := by
  cases n with
  | selector s => exact absurd rfl (hn s)
  | _ => rfl

/-- What nodes declare is declared in their order. -/
theorem declared_append (front back : List Node) :
    declared (front ++ back) = declared front ++ declared back :=
  List.filterMap_append

/-- The walk of a source meets its selectors from left to right. -/
theorem declared_walkSource (source : Source) :
    declared (walkSource source) = source.selectors := by
  induction source with
  | selector s => rfl
  | join kind left right condition ihleft ihright =>
    rw [walkSource, declared_cons_of_isSilent (fun s h => by cases h), declared_append,
      declared_append, ihleft, ihright]
    exact List.append_nil _

/-- The walk of a source meets its join conditions. -/
theorem joinCondition_mem_walkSource {c : JoinCondition} {source : Source} :
    .joinCondition c ∈ walkSource source ↔ c ∈ source.conditions := by
  induction source with
  | selector s => simp [walkSource, Source.conditions]
  | join kind left right condition ihleft ihright =>
    simp [walkSource, Source.conditions, ihleft, ihright]

/-- Besides, a walk of a source meets nothing but joins. -/
theorem mem_walkSource {n : Node} {source : Source} (hn : n ∈ walkSource source) :
    (∃ s, n = .selector s) ∨ (∃ kind left right condition, n = .join kind left right condition)
      ∨ ∃ c, n = .joinCondition c := by
  induction source with
  | selector s => exact Or.inl ⟨s, List.mem_singleton.mp hn⟩
  | join kind left right condition ihleft ihright =>
    simp only [walkSource, List.mem_cons, List.mem_append, List.not_mem_nil, or_false] at hn
    rcases hn with rfl | (hn | hn) | rfl
    · exact Or.inr (Or.inl ⟨kind, left, right, condition, rfl⟩)
    · exact ihleft hn
    · exact ihright hn
    · exact Or.inr (Or.inr ⟨condition, rfl⟩)

/-- The walk of a query goes through its source first. -/
theorem walkQuery_eq (q : Query) :
    walkQuery q = .query q :: (walkSource q.source ++ afterSource q) := by
  simp only [walkQuery, afterSource, List.append_assoc]

/-- Only selectors declare something. -/
theorem declared_eq_nil {nodes : List Node} (h : ∀ n ∈ nodes, n.IsSilent) :
    declared nodes = [] := by
  induction nodes with
  | nil => rfl
  | cons n rest ih =>
    rw [declared_cons_of_isSilent (h n List.mem_cons_self)]
    exact ih fun m hm => h m (List.mem_cons_of_mem n hm)

/-- The walk of a query meets the selectors of its source. -/
theorem declared_walkQuery (q : Query) : declared (walkQuery q) = q.source.selectors := by
  have hrest : declared (afterSource q) = [] := declared_eq_nil fun n => isSilent_of_mem_rest
  rw [walkQuery_eq, declared_cons_of_isSilent (fun s h => by cases h), declared_append,
    declared_walkSource, hrest, List.append_nil]

theorem joinCondition_not_mem_walkOperand {c : JoinCondition} (o : Operand) :
    .joinCondition c ∉ walkOperand o := by
  induction o <;> simp_all [walkOperand]

theorem joinCondition_not_mem_walkConstraint {c : JoinCondition} (part : Constraint) :
    .joinCondition c ∉ walkConstraint part := by
  induction part <;> simp_all [walkConstraint, joinCondition_not_mem_walkOperand]

/-- All join conditions stand in the source. -/
theorem joinCondition_not_mem_afterSource {q : Query} {c : JoinCondition} :
    .joinCondition c ∉ afterSource q := by
  simp [afterSource, walkOrderBy, joinCondition_not_mem_walkOperand,
    joinCondition_not_mem_walkConstraint]

/-- Up to a join condition, the walk of a query is that of its source. -/
theorem walkQuery_eq_append_joinCondition {q : Query} {front back : List Node} {c : JoinCondition}
    (h : walkQuery q = front ++ .joinCondition c :: back) :
    ∃ front' back', walkSource q.source = front' ++ .joinCondition c :: back'
      ∧ front = .query q :: front' := by
  rw [walkQuery_eq] at h
  cases front with
  | nil => cases h
  | cons n front =>
    obtain ⟨rfl, hrest⟩ := List.cons.inj h
    rcases List.append_eq_append_iff.mp hrest with ⟨between, -, hback⟩ | ⟨between, hfront, hback⟩
    · exact absurd (hback ▸ List.mem_append_right _ List.mem_cons_self)
        joinCondition_not_mem_afterSource
    · cases between with
      | nil => exact absurd (hback ▸ List.mem_cons_self) joinCondition_not_mem_afterSource
      | cons m between =>
        obtain ⟨rfl, -⟩ := List.cons.inj hback
        exact ⟨front, between, hfront, rfl⟩

end Node

/-! ## Well-formed queries -/

/-- What a query has to be like under a schema. -/
structure Query.WellFormed (rules : ValidationRules) (q : Query) : Prop where
  /-- No name is declared twice. -/
  distinct : (q.source.selectors.map Selector.name).Nodup
  /-- All tables exist. -/
  tables : ∀ s ∈ q.source.selectors, ∃ t, rules.schema.table? s.table = some t
  /-- A join condition relates two selectors, which are declared by nodes before it. -/
  joins : ∀ front c back, Node.walkQuery q = front ++ .joinCondition c :: back →
    c.selectors.1 ≠ c.selectors.2 ∧ c.selectors.1 ∈ (Node.declared front).map Selector.name
      ∧ c.selectors.2 ∈ (Node.declared front).map Selector.name
  /-- All other references mean a selector. -/
  references : ∀ ref ∈ q.references, ∃ s : Selector, s.IsMeant q.source.selectors ref.selector?
  /-- Where columns are checked, all columns that are referred to exist. -/
  columns : rules.checksColumns = true →
    ∀ ref ∈ q.source.conditions.flatMap JoinCondition.references ++ q.references,
      ∀ property, ref.column? = some property →
        ∃ c, rules.HasColumn q.source.selectors ref.selector? property c
  /-- Columns that are searched by full text are searchable. -/
  searchable : ∀ name? property expression,
    .contains name? (some property) expression ∈ q.conditions →
      ∀ c, rules.HasColumn q.source.selectors name? property c → c.searchable = true
  /-- Names are not compared with numbers and truth values. -/
  names : ∀ name? operator l, .compare (.name name?) operator (.literal l) ∈ q.conditions →
    l.type ∉ [.long, .double, .decimal, .boolean]

/-! ## What is known of selectors -/

/-- All that is known of selectors is what these declare, under names that are distinct. -/
def ResolvedQuery.Knows (r : ResolvedQuery) (ss : List Selector) : Prop :=
  r.selectors.entries = ss.map fun s => (s.name, s.table)

namespace ResolvedQuery.Knows

variable {r : ResolvedQuery} {ss : List Selector}

theorem empty : ResolvedQuery.empty.Knows [] := rfl

/-- A table of selectors that knows them has no name twice. -/
theorem nodup (hr : r.Knows ss) : (ss.map Selector.name).Nodup := by
  have hkeys := r.selectors.nodup
  rw [hr, List.map_map] at hkeys
  exact hkeys

/-- A name is bound to the table of the selector of this name. -/
theorem get?_iff (hr : r.Knows ss) {name table : String} :
    r.selectors.get? name = some table ↔ ∃ s ∈ ss, s.name = name ∧ s.table = table := by
  rw [OrderedMap.get?_eq_some_iff, hr, List.mem_map]
  simp only [Prod.mk.injEq]

theorem contains_iff (hr : r.Knows ss) {name : String} :
    r.selectors.contains name = true ↔ name ∈ ss.map Selector.name := by
  rw [OrderedMap.contains, Option.isSome_iff_exists, List.mem_map]
  simp only [hr.get?_iff]
  constructor
  · rintro ⟨table, s, hs, hname, -⟩
    exact ⟨s, hs, hname⟩
  · rintro ⟨s, hs, hname⟩
    exact ⟨s.table, s, hs, hname, rfl⟩

/-- A node that is no selector changes nothing. -/
theorem learn_silent (hr : r.Knows ss) {n : Node} (hn : n.IsSilent) : (r.learn n).Knows ss := by
  rw [Knows, selectors_learn hn]
  exact hr

/-- A new name is known after its declaration. -/
theorem learn_selector (hr : r.Knows ss) {s : Selector} (hnew : s.name ∉ ss.map Selector.name) :
    (r.learn (.selector s)).Knows (ss ++ [s]) := by
  have hcontains : r.selectors.contains s.name = false :=
    Bool.eq_false_iff.mpr fun hcontains => hnew (hr.contains_iff.mp hcontains)
  have hnone : s.name ∉ r.selectors.entries.map Prod.fst := by
    rw [hr, List.map_map]
    exact hnew
  rw [Knows, learn, hcontains]
  show OrderedMap.setEntry s.name s.table r.selectors.entries = _
  rw [OrderedMap.setEntry_of_not_mem hnone, hr, List.map_append]
  rfl

/-- A reference is resolved to the name of the selector that it means. -/
theorem selector?_iff (hr : r.Knows ss) {name? : Option String} {name : String} :
    r.selector? name? = some name ↔ ∃ s : Selector, s.IsMeant ss name? ∧ s.name = name := by
  cases name? with
  | some given =>
    simp only [selector?, Selector.IsMeant, Option.ite_none_right_eq_some, hr.contains_iff,
      List.mem_map, Option.some.injEq]
    constructor
    · rintro ⟨⟨s, hs, hgiven⟩, rfl⟩
      exact ⟨s, ⟨hs, hgiven⟩, hgiven⟩
    · rintro ⟨s, ⟨hs, hgiven⟩, rfl⟩
      exact ⟨⟨s, hs, hgiven⟩, hgiven.symm⟩
  | none =>
    have hkeys : r.selectors.keys = ss.map Selector.name := by
      rw [OrderedMap.keys, hr, List.map_map]
      rfl
    simp only [selector?, Selector.IsMeant, hkeys]
    rcases ss with _ | ⟨only, _ | ⟨second, rest⟩⟩
    · simp
    · simp
    · simp

end ResolvedQuery.Knows

/-! ## Problems of one node -/

/-- A reference that means a selector, and a column of its table where columns are checked. -/
def Reference.Resolves (rules : ValidationRules) (ss : List Selector) (ref : Reference) : Prop :=
  (∃ s : Selector, s.IsMeant ss ref.selector?)
    ∧ (rules.checksColumns = true → ∀ property, ref.column? = some property →
      ∃ c, rules.HasColumn ss ref.selector? property c)

/-- A condition that searches searchable columns alone, and compares no name with a number or a
truth value. -/
def Constraint.IsSound (rules : ValidationRules) (ss : List Selector) : Constraint → Prop
  | .compare (.name _) _ (.literal l) => l.type ∉ [.long, .double, .decimal, .boolean]
  | .contains name? (some property) _ =>
    ∀ c, rules.HasColumn ss name? property c → c.searchable = true
  | _ => True

namespace ValidationRules

variable {rules : ValidationRules} {r : ResolvedQuery} {ss : List Selector}

/-- The table of the selector that a reference means. -/
theorem table?_iff (hr : r.Knows ss) {name? : Option String} {table : String} :
    r.table? name? = some table ↔ ∃ s : Selector, s.IsMeant ss name? ∧ s.table = table := by
  rw [ResolvedQuery.table?, Option.bind_eq_some_iff]
  constructor
  · rintro ⟨name, hname, htable⟩
    obtain ⟨s, hs, rfl⟩ := hr.selector?_iff.mp hname
    have hget : r.selectors.get? s.name = some s.table := hr.get?_iff.mpr ⟨s, hs.mem, rfl, rfl⟩
    exact ⟨s, hs, Option.some.inj (hget.symm.trans htable)⟩
  · rintro ⟨s, hs, rfl⟩
    exact ⟨s.name, hr.selector?_iff.mpr ⟨s, hs, rfl⟩, hr.get?_iff.mpr ⟨s, hs.mem, rfl, rfl⟩⟩

/-- A column is looked up exactly where the well-formedness of queries finds one. -/
theorem columnOf?_iff (hr : r.Knows ss) {name? : Option String} {property : String} {c : Column} :
    rules.columnOf? r name? property = some c ↔ rules.HasColumn ss name? property c := by
  simp only [columnOf?, Option.bind_eq_some_iff, table?_iff hr, HasColumn]
  constructor
  · rintro ⟨t, ⟨_, ⟨s, hs, rfl⟩, ht⟩, hc⟩
    exact ⟨s, hs, t, ht, hc⟩
  · rintro ⟨s, hs, t, ht, hc⟩
    exact ⟨t, ⟨s.table, ⟨s, hs, rfl⟩, ht⟩, hc⟩

/-- A reference to a selector is without problem if it means one. -/
theorem selectorProblems_eq_nil_iff (hr : r.Knows ss) {name? : Option String}
    {site : ReferenceSite} :
    selectorProblems r name? site = [] ↔ ∃ s : Selector, s.IsMeant ss name? := by
  have hselector : (∃ s : Selector, s.IsMeant ss name?)
      ↔ ∃ name, r.selector? name? = some name := by
    simp only [hr.selector?_iff]
    exact ⟨fun ⟨s, hs⟩ => ⟨s.name, s, hs, rfl⟩, fun ⟨_, s, hs, _⟩ => ⟨s, hs⟩⟩
  rw [hselector, selectorProblems]
  cases r.selector? name? <;> simp

/-- A reference to a property is without problem if it can be resolved. That the tables exist is
reported at their declarations. -/
theorem propertyProblems_eq_nil_iff (hr : r.Knows ss)
    (htables : ∀ s ∈ ss, ∃ t, rules.schema.table? s.table = some t) {name? : Option String}
    {property : String} {site : ReferenceSite} :
    rules.propertyProblems r name? property site = []
      ↔ Reference.Resolves rules ss ⟨name?, some property⟩ := by
  unfold propertyProblems
  cases hselector : r.selector? name? with
  | none =>
    refine iff_of_false (by simp) fun ⟨⟨s, hs⟩, _⟩ => ?_
    rw [hr.selector?_iff.mpr ⟨s, hs, rfl⟩] at hselector
    cases hselector
  | some name =>
    obtain ⟨s, hs, rfl⟩ := hr.selector?_iff.mp hselector
    obtain ⟨t, ht⟩ := htables s hs.mem
    have hget : (r.selectors.get? s.name).bind rules.schema.table? = some t := by
      rw [hr.get?_iff.mpr ⟨s, hs.mem, rfl, rfl⟩]
      exact ht
    have hcolumn : rules.columnOf? r name? property = t.column? property := by
      rw [columnOf?, (table?_iff hr).mpr ⟨s, hs, rfl⟩]
      exact congrArg (Option.bind · _) ht
    have hresolves : Reference.Resolves rules ss ⟨name?, some property⟩
        ↔ (rules.checksColumns = true → ∃ c, t.column? property = some c) := by
      simp only [Reference.Resolves, ← columnOf?_iff hr, Option.some.injEq, forall_eq', hcolumn]
      exact and_iff_right ⟨s, hs⟩
    rw [hresolves]
    simp only [hget]
    cases rules.checksColumns <;> cases t.column? property <;> simp

/-- The two selectors of a join have to be different, and both have to be there. -/
theorem pairProblems_eq_nil_iff (hr : r.Knows ss) {first second : String} {site : ReferenceSite} :
    pairProblems r first second site = []
      ↔ first ≠ second ∧ (∃ s : Selector, s.IsMeant ss (some first))
        ∧ ∃ s : Selector, s.IsMeant ss (some second) := by
  rw [pairProblems, List.append_eq_nil_iff, List.append_eq_nil_iff, selectorProblems_eq_nil_iff hr,
    selectorProblems_eq_nil_iff hr, and_comm]
  refine and_congr_left fun _ => ?_
  by_cases heq : first = second <;> simp [heq]

/-- A join is without problem if its selectors are different and its references can be resolved. -/
theorem joinProblems_eq_nil_iff (hr : r.Knows ss)
    (htables : ∀ s ∈ ss, ∃ t, rules.schema.table? s.table = some t) (c : JoinCondition) :
    rules.joinProblems r c = []
      ↔ c.selectors.1 ≠ c.selectors.2 ∧ ∀ ref ∈ c.references, ref.Resolves rules ss := by
  have hpair : ∀ {first second : String} {site : ReferenceSite},
      pairProblems r first second site = [] ↔ first ≠ second
        ∧ ∀ ref ∈ [Reference.mk (some first) none, ⟨some second, none⟩], ref.Resolves rules ss := by
    intro first second site
    rw [pairProblems_eq_nil_iff hr]
    simp [Reference.Resolves]
  cases c with
  | child c p => exact hpair
  | descendant d a => exact hpair
  | same s₁ s₂ path? => exact hpair
  | equi s₁ p₁ s₂ p₂ =>
    rw [joinProblems]
    split
    · -- two properties of one selector are refused, whatever the selector
      rename_i heq
      exact iff_of_false (fun hnil => (hpair.mp hnil).1 heq) fun h => h.1 heq
    · rename_i hne
      rw [List.append_eq_nil_iff, propertyProblems_eq_nil_iff hr htables,
        propertyProblems_eq_nil_iff hr htables]
      simp [JoinCondition.selectors, JoinCondition.references, hne]

/-- A full-text condition is without problem if its column can be resolved and searched. -/
theorem containsProblems_eq_nil_iff (hr : r.Knows ss)
    (htables : ∀ s ∈ ss, ∃ t, rules.schema.table? s.table = some t)
    (name? property? : Option String) (expression : String) :
    rules.containsProblems r name? property? = []
      ↔ Reference.Resolves rules ss ⟨name?, property?⟩
        ∧ (Constraint.contains name? property? expression).IsSound rules ss := by
  cases property? with
  | none =>
    rw [containsProblems, selectorProblems_eq_nil_iff hr]
    simp [Reference.Resolves, Constraint.IsSound]
  | some property =>
    rw [containsProblems, List.append_eq_nil_iff, propertyProblems_eq_nil_iff hr htables]
    simp only [Constraint.IsSound, ← columnOf?_iff hr]
    cases rules.columnOf? r name? property with
    | none => simp
    | some c => cases c.searchable <;> simp

theorem isIncomparableWithName_iff {type : PropertyType} :
    isIncomparableWithName type = true ↔ type ∈ [.long, .double, .decimal, .boolean] := by
  cases type <;> simp [isIncomparableWithName, PropertyType.isNumeric]

/-- Comparisons are judged by themselves, whatever has been resolved. -/
theorem compareProblems_eq_nil_iff (left : Operand) (operator : Operator) (right : StaticOperand) :
    rules.constraintProblems r (.compare left operator right) = []
      ↔ (Constraint.compare left operator right).IsSound rules ss := by
  cases left with
  | name name? =>
    rcases right with l | name
    · rw [constraintProblems, Constraint.IsSound, ← isIncomparableWithName_iff]
      cases isIncomparableWithName l.type <;> simp
    · exact iff_of_true rfl trivial
  | _ => exact iff_of_true rfl trivial

/-! ## Problems of operands and constraints -/

section
variable (hr : r.Knows ss) (htables : ∀ s ∈ ss, ∃ t, rules.schema.table? s.table = some t)
include hr

theorem selectorProblems_eq_nil_iff_resolves {name? : Option String} {site : ReferenceSite} :
    selectorProblems r name? site = [] ↔ Reference.Resolves rules ss ⟨name?, none⟩ := by
  rw [selectorProblems_eq_nil_iff hr]
  simp [Reference.Resolves]

include htables

/-- What is wrong with an operand is what is wrong with its reference, the induction being on the
case functions. -/
theorem walkOperand_sound_iff (o : Operand) :
    (∀ n ∈ Node.walkOperand o, rules.problems r n = []) ↔ o.reference.Resolves rules ss := by
  induction o with
  | property ref =>
    exact List.forall_mem_singleton.trans (propertyProblems_eq_nil_iff hr htables)
  | length ref =>
    refine List.forall_mem_cons.trans ((and_iff_right rfl).trans ?_)
    exact List.forall_mem_singleton.trans (propertyProblems_eq_nil_iff hr htables)
  | upper o ih | lower o ih => exact List.forall_mem_cons.trans ((and_iff_right rfl).trans ih)
  | _ => exact List.forall_mem_singleton.trans (selectorProblems_eq_nil_iff_resolves hr)

/-- What is wrong with a constraint is what is wrong with its references and its conditions, the
induction being on the constraints that it is composed of. -/
theorem walkConstraint_sound_iff (c : Constraint) :
    (∀ n ∈ Node.walkConstraint c, rules.problems r n = [])
      ↔ (∀ ref ∈ c.references, ref.Resolves rules ss)
        ∧ ∀ part ∈ c.conditions, part.IsSound rules ss := by
  -- a condition by itself has one reference
  have hcondition : ∀ {c : Constraint} {ref : Reference}, c.references = [ref] →
      c.conditions = [c] →
      ((∀ ref ∈ c.references, ref.Resolves rules ss)
          ∧ (∀ part ∈ c.conditions, part.IsSound rules ss)
        ↔ ref.Resolves rules ss ∧ c.IsSound rules ss) := by
    intro c ref href hconditions
    rw [href, hconditions, List.forall_mem_singleton, List.forall_mem_singleton]
  have hsound : ∀ {c : Constraint} {ref : Reference}, c.references = [ref] → c.conditions = [c] →
      c.IsSound rules ss →
      ((∀ ref ∈ c.references, ref.Resolves rules ss)
          ∧ (∀ part ∈ c.conditions, part.IsSound rules ss)
        ↔ ref.Resolves rules ss) :=
    fun href hconditions hc => (hcondition href hconditions).trans (and_iff_left hc)
  induction c with
  | and left right ihleft ihright | or left right ihleft ihright =>
    refine List.forall_mem_cons.trans ((and_iff_right rfl).trans ?_)
    rw [List.forall_mem_append, Constraint.references, Constraint.conditions,
      List.forall_mem_append, List.forall_mem_append, and_and_and_comm]
    exact and_congr ihleft ihright
  | not c ih => exact List.forall_mem_cons.trans ((and_iff_right rfl).trans ih)
  | compare left operator right =>
    have hright : ∀ n ∈ [Node.static right], rules.problems r n = [] :=
      List.forall_mem_singleton.mpr rfl
    rw [hcondition rfl rfl, ← walkOperand_sound_iff hr htables left, Node.walkConstraint,
      List.forall_mem_cons, List.forall_mem_append, and_iff_left hright, and_comm]
    exact and_congr_right fun _ => compareProblems_eq_nil_iff left operator right
  | child name? path | descendant name? path | same name? path =>
    refine Iff.trans ?_ (hsound (by rfl) (by rfl) (by trivial)).symm
    exact List.forall_mem_singleton.trans (selectorProblems_eq_nil_iff_resolves hr)
  | contains name? property? expression =>
    rw [hcondition rfl rfl]
    exact List.forall_mem_singleton.trans
      (containsProblems_eq_nil_iff hr htables name? property? expression)
  | hasValue ref =>
    refine Iff.trans ?_ (hsound (by rfl) (by rfl) (by trivial)).symm
    exact List.forall_mem_singleton.trans (propertyProblems_eq_nil_iff hr htables)

/-- A column of the result is looked up like any other reference. -/
theorem columnProblems_eq_nil_iff (c : ResultColumn) :
    rules.problems r (.column c) = [] ↔ Reference.Resolves rules ss ⟨c.selector?, c.property?⟩ := by
  obtain ⟨selector?, property?, alias?⟩ := c
  cases property? with
  | none => exact selectorProblems_eq_nil_iff_resolves hr
  | some property => exact propertyProblems_eq_nil_iff hr htables

/-- What is wrong with the nodes after the source is what is wrong with the references and
conditions there. -/
theorem afterSource_sound_iff (q : Query) :
    (∀ n ∈ Node.afterSource q, rules.problems r n = [])
      ↔ (∀ ref ∈ q.references, ref.Resolves rules ss)
        ∧ ∀ part ∈ q.conditions, part.IsSound rules ss := by
  have hconstraint : (∀ n ∈ q.constraint?.toList.flatMap Node.walkConstraint,
        rules.problems r n = [])
      ↔ (∀ ref ∈ q.constraint?.toList.flatMap Constraint.references, ref.Resolves rules ss)
        ∧ ∀ part ∈ q.conditions, part.IsSound rules ss := by
    rw [Query.conditions]
    cases q.constraint? with
    | none => simp
    | some c =>
      simp only [Option.toList_some, List.flatMap_singleton]
      exact walkConstraint_sound_iff hr htables c
  have horderings : (∀ n ∈ q.orderings.flatMap Node.walkOrderBy, rules.problems r n = [])
      ↔ ∀ ref ∈ q.orderings.map (fun o => o.operand.reference), ref.Resolves rules ss := by
    rw [List.forall_mem_flatMap, List.forall_mem_map]
    refine forall₂_congr fun o _ => ?_
    exact List.forall_mem_cons.trans
      ((and_iff_right rfl).trans (walkOperand_sound_iff hr htables o.operand))
  have hcolumns : (∀ n ∈ q.columns.map Node.column, rules.problems r n = [])
      ↔ ∀ ref ∈ q.columns.map (fun c => Reference.mk c.selector? c.property?),
        ref.Resolves rules ss := by
    rw [List.forall_mem_map, List.forall_mem_map]
    exact forall₂_congr fun c _ => columnProblems_eq_nil_iff hr htables c
  have hlimit : ∀ n ∈ [Node.limit q.limit], rules.problems r n = [] :=
    List.forall_mem_singleton.mpr rfl
  rw [Node.afterSource, Query.references, List.forall_mem_append, List.forall_mem_append,
    List.forall_mem_append, List.forall_mem_append, List.forall_mem_append, and_iff_left hlimit,
    hconstraint, horderings, hcolumns]
  constructor
  · rintro ⟨⟨⟨h₁, h₂⟩, h₃⟩, h₄⟩
    exact ⟨⟨⟨h₁, h₃⟩, h₄⟩, h₂⟩
  · rintro ⟨⟨⟨h₁, h₃⟩, h₄⟩, h₂⟩
    exact ⟨⟨⟨h₁, h₂⟩, h₃⟩, h₄⟩

end

/-- A declaration is without problem if the name is new and the table exists. -/
theorem declarationProblems_eq_nil_iff (hr : r.Knows ss) (s : Selector) :
    rules.declarationProblems r s = []
      ↔ s.name ∉ ss.map Selector.name ∧ ∃ t, rules.schema.table? s.table = some t := by
  rw [declarationProblems, ← hr.contains_iff, ← Option.isSome_iff_exists]
  cases r.selectors.contains s.name <;> cases rules.schema.table? s.table <;> simp

/-! ## Problems along a walk -/

/-- Nothing is wrong along a walk exactly if nothing is wrong with any node, given what is known
before it. -/
theorem follow_eq_nil_iff {nodes : List Node} :
    (rules.follow r nodes).2 = []
      ↔ ∀ front n back, nodes = front ++ n :: back →
        rules.problems (front.foldl ResolvedQuery.learn r) n = [] := by
  constructor
  · rintro hnil front n back rfl
    rw [follow_append, List.append_eq_nil_iff] at hnil
    exact (List.append_eq_nil_iff.mp hnil.2).1
  · intro hnodes
    induction nodes generalizing r with
    | nil => rfl
    | cons n rest ih =>
      refine List.append_eq_nil_iff.mpr ⟨hnodes [] n rest rfl, ih fun front m back hrest => ?_⟩
      exact hnodes (n :: front) m back (by rw [hrest]; rfl)

/-- Along a walk without problems all declared selectors become known, and their tables exist. -/
theorem knows_of_follow {nodes : List Node} (hr : r.Knows ss)
    (hnil : (rules.follow r nodes).2 = []) :
    (nodes.foldl ResolvedQuery.learn r).Knows (ss ++ Node.declared nodes)
      ∧ ∀ s ∈ Node.declared nodes, ∃ t, rules.schema.table? s.table = some t := by
  induction nodes generalizing r ss with
  | nil =>
    rw [Node.declared, List.filterMap_nil, List.append_nil]
    exact ⟨hr, fun s hs => by cases hs⟩
  | cons n rest ih =>
    obtain ⟨hn, hrest⟩ := List.append_eq_nil_iff.mp hnil
    rcases n.selector_or_isSilent with ⟨s, rfl⟩ | hsilent
    · obtain ⟨hnew, htable⟩ := (declarationProblems_eq_nil_iff hr s).mp hn
      obtain ⟨hknows, htables⟩ := ih (hr.learn_selector hnew) hrest
      rw [List.append_assoc] at hknows
      exact ⟨hknows, List.forall_mem_cons.mpr ⟨htable, htables⟩⟩
    · rw [Node.declared_cons_of_isSilent hsilent]
      exact ih (hr.learn_silent hsilent) hrest

/-- Along a walk all declared selectors become known if their names are distinct. -/
theorem knows_of_nodup {nodes : List Node} (hr : r.Knows ss)
    (hnodup : ((ss ++ Node.declared nodes).map Selector.name).Nodup) :
    (nodes.foldl ResolvedQuery.learn r).Knows (ss ++ Node.declared nodes) := by
  induction nodes generalizing r ss with
  | nil =>
    rw [Node.declared, List.filterMap_nil, List.append_nil]
    exact hr
  | cons n rest ih =>
    rcases n.selector_or_isSilent with ⟨s, rfl⟩ | hsilent
    · have hdeclared : ss ++ Node.declared (.selector s :: rest)
          = (ss ++ [s]) ++ Node.declared rest := by
        rw [List.append_assoc]
        rfl
      rw [hdeclared] at hnodup ⊢
      have hfront : ((ss ++ [s]).map Selector.name).Nodup := by
        rw [List.map_append] at hnodup
        exact (List.nodup_append.mp hnodup).1
      rw [List.map_append] at hfront
      refine ih (hr.learn_selector fun hmem => ?_) hnodup
      exact (List.nodup_append.mp hfront).2.2 s.name hmem s.name (List.mem_singleton.mpr rfl) rfl
    · rw [Node.declared_cons_of_isSilent hsilent] at hnodup ⊢
      exact ih (hr.learn_silent hsilent) hnodup

/-- Nothing is wrong with a query exactly if nothing is wrong along its source, nor, once the
source is known, with any node after it. -/
theorem follow_walkQuery_eq_nil_iff (q : Query) :
    (rules.follow .empty (Node.walkQuery q)).2 = []
      ↔ (rules.follow .empty (Node.walkSource q.source)).2 = []
        ∧ ∀ n ∈ Node.afterSource q,
          rules.problems ((Node.walkSource q.source).foldl ResolvedQuery.learn .empty) n = [] := by
  have hsilent : ∀ n ∈ Node.afterSource q, n.IsSilent := fun _ => Node.isSilent_of_mem_rest
  have hfollow : (rules.follow .empty (Node.walkQuery q)).2
      = (rules.follow .empty (Node.walkSource q.source ++ Node.afterSource q)).2 := by
    rw [Node.walkQuery_eq]
    rfl
  rw [hfollow, follow_append, List.append_eq_nil_iff, follow_of_silent hsilent,
    List.flatMap_eq_nil_iff]

/-- Nothing is wrong along the source exactly if all selectors are declared once and have tables,
and the references of each join condition are resolved by the nodes before it. -/
theorem follow_walkSource_eq_nil_iff (source : Source) :
    (rules.follow .empty (Node.walkSource source)).2 = []
      ↔ (source.selectors.map Selector.name).Nodup
        ∧ (∀ s ∈ source.selectors, ∃ t, rules.schema.table? s.table = some t)
        ∧ ∀ front c back, Node.walkSource source = front ++ .joinCondition c :: back →
          c.selectors.1 ≠ c.selectors.2
            ∧ ∀ ref ∈ c.references, ref.Resolves rules (Node.declared front) := by
  rw [← Node.declared_walkSource]
  constructor
  · intro hnil
    obtain ⟨hknows, htables⟩ := knows_of_follow .empty hnil
    refine ⟨hknows.nodup, htables, fun front c back hwalk => ?_⟩
    rw [hwalk, follow_append, List.append_eq_nil_iff] at hnil
    obtain ⟨hfront, hfrontTables⟩ := knows_of_follow .empty hnil.1
    exact (joinProblems_eq_nil_iff hfront hfrontTables c).mp (List.append_eq_nil_iff.mp hnil.2).1
  · rintro ⟨hnodup, htables, hjoins⟩
    refine follow_eq_nil_iff.mpr fun front n back hwalk => ?_
    have hdeclared : Node.declared (Node.walkSource source)
        = Node.declared front ++ Node.declared (n :: back) := by
      rw [hwalk, Node.declared_append]
    rw [hdeclared] at hnodup htables
    have hnodupFront : ((Node.declared front).map Selector.name).Nodup := by
      rw [List.map_append] at hnodup
      exact (List.nodup_append.mp hnodup).1
    have hknows : (front.foldl ResolvedQuery.learn .empty).Knows (Node.declared front) :=
      knows_of_nodup .empty hnodupFront
    have hn : n ∈ Node.walkSource source := by
      rw [hwalk]
      exact List.mem_append_right front List.mem_cons_self
    rcases Node.mem_walkSource hn with ⟨s, rfl⟩ | ⟨kind, left, right, condition, rfl⟩ | ⟨c, rfl⟩
    · have hs : s ∈ Node.declared (.selector s :: back) := List.mem_cons_self
      refine (declarationProblems_eq_nil_iff hknows s).mpr
        ⟨fun hmem => ?_, htables s (List.mem_append_right _ hs)⟩
      rw [List.map_append, List.nodup_append] at hnodup
      exact hnodup.2.2 s.name hmem s.name (List.mem_map_of_mem hs) rfl
    · rfl
    · exact (joinProblems_eq_nil_iff hknows
        (fun s hs => htables s (List.mem_append_left _ hs)) c).mpr (hjoins front c back hwalk)

/-! ## References of join conditions -/

/-- A join refers to its two selectors only. -/
theorem selector?_of_mem_references {c : JoinCondition} {ref : Reference}
    (h : ref ∈ c.references) :
    ref.selector? = some c.selectors.1 ∨ ref.selector? = some c.selectors.2 := by
  cases c <;>
    simp only [JoinCondition.references, JoinCondition.selectors, List.mem_cons, List.not_mem_nil,
      or_false] at h ⊢ <;>
    rcases h with rfl | rfl <;> simp

/-- Both selectors of a join condition are referred to by name. -/
theorem exists_references_selectors (c : JoinCondition) :
    (∃ ref ∈ c.references, ref.selector? = some c.selectors.1)
      ∧ (∃ ref ∈ c.references, ref.selector? = some c.selectors.2) := by
  cases c <;> simp [JoinCondition.references, JoinCondition.selectors]

/-- A named reference that means one of fewer selectors means it among all of them, if their names
are distinct. -/
theorem hasColumn_append_iff {ss' : List Selector}
    (hnodup : ((ss ++ ss').map Selector.name).Nodup) {name property : String} {c : Column}
    (hname : name ∈ ss.map Selector.name) :
    rules.HasColumn (ss ++ ss') (some name) property c
      ↔ rules.HasColumn ss (some name) property c := by
  constructor
  · rintro ⟨s, ⟨hs, rfl⟩, htable⟩
    rcases List.mem_append.mp hs with hs | hs
    · exact ⟨s, ⟨hs, rfl⟩, htable⟩
    · rw [List.map_append, List.nodup_append] at hnodup
      exact absurd rfl (hnodup.2.2 s.name hname s.name (List.mem_map_of_mem hs))
  · rintro ⟨s, ⟨hs, hname⟩, htable⟩
    exact ⟨s, ⟨List.mem_append_left _ hs, hname⟩, htable⟩

/-- The references of a join condition are resolved by the nodes before it exactly if both its
selectors are declared there, and the columns exist that they have among all selectors. -/
theorem joinReferences_resolve_iff {ss' : List Selector}
    (hnodup : ((ss ++ ss').map Selector.name).Nodup) (c : JoinCondition) :
    (∀ ref ∈ c.references, ref.Resolves rules ss)
      ↔ (c.selectors.1 ∈ ss.map Selector.name ∧ c.selectors.2 ∈ ss.map Selector.name)
        ∧ (rules.checksColumns = true → ∀ ref ∈ c.references,
          ∀ property, ref.column? = some property →
            ∃ column, rules.HasColumn (ss ++ ss') ref.selector? property column) := by
  have hmeant : ∀ {name : String},
      (∃ s : Selector, s.IsMeant ss (some name)) ↔ name ∈ ss.map Selector.name := by
    intro name
    rw [List.mem_map]
    exact Iff.rfl
  obtain ⟨⟨first, hfirst, hname⟩, second, hsecond, hname'⟩ := exists_references_selectors c
  constructor
  · intro h
    have hselectors : c.selectors.1 ∈ ss.map Selector.name
        ∧ c.selectors.2 ∈ ss.map Selector.name :=
      ⟨hmeant.mp (hname ▸ (h first hfirst).1), hmeant.mp (hname' ▸ (h second hsecond).1)⟩
    refine ⟨hselectors, fun hchecks ref href property hproperty => ?_⟩
    obtain ⟨column, hcolumn⟩ := (h ref href).2 hchecks property hproperty
    refine ⟨column, ?_⟩
    rcases selector?_of_mem_references href with heq | heq <;> rw [heq] at hcolumn ⊢
    · exact (hasColumn_append_iff hnodup hselectors.1).mpr hcolumn
    · exact (hasColumn_append_iff hnodup hselectors.2).mpr hcolumn
  · rintro ⟨hselectors, hcolumns⟩ ref href
    have hselector : ∃ name ∈ ss.map Selector.name, ref.selector? = some name := by
      rcases selector?_of_mem_references href with heq | heq
      · exact ⟨_, hselectors.1, heq⟩
      · exact ⟨_, hselectors.2, heq⟩
    obtain ⟨name, hmem, heq⟩ := hselector
    refine ⟨heq ▸ hmeant.mpr hmem, fun hchecks property hproperty => ?_⟩
    obtain ⟨column, hcolumn⟩ := hcolumns hchecks ref href property hproperty
    rw [heq] at hcolumn ⊢
    exact ⟨column, (hasColumn_append_iff hnodup hmem).mp hcolumn⟩

/-! ## Validation -/

/-- What is sound of all conditions, sorted by the kinds of conditions. -/
theorem conditions_sound_iff {conditions : List Constraint} :
    (∀ part ∈ conditions, part.IsSound rules ss)
      ↔ (∀ name? property expression, .contains name? (some property) expression ∈ conditions →
          ∀ c, rules.HasColumn ss name? property c → c.searchable = true)
        ∧ ∀ name? operator l, .compare (.name name?) operator (.literal l) ∈ conditions →
          l.type ∉ [.long, .double, .decimal, .boolean] := by
  constructor
  · intro h
    exact ⟨fun name? property expression hmem => h _ hmem, fun name? operator l hmem => h _ hmem⟩
  · rintro ⟨hsearchable, hnames⟩ part hpart
    unfold Constraint.IsSound
    split
    · exact hnames _ _ _ hpart
    · exact hsearchable _ _ _ hpart
    · trivial

/-- The references of a join condition in a source of distinct names. -/
theorem joinReferences_resolve_iff_of_walk {source : Source}
    (hdistinct : (source.selectors.map Selector.name).Nodup) {front back : List Node}
    {c : JoinCondition} (hwalk : Node.walkSource source = front ++ .joinCondition c :: back) :
    (∀ ref ∈ c.references, ref.Resolves rules (Node.declared front))
      ↔ (c.selectors.1 ∈ (Node.declared front).map Selector.name
          ∧ c.selectors.2 ∈ (Node.declared front).map Selector.name)
        ∧ (rules.checksColumns = true → ∀ ref ∈ c.references,
          ∀ property, ref.column? = some property →
            ∃ column, rules.HasColumn source.selectors ref.selector? property column) := by
  have hselectors : source.selectors
      = Node.declared front ++ Node.declared (.joinCondition c :: back) := by
    rw [← Node.declared_walkSource, hwalk, Node.declared_append]
  rw [hselectors] at hdistinct ⊢
  exact joinReferences_resolve_iff hdistinct c

/-- Validation accepts exactly the well-formed queries. -/
theorem resolve_iff_wellFormed (rules : ValidationRules) (q : Query) :
    (∃ r, rules.resolve q = .ok r) ↔ q.WellFormed rules := by
  have hknows : (q.source.selectors.map Selector.name).Nodup →
      ((Node.walkSource q.source).foldl ResolvedQuery.learn .empty).Knows q.source.selectors := by
    rw [← Node.declared_walkSource]
    exact knows_of_nodup .empty
  rw [exists_resolve_iff, follow_walkQuery_eq_nil_iff, follow_walkSource_eq_nil_iff]
  constructor
  · rintro ⟨⟨hdistinct, htables, hjoins⟩, hrest⟩
    obtain ⟨hreferences, hconditions⟩ :=
      (afterSource_sound_iff (hknows hdistinct) htables q).mp hrest
    obtain ⟨hsearchable, hnames⟩ := conditions_sound_iff.mp hconditions
    refine ⟨hdistinct, htables, fun front c back hwalk => ?_,
      fun ref href => (hreferences ref href).1, fun hchecks ref href => ?_, hsearchable, hnames⟩
    · obtain ⟨front', back', hwalk', rfl⟩ := Node.walkQuery_eq_append_joinCondition hwalk
      obtain ⟨hne, hresolve⟩ := hjoins front' c back' hwalk'
      exact ⟨hne, ((joinReferences_resolve_iff_of_walk hdistinct hwalk').mp hresolve).1⟩
    · rcases List.mem_append.mp href with href | href
      · obtain ⟨c, hc, href⟩ := List.mem_flatMap.mp href
        obtain ⟨front, back, hwalk⟩ :=
          List.append_of_mem (Node.joinCondition_mem_walkSource.mpr hc)
        have hresolve := (hjoins front c back hwalk).2
        exact ((joinReferences_resolve_iff_of_walk hdistinct hwalk).mp hresolve).2 hchecks ref href
      · exact (hreferences ref href).2 hchecks
  · intro h
    refine ⟨⟨h.distinct, h.tables, fun front c back hwalk => ?_⟩, ?_⟩
    · have hquery : Node.walkQuery q
          = (.query q :: front) ++ .joinCondition c :: (back ++ Node.afterSource q) := by
        rw [Node.walkQuery_eq, hwalk, List.append_assoc]
        rfl
      have hc : c ∈ q.source.conditions := by
        rw [← Node.joinCondition_mem_walkSource, hwalk]
        exact List.mem_append_right _ List.mem_cons_self
      obtain ⟨hne, hselectors⟩ := h.joins _ c _ hquery
      refine ⟨hne, (joinReferences_resolve_iff_of_walk h.distinct hwalk).mpr ⟨hselectors, ?_⟩⟩
      exact fun hchecks ref href => h.columns hchecks ref
        (List.mem_append_left _ (List.mem_flatMap.mpr ⟨c, hc, href⟩))
    · refine (afterSource_sound_iff (hknows h.distinct) h.tables q).mpr
        ⟨fun ref href => ⟨h.references ref href, fun hchecks => ?_⟩,
          conditions_sound_iff.mpr ⟨h.searchable, h.names⟩⟩
      exact h.columns hchecks ref (List.mem_append_right _ href)

end ValidationRules

end ContentSearch
