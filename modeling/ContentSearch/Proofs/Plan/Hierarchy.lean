import ContentSearch.Proofs.Plan.Answers
import ContentSearch.Proofs.Plan.Table

/-!
# Constraints by path

The constraints on a path ask for the entry at the path, for its children or for its descendants.
Planning takes the path to an identifier, and the index compares this with the identifier of an
entry, its nearest parent or all its parents. The main statement says what a query of a table with
such a constraint selects, if paths are resolved by the snapshot that is asked: whatever has been
added, replaced, moved and removed before, the identifier is that of an entry in use at the path.
-/

namespace ContentSearch

variable {engine : Regex.Engine}

/-! ## Relations to a path -/

/-- The relations of an entry to the entry at a path. -/
inductive PathRelation
  | same
  | child
  | descendant
  deriving DecidableEq

namespace PathRelation

/-- The constraint that asks for the entries in the relation to a path. -/
def constraint (name? : Option String) (path : String) : PathRelation → Constraint
  | same => .same name? path
  | child => .child name? path
  | descendant => .descendant name? path

/-- The field that is compared. -/
def field : PathRelation → String
  | same => Field.id
  | child => Field.parent
  | descendant => Field.ancestor

/-- Whether an entry is in the relation to the entry of an identifier. -/
def Holds (e : Entry) (identifier : String) : PathRelation → Prop
  | same => e.identifier = identifier
  | child => e.parent? = some identifier
  | descendant => identifier ∈ e.parents

variable {relation : PathRelation} {e : Entry}

/-- The terms of the compared field are the identifiers that the entry is in the relation to. -/
theorem mem_termsIn_field {t : String} : t ∈ e.termsIn relation.field ↔ relation.Holds e t := by
  cases relation with
  | same =>
    have hlisted : (Field.id, [e.identifier]) ∈ e.builtInTerms := by simp [Entry.builtInTerms]
    show t ∈ e.termsIn Field.id ↔ e.identifier = t
    rw [Entry.mem_termsIn_builtIn hlisted, List.mem_singleton, eq_comm]
  | child =>
    have hlisted : (Field.parent, e.parent?.toList) ∈ e.builtInTerms := by
      simp [Entry.builtInTerms]
    show t ∈ e.termsIn Field.parent ↔ e.parent? = some t
    rw [Entry.mem_termsIn_builtIn hlisted, Option.mem_toList]
  | descendant =>
    have hlisted : (Field.ancestor, e.parents) ∈ e.builtInTerms := by simp [Entry.builtInTerms]
    exact Entry.mem_termsIn_builtIn hlisted

/-- The nearest parent is one of the parents. -/
theorem descendant_of_child {identifier : String} (h : child.Holds e identifier) :
    descendant.Holds e identifier :=
  List.mem_of_mem_head? h

/-- An entry satisfies the predicate of a path if the path leads to an identifier that it is in the
relation to. -/
theorem satisfies_pathTerm (engine : Regex.Engine) {s : Scope} {path : String} :
    e.satisfies engine (s.pathTerm relation.field path) = true
      ↔ ∃ identifier, s.rules.resolvePath path = some identifier ∧ relation.Holds e identifier := by
  unfold Scope.pathTerm
  cases hresolve : s.rules.resolvePath path with
  | none => simp [Entry.satisfies]
  | some identifier =>
    simp only [Option.some.injEq, exists_eq_left', ← mem_termsIn_field]
    simp only [Entry.satisfies, Entry.anyTerm, FieldIndex.lookupKey, if_true, List.any_eq_true,
      beq_iff_eq, exists_eq_right]

/-- The constraint of a relation is planned as the predicate of its path. -/
theorem predicate_constraint {s : Scope} {name? : Option String} {path : String} {p : Predicate}
    (h : s.predicate (relation.constraint name? path) = .ok p) :
    p = s.pathTerm relation.field path := by
  cases relation with
  | same | child | descendant =>
    obtain ⟨found, -, rfl⟩ := Outcome.bind_ok_eq_ok h
    rfl

theorem predicate_constraint_of_selector {s : Scope} {found : PlanSelector}
    (hfound : s.selector none = .ok found) (path : String) :
    s.predicate (relation.constraint none path) = .ok (s.pathTerm relation.field path) := by
  cases relation with
  | same | child | descendant =>
    simp only [constraint, Scope.predicate, hfound, Outcome.ok_bind]
    rfl

/-- A reference without a name is valid in a query of one table. -/
theorem isValid_constraint (rules : ValidationRules) (s : Selector) (path : String) :
    (relation.constraint none path).IsValid rules s := by
  intro node hnode
  cases relation with
  | same | child | descendant =>
    obtain rfl := List.mem_singleton.mp hnode
    rfl

end PathRelation

/-! ## Tables -/

/-- A selector is expanded in the same way under any name. -/
theorem Plan.expandSelector_rename {rules : PlanRules} {levels : Nat} {name table : String}
    {found : PlanSelector} (h : expandSelector rules levels name table = .ok found)
    (other : String) :
    expandSelector rules levels other table = .ok { found with name := other } := by
  rw [expandSelector_eq_ok_iff] at h ⊢
  cases h with
  | base ht hbase => exact .base ht hbase
  | view ht hdefinition hsource hplan hselectors hbelow =>
    exact .view ht hdefinition hsource hplan hselectors hbelow

/-- An entry belongs to a table if it satisfies the predicate that a selector of the table is
expanded to: a base table is listed in the entry (`Entry.belongs_iff_of_base`), and of a view the
definitions hold on the way to its base table. -/
def Entry.Belongs (engine : Regex.Engine) (rules : PlanRules) (table : String) (e : Entry) : Prop :=
  ∃ found, Plan.expandSelector rules maxViewDepth table table = .ok found
    ∧ e.satisfies engine found.predicate = true

/-- The entries of a base table are those that are listed in it. -/
theorem Entry.belongs_iff_of_base {rules : PlanRules} {table : String} {t : Table}
    (ht : rules.schema.table? table = some t) (hbase : t.definition? = none) {e : Entry} :
    e.Belongs engine rules table ↔ table ∈ e.tables := by
  have hexpand : Plan.expandSelector rules maxViewDepth table table
      = .ok (Plan.baseSelector table table) := Plan.expandSelector_of_base ht hbase
  rw [Entry.Belongs, hexpand, ← List.contains_iff_mem, ← Plan.satisfies_table engine]
  constructor
  · intro ⟨found, hfound, hsatisfies⟩
    obtain rfl := Except.ok.inj hfound
    exact hsatisfies
  · intro hsatisfies
    exact ⟨_, rfl, hsatisfies⟩

/-- The entries of a table are those that the selector of a query of the table asks for, whichever
name it has. -/
theorem Entry.belongs_iff_of_expandSelector {rules : PlanRules} {name table : String}
    {found : PlanSelector} (h : Plan.expandSelector rules maxViewDepth name table = .ok found)
    {e : Entry} : e.Belongs engine rules table ↔ e.satisfies engine found.predicate = true := by
  have hexpand := Plan.expandSelector_rename h table
  rw [Entry.Belongs, hexpand]
  constructor
  · intro ⟨found', hfound', hsatisfies⟩
    obtain rfl := Except.ok.inj hfound'
    exact hsatisfies
  · intro hsatisfies
    exact ⟨_, rfl, hsatisfies⟩

/-! ## Entries at a path -/

/-- A path leads to an entry in use that has the path. -/
def Snapshot.Finds (s : Snapshot) (path : String) (target : Entry) : Prop :=
  s.resolve path = some target.identifier ∧ target.path? = some path
    ∧ ∃ d, s.entry? d = some target

/-- What a path leads to is the identifier of an entry in use at the path. -/
theorem Snapshot.Consistent.resolve_iff {s : Snapshot} (h : s.Consistent)
    {path identifier : String} :
    s.resolve path = some identifier
      ↔ ∃ target, s.Finds path target ∧ target.identifier = identifier := by
  constructor
  · intro hresolve
    obtain ⟨d, target, htarget, hid, hpath⟩ := h.resolve hresolve
    subst hid
    exact ⟨target, ⟨hresolve, hpath, d, htarget⟩, rfl⟩
  · intro ⟨target, hfinds, hid⟩
    rw [← hid]
    exact hfinds.1

namespace Plan

variable {rules : PlanRules} {q : Query} {selector : Selector} {relation : PathRelation}
  {path : String} {bindings : Bindings} {plan : Plan}

/-- The plan of a query of a table with a constraint by path asks for the table and for the relation
to what the path leads to. -/
theorem satisfies_path (hsource : q.source = .selector selector) {name? : Option String}
    (hconstraint : q.constraint? = some (relation.constraint name? path))
    (hplan : ofQuery rules q bindings = .ok plan) {e : Entry} :
    e.satisfies engine plan.predicate = true
      ↔ e.Belongs engine rules selector.table
        ∧ ∃ identifier, rules.resolvePath path = some identifier ∧ relation.Holds e identifier := by
  obtain ⟨s, found, hrules, -, hexpand, -, -, hpredicate, hmade, -⟩ :=
    ofQueryWith_of_selector hsource hplan
  rw [hconstraint] at hmade
  obtain ⟨p, hp, hsome⟩ := Outcome.map_eq_ok hmade
  obtain rfl := relation.predicate_constraint hp
  rw [Entry.belongs_iff_of_expandSelector hexpand, ← hrules,
    ← PathRelation.satisfies_pathTerm engine, hpredicate, ← hsome, Option.toList_some,
    Entry.satisfies_allOf]
  simp only [Entry.satisfiesAll, Bool.and_true, Bool.and_eq_true]

/-- There is a plan for every relation to a path in a table whose selector can be expanded. -/
theorem exists_plan_of_path {table : String} {found : PlanSelector}
    (hfound : expandSelector rules maxViewDepth table table = .ok found) (relation : PathRelation)
    (path : String) (bindings : Bindings) :
    ∃ plan, ofQuery rules (.ofTable table (relation.constraint none path)) bindings = .ok plan := by
  obtain ⟨s, -, -, hselector, hmake⟩ := exists_scope_of_expandSelector hfound
    (relation.isValid_constraint rules.validation ⟨table, none⟩ path) bindings
  obtain ⟨plan, hplan, -⟩ := hmake _ (relation.predicate_constraint_of_selector hselector path)
  exact ⟨plan, hplan⟩

end Plan

/-! ## Answers -/

/-- The documents that answer the constraints by a path in a snapshot, for a table with certain
entries. -/
structure Snapshot.AnswersPath (s : Snapshot) (belongs : Entry → Prop) (path : String)
    (docs : PathRelation → DocSet) : Prop where
  /-- The answer are the entries of the table in relation to the entry that the path leads to. -/
  mem_iff : ∀ {relation d}, d ∈ docs relation ↔ ∃ e, s.entry? d = some e ∧ belongs e
    ∧ ∃ target, s.Finds path target ∧ PathRelation.Holds e target.identifier relation
  /-- At most one entry is at the path, -/
  same_unique : ∀ {d d'}, d ∈ docs .same → d' ∈ docs .same → d = d'
  /-- and it has the path. -/
  same_path : ∀ {d}, d ∈ docs .same → ∃ e, s.entry? d = some e ∧ belongs e ∧ e.path? = some path
  child_subset : ∀ {d}, d ∈ docs .child → d ∈ docs .descendant
  unresolved : s.resolve path = none → ∀ relation d, d ∉ docs relation

/-- Everything else follows from what the answers are. -/
theorem Snapshot.Consistent.answersPath {s : Snapshot} (h : s.Consistent) {belongs : Entry → Prop}
    {path : String} {docs : PathRelation → DocSet}
    (hdocs : ∀ relation d, d ∈ docs relation ↔ ∃ e, s.entry? d = some e ∧ belongs e
      ∧ ∃ identifier, s.resolve path = some identifier ∧ relation.Holds e identifier) :
    s.AnswersPath belongs path docs := by
  have hmem : ∀ {relation d}, d ∈ docs relation ↔ ∃ e, s.entry? d = some e ∧ belongs e
      ∧ ∃ target, s.Finds path target ∧ PathRelation.Holds e target.identifier relation := by
    intro relation d
    simp only [hdocs, h.resolve_iff]
    simp
  have hsame : ∀ {d}, d ∈ docs .same → ∃ e, s.entry? d = some e ∧ belongs e ∧ s.Finds path e := by
    intro d hd
    obtain ⟨e, he, hbelongs, target, hfinds, hid⟩ := hmem.mp hd
    obtain ⟨d', htarget⟩ := hfinds.2.2
    -- one identifier has one number, and one number has one entry
    obtain rfl := h.doc_unique he htarget hid
    obtain rfl := Option.some.inj (he.symm.trans htarget)
    exact ⟨e, he, hbelongs, hfinds⟩
  refine ⟨hmem, ?_, ?_, ?_, ?_⟩
  · intro d d' hd hd'
    obtain ⟨e, he, -, hresolve, -⟩ := hsame hd
    obtain ⟨e', he', -, hresolve', -⟩ := hsame hd'
    exact h.doc_unique he he' (Option.some.inj (hresolve.symm.trans hresolve'))
  · intro d hd
    obtain ⟨e, he, hbelongs, -, hpath, -⟩ := hsame hd
    exact ⟨e, he, hbelongs, hpath⟩
  · intro d hd
    obtain ⟨e, he, hbelongs, target, hfinds, hchild⟩ := hmem.mp hd
    exact hmem.mpr ⟨e, he, hbelongs, target, hfinds, PathRelation.descendant_of_child hchild⟩
  · intro hnone relation d hd
    obtain ⟨-, -, -, identifier, hresolve, -⟩ := (hdocs relation d).mp hd
    rw [hnone] at hresolve
    cases hresolve

namespace Plan

/-- Queries of a table with a constraint by path, for every history of the index that is both asked
and used to resolve the path. Their plans, which exist if the selector of the table can be expanded,
and so for every base table, have one answer for each relation. It is made of the entries of the
table that are at the path, whose nearest parent is at the path, or that have a parent at the path.
The entries of a base table are those that are listed in it. Of the engine nothing is asked but that
it refuses no expression in the definitions of the views, which are all well-formed. -/
theorem answersPath_ofQuery {history : List Change} {rules : PlanRules}
    (hresolver : rules.resolvePath = (Snapshot.ofHistory history).resolve) (table path : String) :
    (∀ found, expandSelector rules maxViewDepth table table = .ok found →
        ∀ (relation : PathRelation) (bindings : Bindings), ∃ plan,
          ofQuery rules (.ofTable table (relation.constraint none path)) bindings = .ok plan)
      ∧ (∀ t, rules.schema.table? table = some t → t.definition? = none →
          ∀ e : Entry, e.Belongs engine rules table ↔ table ∈ e.tables)
      ∧ ∃ docs : PathRelation → DocSet,
        (Snapshot.ofHistory history).AnswersPath (Entry.Belongs engine rules table) path docs
        ∧ ∀ (relation : PathRelation) (alias? name? : Option String) (q : Query)
            (bindings : Bindings) (plan : Plan), q.source = .selector ⟨table, alias?⟩ →
          q.constraint? = some (relation.constraint name? path) →
          ofQuery rules q bindings = .ok plan → plan.predicate.Admitted engine →
          (Snapshot.ofHistory history).evaluateWith engine plan.predicate
            = .ok (docs relation) := by
  classical
  have hconsistent := Snapshot.consistent_ofHistory history
  refine ⟨fun found hfound relation bindings => exists_plan_of_path hfound relation path bindings,
    fun t ht hbase e => Entry.belongs_iff_of_base ht hbase,
    fun relation => (Snapshot.ofHistory history).docsWhere fun e =>
      decide (e.Belongs engine rules table
        ∧ ∃ identifier, rules.resolvePath path = some identifier ∧ relation.Holds e identifier),
    hconsistent.answersPath fun relation d => ?_, ?_⟩
  · rw [hconsistent.mem_docsWhere]
    simp only [Snapshot.Passes, decide_eq_true_eq, hresolver]
  · intro relation alias? name? q bindings plan hsource hconstraint hplan hadmitted
    have hcompiles := (isWellWritten_ofQuery hplan).compiles hadmitted
    refine (hconsistent.evaluateWith_eq_docsWhere fun e => ?_).2 hcompiles
    rw [Bool.eq_iff_iff, decide_eq_true_eq]
    exact satisfies_path hsource hconstraint hplan

/-- A book is moved away, the shelf at the path is taken out and another one put there, with a book
that has a book of its own. -/
def movedBooks : List Change :=
  [.insert ((book "s" "Shelf" []).withPath "/shelf"),
    .insert (((book "a" "Emma" []).withPath "/shelf/a").withParents ["s"]),
    .insert (((book "b" "Notes" []).withPath "/shelf/a/b").withParents ["a", "s"]),
    .insert (((book "a" "Emma" []).withPath "/desk/a").withParents ["desk"]),
    .remove "s", .insert ((book "t" "Shelf" []).withPath "/shelf"),
    .insert (((book "c" "Moby" []).withPath "/shelf/c").withParents ["t"]),
    .insert (((book "d" "Notes" []).withPath "/shelf/c/d").withParents ["c", "t"])]

def movedRules : PlanRules :=
  { bookRules with resolvePath := (Snapshot.ofHistory movedBooks).resolve }

/-- The new shelf is at the path, with one book as its child and two as its descendants. -/
theorem answersPath_ofQuery_movedBooks :
    movedRules.resolvePath = (Snapshot.ofHistory movedBooks).resolve
      ∧ ∃ docs : PathRelation → DocSet,
        (Snapshot.ofHistory movedBooks).AnswersPath (Entry.Belongs Regex.engine movedRules "book")
          "/shelf" docs
        ∧ (docs .same).toList = [4] ∧ (docs .child).toList = [5]
        ∧ (docs .descendant).toList = [5, 6] := by
  have hresolver : movedRules.resolvePath = (Snapshot.ofHistory movedBooks).resolve := rfl
  obtain ⟨-, -, docs, hanswers, hdocs⟩ := answersPath_ofQuery hresolver "book" "/shelf"
  -- what the plan of a relation selects is its answer
  have hlist : ∀ (relation : PathRelation) (found : List Nat),
      (ofQuery movedRules (.ofTable "book" (relation.constraint none "/shelf"))
        OrderedMap.empty).toOption.map
        (fun plan => ((Snapshot.ofHistory movedBooks).evaluateWith Regex.engine
          plan.predicate).toOption.map (·.toList)) = some (some found) →
      (docs relation).toList = found := by
    intro relation found hfound
    obtain ⟨plan, hplan, hfound⟩ := Option.map_eq_some_iff.mp hfound
    have hok := hdocs relation none none _ _ plan rfl rfl (Outcome.toOption_eq_some hplan)
      plan.predicate.admitted_engine
    rw [hok] at hfound
    exact Option.some.inj hfound
  refine ⟨hresolver, docs, hanswers, hlist .same [4] ?_, hlist .child [5] ?_,
    hlist .descendant [5, 6] ?_⟩
  · decide +kernel
  · decide +kernel
  · decide +kernel

end Plan

end ContentSearch
