import ContentSearch.Proofs.Index.Content
import ContentSearch.Proofs.Plan.View
import ContentSearch.Proofs.Text.Casing

/-!
# Answers within a base table

A query of a base table asks for the entries of the table that satisfy the predicate of its
constraint. What the predicate says of the entries in the table decides which documents answer it,
and two tests of entries select the same documents exactly if they agree on the entries in use that
are in the table. A comparison of a column of the table is planned on the field of the column.
-/

namespace ContentSearch

/-- Tests of the entries of a table agree if they agree on the entries in it. -/
theorem Entry.contains_and_eq_iff {e : Entry} {table : String} {a b : Bool} :
    (e.tables.contains table && a) = (e.tables.contains table && b)
      ↔ (table ∈ e.tables → a = b) := by
  rw [← List.contains_iff_mem]
  cases e.tables.contains table <;> simp

/-- An entry has a text in a field if it has a term that is looked up alike. -/
theorem Entry.satisfies_lookupKey (engine : Regex.Engine) (e : Entry) (field s : String)
    (caseSensitive : Bool) :
    e.satisfies engine (.term field (FieldIndex.lookupKey caseSensitive s) caseSensitive) = true
      ↔ ∃ t ∈ e.termsIn field,
        FieldIndex.lookupKey caseSensitive t = FieldIndex.lookupKey caseSensitive s := by
  rw [satisfies, anyTerm, List.any_eq_true]
  refine exists_congr fun t => and_congr_right fun _ => ?_
  rw [beq_iff_eq]
  cases caseSensitive with
  | true => exact Iff.rfl
  | false =>
    show Text.lower t = Text.lower (Text.lower s) ↔ _
    rw [Text.lower_lower]
    exact Iff.rfl

namespace Snapshot

variable {s : Snapshot} {table : String}

/-- The documents of the entries in a table that pass a test. -/
def docsIn (s : Snapshot) (table : String) (test : Entry → Bool) : DocSet :=
  s.docsWhere fun e => e.tables.contains table && test e

theorem Consistent.docsIn_eq_iff (h : s.Consistent) {test other : Entry → Bool} :
    s.docsIn table test = s.docsIn table other
      ↔ ∀ e ∈ s.liveEntries, table ∈ e.tables → test e = other e := by
  rw [docsIn, docsIn, h.docsWhere_eq_iff]
  simp only [Entry.contains_and_eq_iff]

/-- A predicate is asked together with its table. -/
theorem Consistent.evaluateWith_inTable (h : s.Consistent) (table : String)
    {engine : Regex.Engine} {p : Predicate} (hcompiles : p.compiles engine = true)
    {test : Entry → Bool} (htest : ∀ e : Entry, table ∈ e.tables → e.satisfies engine p = test e) :
    s.evaluateWith engine (.allOf [.term Field.table table true, p])
      = .ok (s.docsIn table test) := by
  refine (h.evaluateWith_eq_docsWhere fun e => ?_).2 ?_
  · rw [Plan.satisfies_inTable, Entry.contains_and_eq_iff]
    exact htest e
  · rw [Predicate.compiles_allOf, Predicate.allCompile, Predicate.allCompile, hcompiles]
    rfl

/-- The answer is the one to another question if the two tests agree on the entries of the table. -/
theorem Consistent.evaluateWith_inTable_iff (h : s.Consistent) {engine : Regex.Engine}
    {p : Predicate} (hcompiles : p.compiles engine = true) {test asked : Entry → Bool}
    (htest : ∀ e : Entry, table ∈ e.tables → e.satisfies engine p = test e) :
    s.evaluateWith engine (.allOf [.term Field.table table true, p]) = .ok (s.docsIn table asked)
      ↔ ∀ e ∈ s.liveEntries, table ∈ e.tables → test e = asked e := by
  rw [h.evaluateWith_inTable table hcompiles htest, Except.ok.injEq, h.docsIn_eq_iff]

/-- An answer with other documents is another answer. -/
theorem evaluateWith_ne_ok {engine : Regex.Engine} {p : Predicate} {found asked : List Nat}
    {docs : DocSet} (hfound : (s.evaluateWith engine p).toOption.map (·.toList) = some found)
    (hasked : docs.toList = asked) (hne : asked ≠ found) : s.evaluateWith engine p ≠ .ok docs := by
  intro hsame
  rw [hsame] at hfound
  exact hne (hasked.symm.trans (Option.some.inj hfound))

end Snapshot

/-- The references of the scope mean a base table, whichever name they have. -/
structure Scope.MeansTable (s : Scope) (rules : PlanRules) (bindings : Bindings)
    (table : String) : Prop where
  rules_eq : s.rules = rules
  bindings_eq : s.bindings = bindings
  selector : ∀ {name? found}, s.selector name? = .ok found →
    ∃ name, found = Plan.baseSelector name table

/-- The plan of a query of a base table asks for the table and for the constraint, which is read in
a scope that means the table. -/
theorem Plan.exists_scope_of_ofQuery {rules : PlanRules} {q : Query} {selector : Selector}
    (hsource : q.source = .selector selector) {c : Constraint}
    (hconstraint : q.constraint? = some c) {t : Table}
    (ht : rules.schema.table? selector.table = some t) (hbase : t.definition? = none)
    {bindings : Bindings} {plan : Plan} (hplan : ofQuery rules q bindings = .ok plan) :
    ∃ s : Scope, s.MeansTable rules bindings selector.table
      ∧ ∃ p, s.predicate c = .ok p
        ∧ plan.predicate = .allOf [.term Field.table selector.table true, p] := by
  obtain ⟨s, found, hrules, hbindings, hexpand, honly, -, hpredicate, hmade, -⟩ :=
    ofQueryWith_of_selector hsource hplan
  rw [expandSelector_of_base ht hbase] at hexpand
  obtain rfl := Except.ok.inj hexpand
  rw [hconstraint] at hmade
  obtain ⟨p, hp, hsome⟩ := Outcome.map_eq_ok hmade
  refine ⟨s, ⟨hrules, hbindings, fun hfound => ⟨selector.name, honly hfound⟩⟩, p, hp, ?_⟩
  rw [hpredicate, ← hsome]
  rfl

/-- The column of a property of a selector of a base table. -/
theorem Scope.MeansTable.column? {s : Scope} {rules : PlanRules} {bindings : Bindings}
    {table : String} (hs : s.MeansTable rules bindings table) {t : Table}
    (ht : rules.schema.table? table = some t) (name property : String) :
    s.column? (Plan.baseSelector name table) property = t.column? property := by
  rw [Scope.column?, hs.rules_eq]
  show (rules.schema.table? table).bind _ = _
  rw [ht, Option.bind_some]

/-! ## Comparisons of a column -/

/-- A reference of the scope means a column of a base table. -/
structure Scope.ReadsColumn (s : Scope) (ref : PropertyRef) (table : String) (column : Column) :
    Prop where
  selector : ∃ name, s.selector ref.selector? = .ok (Plan.baseSelector name table)
  column? : ∀ name, s.column? (Plan.baseSelector name table) ref.property = some column

namespace Scope.ReadsColumn

variable {s : Scope} {ref : PropertyRef} {table : String} {column : Column}

/-- A comparison of the column is one on its field, in its type. -/
theorem plainComparison (h : s.ReadsColumn ref table column) (c : Comparison) :
    s.plainComparison (.property ref) c
      = (c.onProperty (Field.property table ref.property) (some column.type)).mapError
          .comparison := by
  obtain ⟨name, hselector⟩ := h.selector
  unfold Scope.plainComparison
  simp only [hselector, Outcome.ok_bind, h.column? name, Option.map_some]
  rfl

/-- An operator of the column passes, whatever functions the column stands in. -/
theorem checkOperator (h : s.ReadsColumn ref table column) {operand : Operand}
    (hoperand : restrictingProperty? operand = some ref) {op : Operator}
    (hallowed : column.supports op = true) : s.checkOperator operand op = .ok () := by
  obtain ⟨name, hselector⟩ := h.selector
  unfold Scope.checkOperator
  simp only [hoperand, hselector, Outcome.ok_bind, h.column? name, hallowed, if_true]

end Scope.ReadsColumn

/-- In a scope over a base table, a reference without a name reads the columns of the table. -/
theorem Scope.IsOfBase.readsColumn {s : Scope} {rules : PlanRules} {table property : String}
    (hs : s.IsOfBase rules table) {t : Table} (ht : rules.schema.table? table = some t)
    {column : Column} (hcolumn : t.column? property = some column) :
    s.ReadsColumn ⟨none, property⟩ table column := by
  refine ⟨hs.unnamed, fun name => ?_⟩
  rw [Scope.column?, hs.rules]
  show (rules.schema.table? table).bind _ = _
  rw [ht, Option.bind_some, hcolumn]

namespace Plan

variable {rules : PlanRules} {table property : String} {t : Table} {column : Column}
  {bindings : Bindings}

/-- The plan of a query of a base table that compares a column asks for the table and for the
predicate that the comparison has wherever the column is read. -/
theorem predicate_of_column (ht : rules.schema.table? table = some t) (hbase : t.definition? = none)
    (hcolumn : t.column? property = some column) {q : Query} {alias? name? : Option String}
    (hsource : q.source = .selector ⟨table, alias?⟩) {operand : Operand}
    (hoperand : Scope.restrictingProperty? operand = some ⟨name?, property⟩) {op : Operator}
    {right : StaticOperand} (hconstraint : q.constraint? = some (.compare operand op right))
    {v : Value} (hvalue : right.value? bindings = some v) {plan : Plan}
    (hplan : ofQuery rules q bindings = .ok plan) {p : Predicate}
    (hmake : ∀ s : Scope, s.rules = rules → s.ReadsColumn ⟨name?, property⟩ table column →
      s.comparison operand op v = .ok p) :
    plan.predicate = .allOf [.term Field.table table true, p] := by
  obtain ⟨s, hs, made, hmade, hpredicate⟩ :=
    exists_scope_of_ofQuery hsource hconstraint ht hbase hplan
  rw [Scope.predicate] at hmade
  obtain ⟨checked, hcheck, hmade⟩ := Outcome.bind_eq_ok hmade
  obtain ⟨found, hfound, hmade⟩ := Outcome.bind_eq_ok hmade
  have hread := Scope.value_eq_ok hfound
  rw [hs.bindings_eq, hvalue] at hread
  obtain rfl := Option.some.inj hread
  -- the check of the operator has looked the selector up
  rw [Scope.checkOperator, hoperand] at hcheck
  obtain ⟨selector, hselector, -⟩ := Outcome.bind_eq_ok hcheck
  obtain ⟨name, rfl⟩ := hs.selector hselector
  have hreads : s.ReadsColumn ⟨name?, property⟩ table column :=
    ⟨⟨name, hselector⟩, fun other => (hs.column? ht other property).trans hcolumn⟩
  rw [hmake s hs.rules_eq hreads] at hmade
  obtain rfl := Except.ok.inj hmade
  exact hpredicate

/-- A comparison that is valid in a query of a base table has a plan as soon as its operator passes
and it has a predicate. -/
theorem exists_plan_of_comparison (ht : rules.schema.table? table = some t)
    (hbase : t.definition? = none) {operand : Operand} {op : Operator} {v : Value}
    (hvalid : (Constraint.compare operand op (.literal (Literal.ofValue v))).IsValid
      rules.validation ⟨table, none⟩) (bindings : Bindings)
    (hmake : ∀ s : Scope, s.IsOfBase rules table → s.checkOperator operand op = .ok ()
      ∧ ∃ p, s.comparison operand op v = .ok p) :
    ∃ plan, ofQuery rules (.ofTable table
      (.compare operand op (.literal (Literal.ofValue v)))) bindings = .ok plan := by
  obtain ⟨s, hs, -, hplan⟩ := exists_scope_of_base ht hbase hvalid bindings
  obtain ⟨hcheck, p, hp⟩ := hmake s hs
  have hpredicate : s.predicate (.compare operand op (.literal (Literal.ofValue v))) = .ok p := by
    rw [Scope.predicate, hcheck, Outcome.ok_bind]
    exact hp
  obtain ⟨plan, hmade, -⟩ := hplan p hpredicate
  exact ⟨plan, hmade⟩

/-- An operand that is restricted by a column of the table is valid. -/
theorem isValid_of_column (ht : rules.schema.table? table = some t)
    (hcolumn : t.column? property = some column) {operand : Operand}
    (hoperand : Scope.restrictingProperty? operand = some ⟨none, property⟩) :
    operand.IsValid rules.validation ⟨table, none⟩ := by
  have hproperty : (Operand.property ⟨none, property⟩).IsValid rules.validation
      ⟨table, none⟩ := by
    intro node hnode
    obtain rfl := List.mem_singleton.mp hnode
    exact ValidationRules.propertyProblems_of_column ht hcolumn .property
  induction operand with
  | property ref =>
    obtain rfl := Option.some.inj hoperand
    exact hproperty
  | length ref =>
    obtain rfl := Option.some.inj hoperand
    exact Operand.isValid_length.mpr hproperty
  | upper inner ih => exact Operand.isValid_upper.mpr (ih hoperand)
  | lower inner ih => exact Operand.isValid_lower.mpr (ih hoperand)
  | _ => cases hoperand

/-- A comparison of a column of a base table, bare or within functions, by an operator that the
column allows has a plan if it has a predicate wherever the column is read. -/
theorem exists_plan_of_column (ht : rules.schema.table? table = some t)
    (hbase : t.definition? = none) (hcolumn : t.column? property = some column) {operand : Operand}
    (hoperand : Scope.restrictingProperty? operand = some ⟨none, property⟩) {op : Operator}
    (hallowed : column.supports op = true) {v : Value} (bindings : Bindings) {p : Predicate}
    (hmake : ∀ s : Scope, s.rules = rules → s.ReadsColumn ⟨none, property⟩ table column →
      s.comparison operand op v = .ok p) :
    ∃ plan, ofQuery rules (.ofTable table
      (.compare operand op (.literal (Literal.ofValue v)))) bindings = .ok plan := by
  have hproblems : rules.validation.constraintProblems (.ofSelector ⟨table, none⟩)
      (.compare operand op (.literal (Literal.ofValue v))) = [] := by
    cases operand with
    | name name? => cases hoperand
    | _ => rfl
  refine exists_plan_of_comparison ht hbase
    (Constraint.isValid_compare.mpr ⟨hproblems, isValid_of_column ht hcolumn hoperand⟩) bindings
    fun s hs => ?_
  have hreads := hs.readsColumn ht hcolumn
  exact ⟨hreads.checkOperator hoperand hallowed, p, hmake s hs.rules hreads⟩

end Plan

end ContentSearch
