import ContentSearch.Proofs.Index.Field
import ContentSearch.Proofs.Plan.Expansion
import ContentSearch.Proofs.Plan.Relation

/-!
# The meaning of constraints

What a constraint made of comparisons says of an entry can be read on the values of the entry. The
main statement is that the plan of a query of one table selects the entries of the table that its
constraint is true of, for every history of the index.
-/

namespace ContentSearch

/-! ## Reading a constraint -/

/-- The simple values that a property holds. -/
def PropertyContent.simpleValues : PropertyContent → List Value
  | .values vs => vs
  | .binary _ => []

/-- The simple values of all properties of a name. -/
def Entry.valuesOf (e : Entry) (property : String) : List Value :=
  (e.properties.filter fun p => p.name == property).flatMap (·.content.simpleValues)

/-- The value on the right of a comparison. -/
def StaticOperand.value? (bindings : Bindings) : StaticOperand → Option Value
  | .literal l => some l.value
  | .variable name => bindings.get? name

namespace Constraint

/-- Whether a comparison of a column is true of an entry: the value on the right is taken in the
type of the column, and the operator holds among the values of the entry. -/
def holdsComparison (t : Table) (bindings : Bindings) (e : Entry) (property : String)
    (op : Operator) (right : StaticOperand) : Bool :=
  match t.column? property, right.value? bindings with
  | some column, some v =>
    match v.cast column.type with
    | .ok w => op.holdsAmong (fun op x => x.relates op w) (e.valuesOf property)
    | .error _ => false
  | _, _ => false

/-- Whether a constraint made of comparisons of columns is true of an entry. -/
def holds (t : Table) (bindings : Bindings) (e : Entry) : Constraint → Bool
  | .and left right => left.holds t bindings e && right.holds t bindings e
  | .or left right => left.holds t bindings e || right.holds t bindings e
  | .not c => !c.holds t bindings e
  | .compare (.property ref) op right =>
    holdsComparison t bindings e ref.property op right
  | _ => false

/-- The constraint is made of comparisons of columns, each of which satisfies a condition on its
name and type. Patterns are no comparisons. -/
def ComparesColumns (t : Table) (condition : String → PropertyType → Prop) : Constraint → Prop
  | .and left right | .or left right =>
    left.ComparesColumns t condition ∧ right.ComparesColumns t condition
  | .not c => c.ComparesColumns t condition
  | .compare (.property ref) op _ =>
    op ≠ .like ∧ ∃ column, t.column? ref.property = some column
      ∧ condition ref.property column.type
  | _ => False

end Constraint

/-- What entries of a table store under a name: the name is plain, and all values are simple values
of one type, which has an order. -/
structure Snapshot.Stores (s : Snapshot) (table property : String) (type : PropertyType) :
    Prop where
  plain : Field.IsPlain property
  ordered : type.isOrdered = true
  simple : ∀ {d e}, s.entry? d = some e → table ∈ e.tables →
    ∀ p ∈ e.properties, p.name = property →
      ∃ vs, p.content = .values vs ∧ ∀ v ∈ vs, v.isLike type = true

/-! ## Terms and values -/

theorem Entry.mem_valuesOf {e : Entry} {property : String} {v : Value} :
    v ∈ e.valuesOf property
      ↔ ∃ p ∈ e.properties, p.name = property ∧ v ∈ p.content.simpleValues := by
  simp only [valuesOf, List.mem_flatMap, List.mem_filter, beq_iff_eq, and_assoc]

namespace Snapshot.Stores

variable {s : Snapshot} {table property : String} {type : PropertyType} {d : Nat} {e : Entry}

theorem isLike_of_mem (h : s.Stores table property type) (he : s.entry? d = some e)
    (htable : table ∈ e.tables) {v : Value} (hv : v ∈ e.valuesOf property) :
    v.isLike type = true := by
  obtain ⟨p, hp, hname, hv⟩ := Entry.mem_valuesOf.mp hv
  obtain ⟨vs, hcontent, hall⟩ := h.simple he htable p hp hname
  rw [hcontent] at hv
  exact hall v hv

/-- The terms in the field of the property are the terms of its values. -/
theorem mem_termsIn (h : s.Stores table property type) (hplain : Field.IsPlain table)
    (he : s.entry? d = some e) (htable : table ∈ e.tables) (t : String) :
    t ∈ e.termsIn (Field.property table property)
      ↔ ∃ v ∈ e.valuesOf property, Term.ofValue v = t := by
  rw [Entry.mem_termsIn_property hplain h.plain]
  simp only [Entry.mem_valuesOf]
  constructor
  · rintro ⟨-, p, hp, hname, ht⟩
    obtain ⟨vs, hcontent, -⟩ := h.simple he htable p hp hname
    rw [hcontent] at ht
    obtain ⟨v, hv, rfl⟩ := List.mem_map.mp ht
    exact ⟨v, ⟨p, hp, hname, by rwa [hcontent]⟩, rfl⟩
  · rintro ⟨v, ⟨p, hp, hname, hv⟩, rfl⟩
    obtain ⟨vs, hcontent, -⟩ := h.simple he htable p hp hname
    refine ⟨htable, p, hp, hname, ?_⟩
    rw [hcontent] at hv ⊢
    exact List.mem_map_of_mem hv

/-- An operator holds among the terms of a property if it holds among the values. -/
theorem holdsAmong_terms (h : s.Stores table property type) (hplain : Field.IsPlain table)
    (he : s.entry? d = some e) (htable : table ∈ e.tables) {w : Value} (hw : w.type = type)
    (op : Operator) :
    op.holdsAmong (fun op t => op.relates t (Term.ofValue w))
        (e.termsIn (Field.property table property))
      = op.holdsAmong (fun op v => v.relates op w) (e.valuesOf property) := by
  refine Operator.holdsAmong_map (h.mem_termsIn hplain he htable) (fun op v hv => ?_) op
  subst hw
  exact Value.relates_eq_terms h.ordered (h.isLike_of_mem he htable hv) op

end Snapshot.Stores

/-! ## Scopes of one table -/

namespace Scope

/-- All references of the scope lead to a base table. -/
structure IsOver (s : Scope) (t : Table) (table : String) : Prop where
  caseSensitive : s.rules.caseSensitive = true
  table? : s.rules.schema.table? table = some t
  selector : ∀ {name? found}, s.selector name? = .ok found →
    ∃ name, found = Plan.baseSelector name table

variable {s : Scope} {t : Table} {table : String}

theorem value_eq_ok : ∀ {right : StaticOperand} {v : Value}, s.value right = .ok v →
    right.value? s.bindings = some v
  | .literal l, v, h => congrArg some (Except.ok.inj h)
  | .variable name, v, h => by
    rw [value] at h
    show s.bindings.get? name = some v
    cases hget : s.bindings.get? name with
    | none =>
      rw [hget] at h
      cases h
    | some bound =>
      rw [hget] at h
      exact congrArg some (Except.ok.inj h)

/-- The comparison of a column is planned as a predicate on the field of the column. -/
theorem IsOver.comparison_eq_ok (hs : s.IsOver t table) {ref : PropertyRef} {op : Operator}
    (hlike : op ≠ .like) {column : Column} (hcolumn : t.column? ref.property = some column)
    {v : Value} {p : Predicate} (h : s.comparison (.property ref) op v = .ok p) :
    ∃ w, v.cast column.type = .ok w
      ∧ p = Comparison.termPredicate op (Field.property table ref.property)
        (Term.ofValue w) := by
  simp only [comparison, plainComparison] at h
  obtain ⟨found, hfound, h⟩ := Outcome.bind_eq_ok h
  obtain ⟨name, rfl⟩ := hs.selector hfound
  have hcolumn? : s.column? (Plan.baseSelector name table) ref.property = some column := by
    rw [column?]
    show (s.rules.schema.table? table).bind _ = _
    rw [hs.table?]
    exact hcolumn
  simp only [hcolumn?, Option.map_some] at h
  exact Comparison.onProperty_eq_ok hs.caseSensitive hlike (Outcome.mapError_eq_ok h)

end Scope

/-- A predicate tests the entries of a table in a snapshot: it has no expressions, and whichever
engine there is, an entry of the table satisfies it if the entry passes the test. -/
structure Predicate.Tests (p : Predicate) (s : Snapshot) (table : String) (test : Entry → Bool) :
    Prop where
  expressions : p.expressions = []
  satisfies : ∀ {engine d e}, s.entry? d = some e → table ∈ e.tables →
    e.satisfies engine p = test e

namespace Scope

variable {s : Scope} {t : Table} {table : String} {snapshot : Snapshot}

/-- If two constraints are planned as tests of what they say, so are both of them together. -/
theorem tests_connective {join : Constraint → Constraint → Constraint}
    {combine : List Predicate → Predicate} (hjoin : Plan.IsPlannedAs join combine)
    {left right : Constraint}
    (hleft : ∀ {p}, s.predicate left = .ok p →
      p.Tests snapshot table (left.holds t s.bindings))
    (hright : ∀ {p}, s.predicate right = .ok p →
      p.Tests snapshot table (right.holds t s.bindings))
    {p : Predicate} (h : s.predicate (join left right) = .ok p) :
    p.Tests snapshot table ((join left right).holds t s.bindings) := by
  obtain ⟨first, second, hfirst, hsecond, rfl⟩ := hjoin.exists_of_predicate h
  have hfirst := hleft hfirst
  have hsecond := hright hsecond
  constructor
  · cases hjoin <;> simp [hfirst.expressions, hsecond.expressions]
  · intro engine d e he htable
    cases hjoin <;>
      simp [Predicate.allOf, Predicate.anyOf, Entry.satisfies, Entry.satisfiesAll,
        Entry.satisfiesAny, Constraint.holds, hfirst.satisfies he htable,
        hsecond.satisfies he htable]

/-- The predicate of a constraint tests the entries of the table for what the constraint says. -/
theorem IsOver.predicate_tests (hs : s.IsOver t table) (hplain : Field.IsPlain table)
    {c : Constraint} (hc : c.ComparesColumns t (snapshot.Stores table)) {p : Predicate}
    (h : s.predicate c = .ok p) : p.Tests snapshot table (c.holds t s.bindings) := by
  -- one constructor of constraints is one constructor of predicates, down to the comparisons
  induction c generalizing p with
  | and left right ihl ihr => exact tests_connective .and (ihl hc.1) (ihr hc.2) h
  | or left right ihl ihr => exact tests_connective .or (ihl hc.1) (ihr hc.2) h
  | not c ih =>
    rw [predicate] at h
    obtain ⟨inner, hinner, rfl⟩ := Outcome.map_eq_ok h
    obtain ⟨hexpressions, hsatisfies⟩ := ih hc hinner
    refine ⟨by rw [Predicate.expressions_complement, hexpressions], fun he htable => ?_⟩
    simp [Predicate.complement, Predicate.without, Entry.satisfies, Entry.satisfiesAll,
      Entry.satisfiesAny, Constraint.holds, hsatisfies he htable]
  | compare left op right =>
    cases left with
    | property ref =>
      obtain ⟨hlike, column, hcolumn, hstores⟩ := hc
      rw [predicate] at h
      obtain ⟨-, -, h⟩ := Outcome.bind_eq_ok h
      obtain ⟨v, hv, h⟩ := Outcome.bind_eq_ok h
      -- the cast that planning made is the one in the meaning of the comparison
      obtain ⟨w, hw, rfl⟩ := hs.comparison_eq_ok hlike hcolumn h
      refine ⟨Comparison.expressions_termPredicate op _ _, fun he htable => ?_⟩
      rw [Comparison.satisfies_termPredicate _ _ hlike,
        hstores.holdsAmong_terms hplain he htable (Value.type_cast hw)]
      simp only [Constraint.holds, Constraint.holdsComparison, hcolumn, value_eq_ok hv, hw]
    | _ => cases hc
  | _ => cases hc

end Scope

/-! ## Plans -/

namespace Plan

/-- The plan of a query of a base table asks for its table and its constraint, in a scope over the
table. -/
theorem predicate_of_base {rules : PlanRules} (hcase : rules.caseSensitive = true) {q : Query}
    {selector : Selector} (hsource : q.source = .selector selector) {c : Constraint}
    (hconstraint : q.constraint? = some c) {t : Table}
    (ht : rules.schema.table? selector.table = some t) (hbase : t.definition? = none)
    {bindings : Bindings} {plan : Plan} (h : ofQuery rules q bindings = .ok plan) :
    ∃ s : Scope, s.IsOver t selector.table ∧ s.bindings = bindings
      ∧ ∃ p, s.predicate c = .ok p
        ∧ plan.predicate = .allOf [.term Field.table selector.table true, p] := by
  obtain ⟨s, rfl, rfl, hresolved, hselectors, -, hp, -, -, -, -, hpredicate, -⟩ :=
    ofQueryWith_eq_ok h
  rw [hconstraint] at hp
  obtain ⟨p, hp, hsome⟩ := Outcome.map_eq_ok hp
  have hselectors := selectors_of_base hsource ht hbase hresolved hselectors
  refine ⟨s, ⟨hcase, ht, fun hfound => ⟨selector.name, ?_⟩⟩, rfl, p, hp, ?_⟩
  · -- the scope has one selector, whichever name is asked for
    exact Scope.eq_of_selector hselectors hfound
  · rw [hpredicate, hselectors, ← hsome]
    rfl

/-- A base table is asked for by its name. -/
theorem satisfies_table (engine : Regex.Engine) (e : Entry) (table : String) :
    e.satisfies engine (.term Field.table table true) = e.tables.contains table := by
  rw [Bool.eq_iff_iff]
  simp only [Entry.satisfies, Entry.anyTerm, FieldIndex.lookupKey, if_true, List.any_eq_true,
    beq_iff_eq, exists_eq_right, Entry.mem_termsIn_table, List.contains_iff_mem]

/-- An entry satisfies the predicate of a plan of a base table if it is in the table and satisfies
the rest. -/
theorem satisfies_inTable (engine : Regex.Engine) (e : Entry) (table : String) (p : Predicate) :
    e.satisfies engine (.allOf [.term Field.table table true, p])
      = (e.tables.contains table && e.satisfies engine p) := by
  rw [← satisfies_table engine]
  simp [Predicate.allOf, Entry.satisfies, Entry.satisfiesAll, Entry.satisfiesAny]

/-- The plan of a query of a base table, with regard to case, selects exactly the entries of the
table that the constraint of the query is true of, whatever has been added and removed before. The
names are plain, and the constraint is made of comparisons of columns whose stored values are
simple values of the type of the column, and this type has an order. -/
theorem evaluateWith_ofQuery (engine : Regex.Engine) (history : List Change) {rules : PlanRules}
    (hcase : rules.caseSensitive = true) {q : Query} {selector : Selector}
    (hsource : q.source = .selector selector) {c : Constraint}
    (hconstraint : q.constraint? = some c) {t : Table}
    (ht : rules.schema.table? selector.table = some t) (hbase : t.definition? = none)
    (hplain : Field.IsPlain selector.table)
    (hcolumns : c.ComparesColumns t ((Snapshot.ofHistory history).Stores selector.table))
    {bindings : Bindings} {plan : Plan} (hplan : ofQuery rules q bindings = .ok plan) :
    (Snapshot.ofHistory history).evaluateWith engine plan.predicate
      = .ok ((Snapshot.ofHistory history).docsWhere fun e =>
          e.tables.contains selector.table && c.holds t bindings e) := by
  have h := Snapshot.consistent_ofHistory history
  obtain ⟨s, hs, rfl, p, hp, hpredicate⟩ :=
    predicate_of_base hcase hsource hconstraint ht hbase hplan
  obtain ⟨hexpressions, hsatisfies⟩ := hs.predicate_tests hplain hcolumns hp
  have hcompiles : plan.predicate.compiles engine = true := by
    apply Predicate.compiles_of_expressions
    rw [hpredicate, Predicate.expressions_allOf]
    simp [Predicate.expressions, hexpressions]
  obtain ⟨docs, hok⟩ := Snapshot.evaluateWith_isOk (s := Snapshot.ofHistory history) hcompiles
  rw [hok]
  refine congrArg Except.ok (SortedSet.eq_of_mem_iff fun d => ?_)
  rw [h.mem_evaluateWith hok, h.mem_docsWhere]
  refine Snapshot.passes_congr fun e he => ?_
  rw [hpredicate, satisfies_inTable]
  -- nothing is known of the values of entries outside of the table, and nothing is needed
  by_cases htable : selector.table ∈ e.tables
  · rw [hsatisfies he htable]
  · have hnot : e.tables.contains selector.table = false := by simpa using htable
    rw [hnot, Bool.false_and, Bool.false_and]

/-! ## A shelf of books -/

/-- Books have a title and numbers of pages. -/
def bookTable : Table :=
  Table.ofColumns "book" [Column.plain "title" .string, Column.plain "pages" .long]

def bookRules : PlanRules :=
  { schema := Schema.empty.withTable bookTable
    caseSensitive := true
    checksColumns := true
    resolvePath := fun _ => none }

def book (identifier title : String) (pages : List Int64) : Entry :=
  (((Entry.named identifier identifier).inTable "book").withProperty
    (Property.single "title" (Value.string title))).withProperty
    (Property.multi "pages" .long (pages.map Value.long))

/-- A book is taken out and put back, and there is an entry that is no book. -/
def shelf : List Change :=
  [.insert (book "a" "Moby" [-5, 700]), .insert (book "b" "Emma" []),
    .insert (Entry.named "c" "c"), .insert (book "d" "Emma" [300]), .remove "a",
    .insert (book "a" "Moby" [-5, 700])]

/-- No number of pages is above a limit, and the title is not Emma or some number of pages is
small. -/
def shelfConstraint : Constraint :=
  .and (.not (.compare (.property ⟨none, "pages"⟩) .greaterThan (.variable "limit")))
    (.or (.compare (.property ⟨some "book", "title"⟩) .notEqualTo
        (.literal (Literal.ofValue (Value.string "Emma"))))
      (.compare (.property ⟨none, "pages"⟩) .lessThan
        (.literal (Literal.ofValue (Value.string " -3 ")))))

def shelfQuery : Query :=
  (Query.all (.selector ⟨"book", none⟩)).withConstraint shelfConstraint

def shelfBindings : Bindings :=
  OrderedMap.empty.insert "limit" (.long 800)

/-- The entries of the shelf, under their numbers. -/
theorem entries_shelf : (Snapshot.ofHistory shelf).entries.entries
    = [(1, book "b" "Emma" []), (2, Entry.named "c" "c"), (3, book "d" "Emma" [300]),
      (4, book "a" "Moby" [-5, 700])] := by
  decide

/-- Whatever is on the shelf is a book, but for one entry. -/
theorem mem_shelf {d : Nat} {e : Entry}
    (he : Snapshot.entry? (Snapshot.ofHistory shelf) d = some e) :
    (∃ identifier title pages, e = book identifier title pages) ∨ e = Entry.named "c" "c" := by
  have hmem := OrderedMap.get?_eq_some_iff.mp he
  simp only [entries_shelf, List.mem_cons, Prod.mk.injEq, List.not_mem_nil, or_false] at hmem
  rcases hmem with ⟨-, rfl⟩ | ⟨-, rfl⟩ | ⟨-, rfl⟩ | ⟨-, rfl⟩
  · exact Or.inl ⟨_, _, _, rfl⟩
  · exact Or.inr rfl
  · exact Or.inl ⟨_, _, _, rfl⟩
  · exact Or.inl ⟨_, _, _, rfl⟩

/-- A book has a title and numbers of pages. -/
theorem mem_properties_book {identifier title : String} {pages : List Int64} {p : Property}
    (hp : p ∈ (book identifier title pages).properties) :
    p = Property.single "title" (Value.string title)
      ∨ p = Property.multi "pages" .long (pages.map Value.long) := by
  simpa [book, Entry.withProperty, Entry.inTable, Entry.named] using hp

/-- The titles on the shelf are texts. -/
theorem shelf_stores_title : (Snapshot.ofHistory shelf).Stores "book" "title" .string where
  plain := by decide
  ordered := rfl
  simple := by
    intro d e he htable p hp hname
    rcases mem_shelf he with ⟨identifier, title, pages, rfl⟩ | rfl
    · rcases mem_properties_book hp with rfl | rfl
      · refine ⟨[Value.string title], rfl, fun v hv => ?_⟩
        obtain rfl := List.mem_singleton.mp hv
        rfl
      · exact absurd hname (by decide : "pages" ≠ "title")
    · cases htable

/-- The numbers of pages on the shelf are integers. -/
theorem shelf_stores_pages : (Snapshot.ofHistory shelf).Stores "book" "pages" .long where
  plain := by decide
  ordered := rfl
  simple := by
    intro d e he htable p hp hname
    rcases mem_shelf he with ⟨identifier, title, pages, rfl⟩ | rfl
    · rcases mem_properties_book hp with rfl | rfl
      · exact absurd hname (by decide : "title" ≠ "pages")
      · refine ⟨pages.map Value.long, rfl, fun v hv => ?_⟩
        obtain ⟨n, -, rfl⟩ := List.mem_map.mp hv
        rfl
    · cases htable

/-- The limit excludes no book, and both books called Emma fail the second half of the constraint:
one has no number of pages, the other a large one. The text is cast to a number. -/
theorem evaluateWith_ofQuery_shelf :
    ∃ plan, ofQuery bookRules shelfQuery shelfBindings = .ok plan
      ∧ (Snapshot.ofHistory shelf).evaluateWith Regex.engine plan.predicate
        = .ok ((Snapshot.ofHistory shelf).docsWhere fun e =>
          e.tables.contains "book" && shelfConstraint.holds bookTable shelfBindings e)
      ∧ ((Snapshot.ofHistory shelf).docsWhere fun e =>
          e.tables.contains "book" && shelfConstraint.holds bookTable shelfBindings e).toList
        = [4] := by
  have hisOk : (ofQuery bookRules shelfQuery shelfBindings).isOk = true := by decide +kernel
  have hcolumns : shelfConstraint.ComparesColumns bookTable
      ((Snapshot.ofHistory shelf).Stores "book") :=
    ⟨⟨by decide, _, rfl, shelf_stores_pages⟩,
      ⟨by decide, _, rfl, shelf_stores_title⟩, ⟨by decide, _, rfl, shelf_stores_pages⟩⟩
  obtain ⟨plan, hplan⟩ := Outcome.exists_of_isOk hisOk
  refine ⟨plan, hplan, ?_, by decide +kernel⟩
  have hsource : shelfQuery.source = .selector ⟨"book", none⟩ := rfl
  have htable : bookRules.schema.table? "book" = some bookTable := rfl
  exact evaluateWith_ofQuery Regex.engine shelf rfl hsource rfl htable rfl (by decide +kernel)
    hcolumns hplan

end Plan

end ContentSearch
