import ContentSearch.Proofs.Plan.Existence
import ContentSearch.Proofs.Value.Term

/-!
# Equality with a value

A column is compared by equality through the term of the value, so that an entry can be found for a
value that is only taken for the one that was asked for. The main statement says which values have
one term, and that the plan of such a comparison finds no entry without a value of this term. No two
texts, integers or truth values have one term, and neither have short decimals of different numbers
or well-formed bytes that differ.
-/

namespace ContentSearch

/-! ## Values in an index -/

/-- The values that a property holds, bytes being one value. -/
def PropertyContent.held : PropertyContent → List Value
  | .values vs => vs
  | .binary b => [.binary b.bytes]

/-- What is indexed of bytes is what can be read in them. -/
theorem BinaryContent.decodeLenient_of_text? {b : BinaryContent} {s : String}
    (h : b.text? = some s) : Text.Utf8.decodeLenient b.bytes = s := by
  unfold text? at h
  split at h
  · exact Text.Utf8.decodeLenient_of_decode? h
  · split at h
    · exact Text.Utf8.decodeLenient_of_decode? h
    · cases h

/-- Every term of a property is the term of one of its values. -/
theorem PropertyContent.exists_held_of_mem_terms {content : PropertyContent} {t : String}
    (h : t ∈ content.indexed.terms) : ∃ v ∈ content.held, Term.ofValue v = t := by
  cases content with
  | values vs => exact List.mem_map.mp h
  | binary b =>
    have htext : b.text? = some t := Option.mem_toList.mp h
    exact ⟨.binary b.bytes, List.mem_singleton_self _, BinaryContent.decodeLenient_of_text? htext⟩

namespace Entry

/-- The values that the entry holds under a name. -/
def heldIn (e : Entry) (property : String) : List Value :=
  (e.properties.filter fun p => p.name == property).flatMap (·.content.held)

theorem mem_heldIn {e : Entry} {property : String} {v : Value} :
    v ∈ e.heldIn property ↔ ∃ p ∈ e.properties, p.name = property ∧ v ∈ p.content.held := by
  simp only [heldIn, List.mem_flatMap, List.mem_filter, beq_iff_eq, and_assoc]

/-- In a field with a name of its own, all terms are those of values. -/
theorem exists_heldIn_of_mem_termsIn {e : Entry} {table property t : String}
    (hunshared : (Field.Key.ofProperty .values table property).IsUnshared)
    (h : t ∈ e.termsIn (Field.property table property)) :
    ∃ v ∈ e.heldIn property, Term.ofValue v = t := by
  rw [← Field.Key.name_values] at h
  obtain ⟨⟨k, ts⟩, hkept, hname, ht⟩ := mem_termsIn_key.mp h
  -- whatever has the term is kept under this name for this property alone
  obtain rfl := hunshared k hname
  obtain ⟨-, p, hp, hproperty, rfl⟩ := mem_keyTerms_values.mp hkept
  obtain ⟨v, hv, hterm⟩ := PropertyContent.exists_held_of_mem_terms ht
  exact ⟨v, mem_heldIn.mpr ⟨p, hp, hproperty, hv⟩, hterm⟩

/-- In its tables, an entry has the terms of its simple values. -/
theorem term_mem_termsIn {e : Entry} {table property : String} (htable : table ∈ e.tables)
    {v : Value} (hv : v ∈ e.valuesOf property) :
    Term.ofValue v ∈ e.termsIn (Field.property table property) := by
  obtain ⟨p, hp, hproperty, hv⟩ := mem_valuesOf.mp hv
  rw [← Field.Key.name_values, mem_termsIn_key]
  have hkept := mem_keyTerms_values.mpr ⟨htable, p, hp, hproperty, rfl⟩
  refine ⟨_, hkept, rfl, ?_⟩
  cases hcontent : p.content with
  | values vs =>
    rw [hcontent] at hv
    exact List.mem_map_of_mem hv
  | binary b =>
    rw [hcontent] at hv
    cases hv

end Entry

/-! ## Comparisons -/

/-- Equality of a column with a value of its type. Case can only be left out of account for texts.
-/
def Comparison.equality (caseSensitive : Bool) (field : String) (w : Value) : Predicate :=
  .term field (FieldIndex.lookupKey (caseSensitive || !w.type.isText) (Term.ofValue w))
    (caseSensitive || !w.type.isText)

/-- Equality of a column is equality with the value in the type of the column. -/
theorem Comparison.onProperty_equalTo {v w : Value} {type : PropertyType}
    (hcast : v.cast type = .ok w) (caseSensitive : Bool) (field : String) :
    (Comparison.mk .equalTo v caseSensitive).onProperty field (some type)
      = .ok (equality caseSensitive field w) := by
  have htype := Value.type_cast hcast
  have hterm : (Comparison.mk .equalTo v caseSensitive).propertyTerm (some type)
      = .ok (FieldIndex.lookupKey (caseSensitive || !w.type.isText) (Term.ofValue w),
        caseSensitive || !w.type.isText) := by
    have hcastTo : (Comparison.mk .equalTo v caseSensitive).castTo type = .ok w := by
      rw [castTo, hcast]
      rfl
    -- the value has the type of the column, so that the two tests for text agree
    simp only [propertyTerm, Option.getD_some, hcastTo, Outcome.ok_bind, htype]
    cases type <;> cases caseSensitive <;> rfl
  unfold onProperty
  simp only [hterm, Outcome.ok_bind]
  rfl

theorem Scope.ReadsColumn.comparison_equalTo {s : Scope} {ref : PropertyRef} {table : String}
    {column : Column} (h : s.ReadsColumn ref table column) {v w : Value}
    (hcast : v.cast column.type = .ok w) :
    s.comparison (.property ref) .equalTo v
      = .ok (Comparison.equality s.rules.caseSensitive (Field.property table ref.property) w) := by
  show s.plainComparison (.property ref) ⟨.equalTo, v, s.rules.caseSensitive⟩ = _
  rw [h.plainComparison, Comparison.onProperty_equalTo hcast]
  rfl

/-! ## Answers -/

/-- The documents that answer equality of a property with a value, in a table of a snapshot. -/
structure Snapshot.AnswersEquality (s : Snapshot) (caseSensitive : Bool) (table property : String)
    (w : Value) (docs : DocSet) : Prop where
  /-- An entry that is found holds a value that is taken for the given one, if all its values of the
  property are of one type with it. -/
  found : ∀ {d}, d ∈ docs → ∃ e, s.entry? d = some e ∧ table ∈ e.tables
    ∧ ((∀ v ∈ e.heldIn property, v.type = w.type) →
      ∃ v ∈ e.heldIn property, v.IsTakenFor caseSensitive w)
  /-- Every entry of the table with a simple value that is taken for the given one is found. -/
  finds : ∀ {d e v}, s.entry? d = some e → table ∈ e.tables → v ∈ e.valuesOf property →
    v.type = w.type → v.IsTakenFor caseSensitive w → d ∈ docs

/-- The entries that have the term of the value make up such an answer. -/
theorem Snapshot.Consistent.answersEquality {s : Snapshot} (h : s.Consistent)
    {table property : String}
    (htellable : (Field.Key.ofProperty .values table property).IsTellable) (w : Value)
    (caseSensitive : Bool) (engine : Regex.Engine) :
    s.AnswersEquality caseSensitive table property w (s.docsIn table fun e =>
      e.satisfies engine
        (Comparison.equality caseSensitive (Field.property table property) w)) := by
  have hunshared := Field.Key.isUnshared_ofProperty htellable
  have hmem : ∀ {d e}, s.entry? d = some e → (d ∈ s.docsIn table (fun e =>
      e.satisfies engine (Comparison.equality caseSensitive (Field.property table property) w))
      ↔ table ∈ e.tables ∧ ∃ t ∈ e.termsIn (Field.property table property),
        FieldIndex.lookupKey (caseSensitive || !w.type.isText) t
          = FieldIndex.lookupKey (caseSensitive || !w.type.isText) (Term.ofValue w)) := by
    intro d e he
    -- a document has one entry, which is the one that passes the test
    rw [docsIn, h.mem_docsWhere, ← Entry.satisfies_lookupKey engine, ← List.contains_iff_mem,
      ← Bool.and_eq_true]
    constructor
    · intro hpasses
      obtain ⟨e', he', htest⟩ := hpasses
      rwa [Option.some.inj (he.symm.trans he')]
    · intro htest
      exact ⟨e, he, htest⟩
  refine ⟨fun {d} hd => ?_, fun {d e v} he htable hv htype htaken => ?_⟩
  · obtain ⟨e, he, -⟩ := h.mem_docsWhere.mp hd
    obtain ⟨htable, t, ht, hkey⟩ := (hmem he).mp hd
    obtain ⟨v, hv, hterm⟩ := Entry.exists_heldIn_of_mem_termsIn hunshared ht
    refine ⟨e, he, htable, fun htypes => ⟨v, hv, ?_⟩⟩
    rw [← hterm] at hkey
    exact (Value.lookupKey_term_eq_iff (htypes v hv) caseSensitive).mp hkey
  · refine (hmem he).mpr ⟨htable, Term.ofValue v, e.term_mem_termsIn htable hv, ?_⟩
    exact (Value.lookupKey_term_eq_iff htype caseSensitive).mpr htaken

/-! ## Plans -/

namespace Plan

variable {rules : PlanRules} {table property : String} {t : Table} {column : Column} {v w : Value}

/-- The plan of a query of a base table that compares a column by equality. -/
theorem predicate_of_equalTo (ht : rules.schema.table? table = some t)
    (hbase : t.definition? = none) (hcolumn : t.column? property = some column)
    (hcast : v.cast column.type = .ok w) {q : Query} {alias? name? : Option String}
    (hsource : q.source = .selector ⟨table, alias?⟩) {right : StaticOperand}
    (hconstraint : q.constraint? = some (.compare (.property ⟨name?, property⟩) .equalTo right))
    {bindings : Bindings} (hvalue : right.value? bindings = some v) {plan : Plan}
    (hplan : ofQuery rules q bindings = .ok plan) :
    plan.predicate = .allOf [.term Field.table table true,
      Comparison.equality rules.caseSensitive (Field.property table property) w] := by
  have hrestricts : Scope.restrictingProperty? (.property ⟨name?, property⟩)
      = some ⟨name?, property⟩ := rfl
  apply predicate_of_column ht hbase hcolumn hsource hrestricts hconstraint hvalue hplan
  intro s hrules hreads
  subst hrules
  exact hreads.comparison_equalTo hcast

/-- A column that allows equality can be compared with any value that can be cast to its type. -/
theorem exists_plan_of_equalTo (ht : rules.schema.table? table = some t)
    (hbase : t.definition? = none) (hcolumn : t.column? property = some column)
    (hallowed : column.supports .equalTo = true) (hcast : v.cast column.type = .ok w)
    (bindings : Bindings) :
    ∃ plan, ofQuery rules (.ofTable table (.compare (.property ⟨none, property⟩) .equalTo
      (.literal (Literal.ofValue v)))) bindings = .ok plan := by
  have hmake : ∀ s : Scope, s.rules = rules → s.ReadsColumn ⟨none, property⟩ table column →
      s.comparison (.property ⟨none, property⟩) .equalTo v
        = .ok (Comparison.equality rules.caseSensitive (Field.property table property) w) := by
    intro s hrules hreads
    subst hrules
    exact hreads.comparison_equalTo hcast
  exact exists_plan_of_column ht hbase hcolumn rfl hallowed bindings hmake

/-- What terms tell of values, and what equality with a value finds by them. A column of a base
table that allows equality can be compared with every value that can be cast to its type. If its
field has a name of its own, the plan finds, for every history of the index, entries with a value
that is taken for the given one and no others, as long as the entries hold values of the type of the
column. -/
theorem answersEquality_ofQuery :
    Term.TellsValues
      ∧ ∀ {rules : PlanRules} {table property : String} {t : Table} {column : Column} {v w : Value},
        rules.schema.table? table = some t → t.definition? = none →
        t.column? property = some column → v.cast column.type = .ok w → ∀ bindings : Bindings,
        (column.supports .equalTo = true → ∃ plan,
          ofQuery rules (.ofTable table (.compare (.property ⟨none, property⟩) .equalTo
            (.literal (Literal.ofValue v)))) bindings = .ok plan)
          ∧ ((Field.Key.ofProperty .values table property).IsTellable →
            ∀ {q : Query} {alias? name? : Option String} {right : StaticOperand} {plan : Plan},
            q.source = .selector ⟨table, alias?⟩ →
            q.constraint? = some (.compare (.property ⟨name?, property⟩) .equalTo right) →
            right.value? bindings = some v → ofQuery rules q bindings = .ok plan →
            ∀ (engine : Regex.Engine) (history : List Change), ∃ docs,
              (Snapshot.ofHistory history).evaluateWith engine plan.predicate = .ok docs
                ∧ (Snapshot.ofHistory history).AnswersEquality rules.caseSensitive table property
                  w docs) := by
  refine ⟨Term.tellsValues, ?_⟩
  intro rules table property t column v w ht hbase hcolumn hcast bindings
  refine ⟨fun hallowed => exists_plan_of_equalTo ht hbase hcolumn hallowed hcast bindings, ?_⟩
  intro htellable q alias? name? right plan hsource hconstraint hvalue hplan engine history
  have hconsistent := Snapshot.consistent_ofHistory history
  have hpredicate :=
    predicate_of_equalTo ht hbase hcolumn hcast hsource hconstraint hvalue hplan
  have hanswer := hconsistent.answersEquality htellable w rules.caseSensitive engine
  refine ⟨_, ?_, hanswer⟩
  rw [hpredicate]
  exact hconsistent.evaluateWith_inTable table rfl fun e _ => rfl

/-! ## Balances of accounts -/

def accountTable : Table :=
  Table.ofColumns "account" [Column.plain "balance" .decimal]

def accountRules : PlanRules where
  schema := Schema.empty.withTable accountTable
  caseSensitive := true
  checksColumns := true
  resolvePath := fun _ => none

def account (identifier : String) (balance : Number.Decimal) : Entry :=
  ((Entry.named identifier identifier).inTable "account").withProperty
    (Property.single "balance" (.decimal balance))

def byBalance (balance : Number.Decimal) : Query :=
  .ofTable "account" (.compare (.property ⟨none, "balance"⟩) .equalTo
    (.literal (Literal.ofValue (.decimal balance))))

def accounts : List Change :=
  [.insert (account "a" ⟨1250, 2, by decide, by decide⟩),
    .insert (account "b" ⟨125, 1, by decide, by decide⟩),
    .insert (account "c" ⟨1251, 2, by decide, by decide⟩)]

/-- Twelve and a half is found with one place and with two. -/
theorem answersEquality_ofQuery_accounts :
    Term.ofValue (.decimal ⟨1250, 2, by decide, by decide⟩)
        = Term.ofValue (.decimal ⟨125, 1, by decide, by decide⟩)
      ∧ Term.ofValue (.long 125) ≠ Term.ofValue (.long 1250)
      ∧ Term.ofValue (.binary (Text.Utf8.encode "é"))
        ≠ Term.ofValue (.binary (Text.Utf8.encode "e"))
      ∧ ∃ plan docs,
        ofQuery accountRules (byBalance ⟨12500, 3, by decide, by decide⟩) OrderedMap.empty
          = .ok plan
        ∧ (Snapshot.ofHistory accounts).evaluateWith Regex.engine plan.predicate = .ok docs
        ∧ (Snapshot.ofHistory accounts).AnswersEquality true "account" "balance"
          (.decimal ⟨12500, 3, by decide, by decide⟩) docs
        ∧ docs.toList = [0, 1] := by
  have htable : accountRules.schema.table? "account" = some accountTable := rfl
  have hcolumn : accountTable.column? "balance" = some (Column.plain "balance" .decimal) := rfl
  have hplain : (Field.Key.ofProperty .values "account" "balance").IsTellable :=
    Field.Key.isTellable_of_isPlain ⟨by decide +kernel, by decide +kernel⟩
  have hcast : (Value.decimal ⟨12500, 3, by decide, by decide⟩).cast .decimal
      = .ok (.decimal ⟨12500, 3, by decide, by decide⟩) := rfl
  obtain ⟨htells, hequality⟩ := answersEquality_ofQuery
  refine ⟨?_, ?_, ?_, ?_⟩
  · refine (htells.decimal_eq_iff ⟨by decide, by decide⟩ ⟨by decide, by decide⟩).mpr ?_
    rw [Number.Decimal.value_eq_iff]
    decide
  · intro hsame
    have htype : (Value.long 125).type = (Value.long 1250).type := rfl
    have hvalues := (htells.eq_iff_eq htype (.inr (.inl rfl))).mp hsame
    exact absurd (Value.long.inj hvalues) (by decide)
  · intro hsame
    have hbytes := (htells.binary_eq_iff ⟨"é", rfl⟩ ⟨"e", rfl⟩).mp hsame
    exact absurd hbytes (by decide +kernel)
  · obtain ⟨hexists, hanswers⟩ := hequality htable rfl hcolumn hcast OrderedMap.empty
    obtain ⟨plan, hplan⟩ := hexists rfl
    obtain ⟨docs, hdocs, hanswer⟩ :=
      hanswers hplain rfl rfl rfl hplan Regex.engine accounts
    refine ⟨plan, docs, hplan, hdocs, hanswer, ?_⟩
    have hfound : ((Snapshot.ofHistory accounts).evaluateWith Regex.engine
        plan.predicate).toOption.map (·.toList) = some [0, 1] := by
      rw [predicate_of_equalTo htable rfl hcolumn rfl rfl rfl rfl hplan]
      decide +kernel
    rw [hdocs] at hfound
    exact Option.some.inj hfound

/-- An account with one more than the greatest number of 53 bits. -/
def largeAccount : List Change :=
  [.insert (account "a" (.ofLong 9007199254740993))]

/-- Another number than the balance of an account has the term of the balance, so that the account
is found for it. With more than 15 digits a number can also have another term than without the zeros
at its end. Different bytes have one term if they are no text. -/
theorem terms_coincide :
    ((Term.ofValue (.decimal (.ofLong 9007199254740993))
          = Term.ofValue (.decimal (.ofLong 9007199254740992)))
        ∧ (Number.Decimal.ofLong 9007199254740993).value
          ≠ (Number.Decimal.ofLong 9007199254740992).value)
      ∧ (∃ plan, ofQuery accountRules (byBalance (.ofLong 9007199254740992))
            OrderedMap.empty = .ok plan
          ∧ ((Snapshot.ofHistory largeAccount).evaluateWith Regex.engine
            plan.predicate).toOption.map (·.toList) = some [0])
      ∧ ((Term.ofValue (.decimal ⟨4382360000000000, 15, by decide, by decide⟩)
          ≠ Term.ofValue (.decimal ⟨438236, 5, by decide, by decide⟩))
        ∧ Number.Decimal.value ⟨4382360000000000, 15, by decide, by decide⟩
          = Number.Decimal.value ⟨438236, 5, by decide, by decide⟩)
      ∧ Term.ofValue (.binary [0xff]) = Term.ofValue (.binary [0xfe]) := by
  refine ⟨⟨by decide +kernel, ?_⟩, ?_, ⟨by decide +kernel, ?_⟩, by decide +kernel⟩
  · rw [ne_eq, Number.Decimal.value_eq_iff]
    decide
  · have htable : accountRules.schema.table? "account" = some accountTable := rfl
    have hcolumn : accountTable.column? "balance" = some (Column.plain "balance" .decimal) := rfl
    have hcast : (Value.decimal (.ofLong 9007199254740992)).cast .decimal
        = .ok (.decimal (.ofLong 9007199254740992)) := rfl
    obtain ⟨plan, hplan⟩ :=
      exists_plan_of_equalTo htable rfl hcolumn rfl hcast OrderedMap.empty
    refine ⟨plan, hplan, ?_⟩
    rw [predicate_of_equalTo htable rfl hcolumn rfl rfl rfl rfl hplan]
    decide +kernel
  · rw [Number.Decimal.value_eq_iff]
    decide

end Plan

end ContentSearch
