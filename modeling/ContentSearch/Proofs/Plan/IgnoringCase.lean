import ContentSearch.Proofs.Pattern.Folding
import ContentSearch.Proofs.Plan.Answers
import ContentSearch.Proofs.Plan.CaseMapping

/-!
# Comparisons without regard to case

A column of text is compared by equality or by a pattern with regard to case or without. The main
statement says which entries are selected either way, and when those selected with regard to case
are selected without it: always by equality, and by a pattern unless an underscore meets the capital
I with a dot, whose lower case has two characters.
-/

namespace ContentSearch

/-! ## Accepted texts -/

/-- The texts that equality or a pattern accepts. With regard to case these are the text itself, or
the texts that the pattern stands for. Without regard to case these are the texts of the same lower
case, or those whose folding follows the folded steps of the pattern. -/
def Operator.Accepts : Operator → Bool → String → String → Prop
  | .like, true, w, t => Like.Matches w.toList t.toList
  | .like, false, w, t => Like.MatchesFolded w t
  | _, caseSensitive, w, t =>
    FieldIndex.lookupKey caseSensitive t = FieldIndex.lookupKey caseSensitive w

/-- An entry of a table with a term of a property that passes a test. -/
def Entry.HasTermWith (e : Entry) (table property : String) (test : String → Prop) : Prop :=
  table ∈ e.tables ∧ ∃ t ∈ e.termsIn (Field.property table property), test t

namespace Operator

variable {w t : String}

/-- A text that is accepted with regard to case is accepted without it, unless an underscore of the
pattern meets the capital I with a dot. -/
theorem Accepts.ignoringCase {op : Operator} (h : op.Accepts true w t)
    (hdotted : op = .like → .anyChar ∈ Like.steps w.toList → Text.dottedI ∉ t.toList) :
    op.Accepts false w t := by
  cases op with
  | like => exact Like.Matches.matchesFolded h (hdotted rfl)
  | _ => exact congrArg Text.lower h

/-- The pattern of any text, as it is looked up, accepts all texts. -/
theorem accepts_of_lookupKey {caseSensitive : Bool}
    (h : FieldIndex.lookupKey caseSensitive w = Like.matchAll) (t : String) :
    Operator.like.Accepts caseSensitive w t := by
  cases caseSensitive with
  | true =>
    obtain rfl : w = Like.matchAll := h
    exact Like.matches_matchAll t.toList
  | false => exact Like.matchesFolded_of_lower_eq h t

/-- The expression of a pattern, as it is looked up, becomes a test that accepts the terms, as they
are looked up, unless the engine does not admit it. -/
theorem exists_test_like {engine : Regex.Engine} (hreads : engine.ReadsWellFormed)
    (hignores : engine.IgnoresCase) {caseSensitive : Bool} {w : String}
    (hadmits : engine.Admits (Like.regex (FieldIndex.lookupKey caseSensitive w)) caseSensitive) :
    ∃ test, engine.compile (Like.regex (FieldIndex.lookupKey caseSensitive w)) caseSensitive
        = .ok test
      ∧ ∀ t : String, test (FieldIndex.lookupKey caseSensitive t) = true
        ↔ Operator.like.Accepts caseSensitive w t := by
  cases caseSensitive with
  | true => exact Like.exists_test hreads hadmits
  | false => exact Like.exists_test_lower hignores hadmits

end Operator

/-! ## Predicates -/

namespace Comparison

/-- Equality or a pattern on the terms of a field. The pattern of any text only asks for a term. -/
def textPredicate (op : Operator) (caseSensitive : Bool) (field w : String) : Predicate :=
  if op = .like then
    if FieldIndex.lookupKey caseSensitive w = Like.matchAll then .hasTerm field
    else .regex field (Like.regex (FieldIndex.lookupKey caseSensitive w)) caseSensitive
  else .term field (FieldIndex.lookupKey caseSensitive w) caseSensitive

/-- A column of text is compared with a text by this predicate. -/
theorem onProperty_text {op : Operator} (hop : op = .equalTo ∨ op = .like) (kind : TextKind)
    (w : String) (caseSensitive : Bool) (field : String) {type : PropertyType}
    (htext : type.isText = true) :
    (Comparison.mk op (.text kind w) caseSensitive).onProperty field (some type)
      = .ok (textPredicate op caseSensitive field w) := by
  rcases hop with rfl | rfl
  · unfold onProperty
    simp only [propertyTerm_text _ kind w caseSensitive htext]
    rfl
  · have hfilter : (some type).filter (!·.isText) = none := by simp [Option.filter, htext]
    have hvalue : (Comparison.mk .like (.text kind w) caseSensitive).textValue
        = .ok (FieldIndex.lookupKey caseSensitive w) := rfl
    unfold onProperty propertyLike textPredicate
    simp only [hfilter, hvalue, Outcome.ok_bind, if_true]
    split <;> rfl

/-- A pattern is written as a well-formed expression, and nothing else is. -/
theorem isWellWritten_textPredicate (op : Operator) (caseSensitive : Bool) (field w : String) :
    (textPredicate op caseSensitive field w).IsWellWritten := by
  unfold textPredicate
  split
  · split
    · exact Predicate.isWellWritten_of_expressions rfl
    · exact isWellWritten_like field _ caseSensitive
  · exact Predicate.isWellWritten_of_expressions rfl

/-- An entry satisfies the predicate if it has a term that the comparison accepts. -/
theorem satisfies_textPredicate {engine : Regex.Engine} (hreads : engine.ReadsWellFormed)
    (hignores : engine.IgnoresCase) (e : Entry) {op : Operator} (hop : op = .equalTo ∨ op = .like)
    {caseSensitive : Bool} {field w : String}
    (hadmitted : (textPredicate op caseSensitive field w).Admitted engine) :
    e.satisfies engine (textPredicate op caseSensitive field w) = true
      ↔ ∃ t ∈ e.termsIn field, op.Accepts caseSensitive w t := by
  rcases hop with rfl | rfl
  · rw [textPredicate, if_neg (by decide), Entry.satisfies_lookupKey]
    exact Iff.rfl
  · rw [textPredicate, if_pos rfl] at hadmitted ⊢
    by_cases hall : FieldIndex.lookupKey caseSensitive w = Like.matchAll
    · rw [if_pos hall, Entry.satisfies, Bool.not_eq_true', List.isEmpty_eq_false_iff_exists_mem]
      refine exists_congr fun t => ?_
      exact (and_iff_left (Operator.accepts_of_lookupKey hall t)).symm
    · rw [if_neg hall] at hadmitted ⊢
      obtain ⟨test, hcompile, htest⟩ :=
        Operator.exists_test_like hreads hignores (hadmitted _ (List.mem_singleton.mpr rfl))
      rw [Entry.satisfies, Entry.anyMatch, hcompile]
      show (e.termsIn field).any (fun t => test (FieldIndex.lookupKey caseSensitive t)) = true ↔ _
      rw [List.any_eq_true]
      simp only [htest]

end Comparison

/-- A column of text is compared with a text as the rules have it. -/
theorem Scope.ReadsColumn.comparison_text {s : Scope} {ref : PropertyRef} {table : String}
    {column : Column} (h : s.ReadsColumn ref table column) (htext : column.type.isText = true)
    {op : Operator} (hop : op = .equalTo ∨ op = .like) (kind : TextKind) (w : String) :
    s.comparison (.property ref) op (.text kind w)
      = .ok (Comparison.textPredicate op s.rules.caseSensitive
          (Field.property table ref.property) w) := by
  show s.plainComparison (.property ref) ⟨op, .text kind w, s.rules.caseSensitive⟩ = _
  rw [h.plainComparison, Comparison.onProperty_text hop kind w _ _ htext]
  rfl

/-! ## Plans -/

namespace Plan

variable {rules : PlanRules} {table property : String} {t : Table} {column : Column}

/-- The plan of a query of a base table that compares a column of text by equality or a pattern. -/
theorem predicate_of_text (ht : rules.schema.table? table = some t) (hbase : t.definition? = none)
    (hcolumn : t.column? property = some column) (htext : column.type.isText = true)
    {op : Operator} (hop : op = .equalTo ∨ op = .like) {q : Query} {alias? name? : Option String}
    (hsource : q.source = .selector ⟨table, alias?⟩) {right : StaticOperand}
    (hconstraint : q.constraint? = some (.compare (.property ⟨name?, property⟩) op right))
    {bindings : Bindings} {kind : TextKind} {w : String}
    (hvalue : right.value? bindings = some (.text kind w)) {plan : Plan}
    (hplan : ofQuery rules q bindings = .ok plan) :
    plan.predicate = .allOf [.term Field.table table true,
      Comparison.textPredicate op rules.caseSensitive (Field.property table property) w] := by
  have hrestricts : Scope.restrictingProperty? (.property ⟨name?, property⟩)
      = some ⟨name?, property⟩ := rfl
  apply predicate_of_column ht hbase hcolumn hsource hrestricts hconstraint hvalue hplan
  rintro s rfl hreads
  exact hreads.comparison_text htext hop kind w

/-- A column of text that allows the operator can be compared by it. -/
theorem exists_plan_of_text (ht : rules.schema.table? table = some t) (hbase : t.definition? = none)
    (hcolumn : t.column? property = some column) (htext : column.type.isText = true)
    {op : Operator} (hop : op = .equalTo ∨ op = .like) (hallowed : column.supports op = true)
    (kind : TextKind) (w : String) (bindings : Bindings) :
    ∃ plan, ofQuery rules (.ofTable table (.compare (.property ⟨none, property⟩) op
      (.literal (Literal.ofValue (.text kind w))))) bindings = .ok plan := by
  have hmake : ∀ s : Scope, s.rules = rules → s.ReadsColumn ⟨none, property⟩ table column →
      s.comparison (.property ⟨none, property⟩) op (.text kind w)
        = .ok (Comparison.textPredicate op rules.caseSensitive
            (Field.property table property) w) := by
    rintro s rfl hreads
    exact hreads.comparison_text htext hop kind w
  exact exists_plan_of_column ht hbase hcolumn rfl hallowed bindings hmake

/-- The documents of the answer are those whose entries are accepted. -/
theorem exists_docs_of_text (ht : rules.schema.table? table = some t) (hbase : t.definition? = none)
    (hcolumn : t.column? property = some column) (htext : column.type.isText = true)
    {op : Operator} (hop : op = .equalTo ∨ op = .like) {q : Query} {alias? name? : Option String}
    (hsource : q.source = .selector ⟨table, alias?⟩) {right : StaticOperand}
    (hconstraint : q.constraint? = some (.compare (.property ⟨name?, property⟩) op right))
    {bindings : Bindings} {kind : TextKind} {w : String}
    (hvalue : right.value? bindings = some (.text kind w)) {plan : Plan}
    (hplan : ofQuery rules q bindings = .ok plan) {engine : Regex.Engine}
    (hreads : engine.ReadsWellFormed) (hignores : engine.IgnoresCase)
    (hadmitted : plan.predicate.Admitted engine) {s : Snapshot} (h : s.Consistent) :
    ∃ docs, s.evaluateWith engine plan.predicate = .ok docs
      ∧ ∀ d, d ∈ docs ↔ ∃ e, s.entry? d = some e
        ∧ e.HasTermWith table property (op.Accepts rules.caseSensitive w) := by
  rw [predicate_of_text ht hbase hcolumn htext hop hsource hconstraint hvalue hplan]
    at hadmitted ⊢
  have hadmitted := Predicate.forall_mem_expressions_allOf.mp hadmitted _
    (List.mem_cons_of_mem _ List.mem_cons_self)
  have hcompiles := (Comparison.isWellWritten_textPredicate op _ _ w).compiles hadmitted
  refine ⟨_, h.evaluateWith_inTable table hcompiles fun e _ => rfl, fun d => ?_⟩
  rw [Snapshot.docsIn, h.mem_docsWhere]
  refine exists_congr fun e => and_congr_right fun _ => ?_
  rw [Bool.and_eq_true, List.contains_iff_mem,
    Comparison.satisfies_textPredicate hreads hignores e hop hadmitted]
  exact Iff.rfl

/-- Equality with a text or a pattern, for a column of text of a base table. Whatever has been added
and removed before, a plan that is made with regard to case and one that is made without it select
the entries of the table with a term of the column that the comparison accepts in this way. All
entries that are selected with regard to case are selected without it by equality, and by a pattern
in which no underscore stands for any character; with such an underscore they are if no term of the
column has the capital I with a dot. The engine must not refuse the expressions of the two plans,
which are well-formed, and may refuse any other. -/
theorem evaluateWith_ignoringCase (ht : rules.schema.table? table = some t)
    (hbase : t.definition? = none) (hcolumn : t.column? property = some column)
    (htext : column.type.isText = true) {op : Operator} (hop : op = .equalTo ∨ op = .like)
    (kind : TextKind) (w : String) (bindings : Bindings) :
    (column.supports op = true → ∀ caseSensitive,
      ∃ plan, ofQuery { rules with caseSensitive := caseSensitive }
        (.ofTable table (.compare (.property ⟨none, property⟩) op
          (.literal (Literal.ofValue (.text kind w))))) bindings = .ok plan)
      ∧ ∀ {q : Query} {alias? name? : Option String} {right : StaticOperand} {plan folded : Plan},
        q.source = .selector ⟨table, alias?⟩ →
        q.constraint? = some (.compare (.property ⟨name?, property⟩) op right) →
        right.value? bindings = some (.text kind w) →
        ofQuery { rules with caseSensitive := true } q bindings = .ok plan →
        ofQuery { rules with caseSensitive := false } q bindings = .ok folded →
        ∀ {engine : Regex.Engine}, engine.ReadsWellFormed → engine.IgnoresCase →
        plan.predicate.Admitted engine → folded.predicate.Admitted engine →
        ∀ history : List Change, ∃ docs docs',
          (Snapshot.ofHistory history).evaluateWith engine plan.predicate = .ok docs
            ∧ (Snapshot.ofHistory history).evaluateWith engine folded.predicate = .ok docs'
            ∧ (∀ d, d ∈ docs ↔ ∃ e, Snapshot.entry? (.ofHistory history) d = some e
                ∧ e.HasTermWith table property (op.Accepts true w))
            ∧ (∀ d, d ∈ docs' ↔ ∃ e, Snapshot.entry? (.ofHistory history) d = some e
                ∧ e.HasTermWith table property (op.Accepts false w))
            ∧ ((op = .like → .anyChar ∈ Like.steps w.toList →
                ∀ e ∈ (Snapshot.ofHistory history).liveEntries, table ∈ e.tables →
                  ∀ t ∈ e.termsIn (Field.property table property), Text.dottedI ∉ t.toList) →
              ∀ d ∈ docs, d ∈ docs') := by
  -- the rules have the same table, with regard to case and without
  have htable : ∀ caseSensitive : Bool,
      (PlanRules.schema { rules with caseSensitive := caseSensitive }).table? table = some t :=
    fun _ => ht
  constructor
  · intro hallowed caseSensitive
    exact exists_plan_of_text (htable caseSensitive) hbase hcolumn htext hop hallowed kind w
      bindings
  intro q alias? name? right plan folded hsource hconstraint hvalue hplan hfolded engine hreads
    hignores hadmitted hadmitted' history
  have h := Snapshot.consistent_ofHistory history
  obtain ⟨docs, hdocs, hmem⟩ := exists_docs_of_text (htable true) hbase hcolumn htext hop hsource
    hconstraint hvalue hplan hreads hignores hadmitted h
  obtain ⟨docs', hdocs', hmem'⟩ := exists_docs_of_text (htable false) hbase hcolumn htext hop
    hsource hconstraint hvalue hfolded hreads hignores hadmitted' h
  refine ⟨docs, docs', hdocs, hdocs', hmem, hmem', ?_⟩
  intro hdotted d hd
  obtain ⟨e, he, htable, t, hterm, haccepts⟩ := (hmem d).mp hd
  refine (hmem' d).mpr ⟨e, he, htable, t, hterm, haccepts.ignoringCase ?_⟩
  intro hlike hunderscore
  exact hdotted hlike hunderscore e (h.mem_liveEntries.mpr ⟨d, he⟩) htable t hterm

/-! ## Titles by pattern -/

/-- The rules for books, with regard to case or without. -/
def bookRulesIn (caseSensitive : Bool) : PlanRules :=
  { bookRules with caseSensitive := caseSensitive }

/-- The books whose title compares with a text. -/
def booksByTitle (op : Operator) (w : String) : Query :=
  .ofTable "book" (.compare (.property ⟨none, "title"⟩) op
    (.literal (Literal.ofValue (Value.string w))))

theorem predicate_of_booksByTitle (caseSensitive : Bool) {op : Operator}
    (hop : op = .equalTo ∨ op = .like) {w : String} {plan : Plan}
    (hplan : ofQuery (bookRulesIn caseSensitive) (booksByTitle op w) OrderedMap.empty = .ok plan) :
    plan.predicate = .allOf [.term Field.table "book" true,
      Comparison.textPredicate op caseSensitive (Field.property "book" "title") w] := by
  have htable : (bookRulesIn caseSensitive).schema.table? "book" = some bookTable := rfl
  have htitle : bookTable.column? "title" = some (Column.plain "title" .string) := rfl
  exact predicate_of_text htable rfl htitle rfl hop rfl rfl rfl hplan

/-- A pattern with an underscore, which selects two books with regard to case. -/
theorem evaluateWith_ignoringCase_shelf :
    ∃ plan folded docs docs',
      ofQuery (bookRulesIn true) (booksByTitle .like "E_ma") OrderedMap.empty = .ok plan
      ∧ ofQuery (bookRulesIn false) (booksByTitle .like "E_ma") OrderedMap.empty = .ok folded
      ∧ (Snapshot.ofHistory shelf).evaluateWith Regex.engine plan.predicate = .ok docs
      ∧ (Snapshot.ofHistory shelf).evaluateWith Regex.engine folded.predicate = .ok docs'
      ∧ docs.toList = [1, 3] ∧ ∀ d ∈ docs, d ∈ docs' := by
  have htable : bookRules.schema.table? "book" = some bookTable := rfl
  have htitle : bookTable.column? "title" = some (Column.plain "title" .string) := rfl
  have hall : ((Snapshot.ofHistory shelf).liveEntries.all fun e =>
      (e.termsIn (Field.property "book" "title")).all fun t =>
        !t.toList.contains Text.dottedI) = true := by
    decide +kernel
  have hop : Operator.like = .equalTo ∨ Operator.like = .like := .inr rfl
  obtain ⟨hexists, hselects⟩ := evaluateWith_ignoringCase htable rfl htitle rfl hop .string "E_ma"
    OrderedMap.empty
  obtain ⟨plan, hplan⟩ := hexists rfl true
  obtain ⟨folded, hfolded⟩ := hexists rfl false
  obtain ⟨docs, docs', hdocs, hdocs', -, -, hsubset⟩ := hselects rfl rfl rfl hplan hfolded
    Regex.engine_readsWellFormed Regex.engine_ignoresCase plan.predicate.admitted_engine
    folded.predicate.admitted_engine shelf
  refine ⟨plan, folded, docs, docs', hplan, hfolded, hdocs, hdocs', ?_, hsubset ?_⟩
  · have hfound : ((Snapshot.ofHistory shelf).evaluateWith Regex.engine
        plan.predicate).toOption.map (·.toList) = some [1, 3] := by
      rw [predicate_of_booksByTitle true (.inr rfl) hplan]
      decide +kernel
    rw [hdocs] at hfound
    exact Option.some.inj hfound
  · intro _ _ e he _ t hterm hdotted
    have hnone := List.all_eq_true.mp (List.all_eq_true.mp hall e he) t hterm
    rw [Bool.not_eq_true', List.contains_eq_mem, decide_eq_false_iff_not] at hnone
    exact hnone hdotted

/-- The lower case of the title has one character more. -/
def cities : List Change :=
  [.insert (book "a" "İzmir" [])]

/-- A title that is found by a pattern with regard to case is not found without it. -/
theorem evaluateWith_cities_ne :
    ∃ plan folded,
      ofQuery (bookRulesIn true) (booksByTitle .like "_zmir") OrderedMap.empty = .ok plan
      ∧ ofQuery (bookRulesIn false) (booksByTitle .like "_zmir") OrderedMap.empty = .ok folded
      ∧ ((Snapshot.ofHistory cities).evaluateWith Regex.engine plan.predicate).toOption.map
          (·.toList) = some [0]
      ∧ ((Snapshot.ofHistory cities).evaluateWith Regex.engine folded.predicate).toOption.map
          (·.toList) = some [] := by
  have htable : ∀ caseSensitive,
      (bookRulesIn caseSensitive).schema.table? "book" = some bookTable := fun _ => rfl
  have htitle : bookTable.column? "title" = some (Column.plain "title" .string) := rfl
  have hexists : ∀ caseSensitive, ∃ plan, ofQuery (bookRulesIn caseSensitive)
      (booksByTitle .like "_zmir") OrderedMap.empty = .ok plan := fun caseSensitive =>
    exists_plan_of_text (htable caseSensitive) rfl htitle rfl (.inr rfl) rfl .string "_zmir"
      OrderedMap.empty
  obtain ⟨plan, hplan⟩ := hexists true
  obtain ⟨folded, hfolded⟩ := hexists false
  refine ⟨plan, folded, hplan, hfolded, ?_, ?_⟩
  · rw [predicate_of_booksByTitle true (.inr rfl) hplan]
    decide +kernel
  · rw [predicate_of_booksByTitle false (.inr rfl) hfolded]
    decide +kernel

end Plan

end ContentSearch
