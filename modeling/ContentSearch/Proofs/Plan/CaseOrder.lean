import ContentSearch.Proofs.Plan.CaseMapping

/-!
# Order in one case

A column within a case function is ordered by the lower case of its texts, and against the lower
case of the text on the right. The main statement says which entries are selected. They are the ones
that the function asks for where a text in the case of the function is compared, within `LOWER`
always, and within `UPPER` if no sign in the texts stands between the capital and the small letters.
-/

namespace ContentSearch

namespace CaseFunction

/-- Whether an operator holds among texts by what the function makes of them. -/
def ordersAmong (f : CaseFunction) (op : Operator) (w : String) (ts : List String) : Bool :=
  op.holdsAmong (fun op t => op.relates (f.map t) w) ts

/-- Whether an operator holds among texts by the lower case of both sides. -/
def ordersFolded (op : Operator) (w : String) (ts : List String) : Bool :=
  op.holdsAmong (fun op t => op.relates (Text.lower t) (Text.lower w)) ts

/-- The text on the right is in the case of the function, and the order of texts is the same in both
cases where the function needs it. -/
def IsOrderedOn (f : CaseFunction) (w : String) (ts : List String) : Prop :=
  f.map w = w ∧ (f = .lower
    ∨ Text.isCaseOrdered w.toList = true ∧ ∀ t ∈ ts, Text.isCaseOrdered t.toList = true)

/-- Where the order is the same in both cases, an operator holds by what the function makes of the
texts if it holds by their lower case. -/
theorem ordersFolded_eq_ordersAmong {f : CaseFunction} {w : String} {ts : List String}
    (h : f.IsOrderedOn w ts) (op : Operator) :
    ordersFolded op w ts = f.ordersAmong op w ts := by
  obtain ⟨hw, hts⟩ := h
  apply Operator.holdsAmong_map (f := id) (fun t => by simp)
  intro op t ht
  cases f with
  | lower =>
    have hlower : Text.lower w = w := hw
    rw [hlower]
    rfl
  | upper =>
    have hupper : Text.upper w = w := hw
    obtain ⟨hordered, hts⟩ := hts.resolve_left nofun
    have hlt := Text.upper_lt_upper_iff (hts t ht) hordered
    have hgt := Text.upper_lt_upper_iff hordered (hts t ht)
    rw [hupper] at hlt hgt
    exact (Operator.relates_congr hlt hgt op).symm

/-- The texts that are asked about matter, and neither their order nor how often they come. -/
theorem ordersFolded_congr {ts ts' : List String} (h : ∀ t, t ∈ ts ↔ t ∈ ts') (op : Operator)
    (w : String) : ordersFolded op w ts = ordersFolded op w ts' :=
  Operator.holdsAmong_map (fun t => by simp [h]) (fun _ _ _ => rfl) op

end CaseFunction

/-! ## Predicates -/

/-- An entry satisfies the range of an order without regard to case if a term stands in the relation
in lower case. -/
theorem Entry.satisfies_ordered_folded (engine : Regex.Engine) (e : Entry) {op : Operator}
    (hop : op.isRange = true) (field w : String) :
    e.satisfies engine (Comparison.ordered op field (Text.lower w) false)
      = CaseFunction.ordersFolded op w (e.termsIn field) := by
  unfold CaseFunction.ordersFolded
  cases op with
  | lessThan | lessOrEqual | greaterThan | greaterOrEqual =>
    simp [Comparison.ordered, satisfies, anyTerm, FieldIndex.lookupKey, Bound.map,
      Bound.admitsAbove, Bound.admitsBelow, Operator.holdsAmong, Operator.relates,
      Text.lower_lower]
  | _ => cases hop

/-- An order of a column of text within a case function is planned as a range of the lower case of
its terms, whatever the case of the text on the right. -/
theorem Scope.comparison_ordered_caseFunction {s : Scope} (f : CaseFunction) {op : Operator}
    (hop : op.isRange = true) {ref : PropertyRef} {table : String} {column : Column}
    (hcolumn : s.ReadsColumn ref table column) (htext : column.type.isText = true)
    (kind : TextKind) (w : String) :
    s.comparison (f.operand (.property ref)) op (.text kind w)
      = .ok (Comparison.ordered op (Field.property table ref.property) (Text.lower w) false) := by
  -- a text in another case than that of the function is not told apart
  have hfolded : s.caseComparison f.map (.property ref) op (.text kind w)
      = s.plainComparison (.property ref) ⟨op, .text kind w, false⟩ := by
    unfold caseComparison
    cases op with
    | lessThan | lessOrEqual | greaterThan | greaterOrEqual => exact ite_self _
    | _ => cases hop
  rw [comparison_operand, hfolded, hcolumn.plainComparison]
  cases op with
  | lessThan | lessOrEqual | greaterThan | greaterOrEqual =>
    simp only [Comparison.onProperty, Comparison.propertyTerm_text _ kind w false htext]
    rfl
  | _ => cases hop

/-! ## Plans -/

namespace Plan

variable {rules : PlanRules} {table property : String} {t : Table} {column : Column}

/-- The plan of a query of a base table that orders a column of text within a case function. -/
theorem predicate_of_ordered_caseFunction (ht : rules.schema.table? table = some t)
    (hbase : t.definition? = none) (hcolumn : t.column? property = some column)
    (htext : column.type.isText = true) {f : CaseFunction} {op : Operator}
    (hop : op.isRange = true) {q : Query} {alias? name? : Option String}
    (hsource : q.source = .selector ⟨table, alias?⟩) {right : StaticOperand}
    (hconstraint : q.constraint? =
      some (.compare (f.operand (.property ⟨name?, property⟩)) op right))
    {bindings : Bindings} {kind : TextKind} {w : String}
    (hvalue : right.value? bindings = some (.text kind w)) {plan : Plan}
    (hplan : ofQuery rules q bindings = .ok plan) :
    plan.predicate = .allOf [.term Field.table table true,
      Comparison.ordered op (Field.property table property) (Text.lower w) false] := by
  apply predicate_of_column ht hbase hcolumn hsource (f.restrictingProperty?_operand _) hconstraint
    hvalue hplan
  intro s _ hreads
  exact Scope.comparison_ordered_caseFunction f hop hreads htext kind w

/-- A column of text that allows the order can be ordered within a case function. -/
theorem exists_plan_of_ordered_caseFunction (ht : rules.schema.table? table = some t)
    (hbase : t.definition? = none) (hcolumn : t.column? property = some column)
    (htext : column.type.isText = true) (f : CaseFunction) {op : Operator}
    (hop : op.isRange = true) (hallowed : column.supports op = true) (kind : TextKind) (w : String)
    (bindings : Bindings) :
    ∃ plan, ofQuery rules (.ofTable table (.compare (f.operand (.property ⟨none, property⟩)) op
      (.literal (Literal.ofValue (.text kind w))))) bindings = .ok plan := by
  apply exists_plan_of_column ht hbase hcolumn (f.restrictingProperty?_operand ⟨none, property⟩)
    hallowed bindings
  intro s _ hreads
  exact Scope.comparison_ordered_caseFunction f hop hreads htext kind w

/-- An order against a text, for a column of text of a base table within `UPPER` or `LOWER`.
Whatever has been added and removed before, the plan selects the entries of the table with a term of
the column whose lower case stands in the relation to the lower case of the text. These are the
entries with a text that stands in the relation by what the function makes of it if and only if the
two agree on all entries of the table that are in use. They do so if the names are plain, the column
stores text, and the text on the right is in the case of the function, within `LOWER` without more,
and within `UPPER` if besides no sign in one of the texts stands between the capital and the small
letters. -/
theorem evaluateWith_ordered_caseFunction (ht : rules.schema.table? table = some t)
    (hbase : t.definition? = none) (hcolumn : t.column? property = some column)
    (htext : column.type.isText = true) (f : CaseFunction) {op : Operator}
    (hop : op.isRange = true) (kind : TextKind) (w : String) (bindings : Bindings) :
    (column.supports op = true →
      ∃ plan, ofQuery rules (.ofTable table (.compare (f.operand (.property ⟨none, property⟩)) op
        (.literal (Literal.ofValue (.text kind w))))) bindings = .ok plan)
      ∧ ∀ {q : Query} {alias? name? : Option String} {right : StaticOperand} {plan : Plan},
        q.source = .selector ⟨table, alias?⟩ →
        q.constraint? = some (.compare (f.operand (.property ⟨name?, property⟩)) op right) →
        right.value? bindings = some (.text kind w) →
        ofQuery rules q bindings = .ok plan →
        ∀ (engine : Regex.Engine) (history : List Change),
          (Snapshot.ofHistory history).evaluateWith engine plan.predicate
              = .ok ((Snapshot.ofHistory history).docsIn table fun e =>
                  CaseFunction.ordersFolded op w (e.termsIn (Field.property table property)))
            ∧ ((Snapshot.ofHistory history).evaluateWith engine plan.predicate
                  = .ok ((Snapshot.ofHistory history).docsIn table fun e =>
                      f.ordersAmong op w (e.textsOf property))
              ↔ ∀ e ∈ (Snapshot.ofHistory history).liveEntries, table ∈ e.tables →
                  CaseFunction.ordersFolded op w (e.termsIn (Field.property table property))
                    = f.ordersAmong op w (e.textsOf property))
            ∧ (Field.IsPlain table →
                (Snapshot.ofHistory history).Stores table property column.type →
                (∀ e ∈ (Snapshot.ofHistory history).liveEntries, table ∈ e.tables →
                  f.IsOrderedOn w (e.textsOf property)) →
                (Snapshot.ofHistory history).evaluateWith engine plan.predicate
                  = .ok ((Snapshot.ofHistory history).docsIn table fun e =>
                      f.ordersAmong op w (e.textsOf property))) := by
  refine ⟨fun hallowed => exists_plan_of_ordered_caseFunction ht hbase hcolumn htext f hop hallowed
    kind w bindings, ?_⟩
  intro q alias? name? right plan hsource hconstraint hvalue hplan engine history
  have h := Snapshot.consistent_ofHistory history
  rw [predicate_of_ordered_caseFunction ht hbase hcolumn htext hop hsource hconstraint hvalue hplan]
  have hcompiles : (Comparison.ordered op (Field.property table property) (Text.lower w)
      false).compiles engine = true := by
    cases op <;> rfl
  have hsatisfies : ∀ e : Entry, table ∈ e.tables →
      e.satisfies engine
          (Comparison.ordered op (Field.property table property) (Text.lower w) false)
        = CaseFunction.ordersFolded op w (e.termsIn (Field.property table property)) :=
    fun e _ => e.satisfies_ordered_folded engine hop (Field.property table property) w
  refine ⟨h.evaluateWith_inTable table hcompiles hsatisfies,
    h.evaluateWith_inTable_iff hcompiles hsatisfies, ?_⟩
  intro hplain hstores hordered
  apply (h.evaluateWith_inTable_iff hcompiles hsatisfies).mpr
  intro e he htable
  -- the terms of a column that stores text are its texts
  obtain ⟨d, hd⟩ := h.mem_liveEntries.mp he
  rw [CaseFunction.ordersFolded_congr
      (hstores.mem_termsIn_iff_mem_textsOf htext hplain hd htable) op w,
    CaseFunction.ordersFolded_eq_ordersAmong (hordered e he htable)]

/-! ## Titles before others -/

/-- The books whose title stands before a text in capitals. -/
def beforeInCapitals (capitals : String) : Query :=
  .ofTable "book" (.compare (CaseFunction.upper.operand (.property ⟨none, "title"⟩)) .lessThan
    (.literal (Literal.ofValue (Value.string capitals))))

/-- Emma stands before F in capitals, and Moby does not. All titles keep their order from one case
to the other. -/
theorem evaluateWith_ordered_caseFunction_shelf :
    ∃ plan, ofQuery bookRules (beforeInCapitals "F") OrderedMap.empty = .ok plan
      ∧ (Snapshot.ofHistory shelf).evaluateWith Regex.engine plan.predicate
        = .ok ((Snapshot.ofHistory shelf).docsIn "book" fun e =>
            CaseFunction.upper.ordersAmong .lessThan "F" (e.textsOf "title"))
      ∧ ((Snapshot.ofHistory shelf).docsIn "book" fun e =>
            CaseFunction.upper.ordersAmong .lessThan "F" (e.textsOf "title")).toList
        = [1, 3] := by
  have htable : bookRules.schema.table? "book" = some bookTable := rfl
  have htitle : bookTable.column? "title" = some (Column.plain "title" .string) := rfl
  have hall : ((Snapshot.ofHistory shelf).liveEntries.all fun e =>
      (e.textsOf "title").all fun t => Text.isCaseOrdered t.toList) = true := by
    decide +kernel
  have hop : Operator.lessThan.isRange = true := rfl
  obtain ⟨hexists, hselects⟩ := evaluateWith_ordered_caseFunction htable rfl htitle rfl .upper hop
    .string "F" OrderedMap.empty
  obtain ⟨plan, hplan⟩ := hexists rfl
  refine ⟨plan, hplan, ?_, by decide +kernel⟩
  apply (hselects rfl rfl rfl hplan Regex.engine shelf).2.2 (by decide +kernel) shelf_stores_title
  intro e he _
  have hordered := List.all_eq_true.mp (List.all_eq_true.mp hall e he)
  exact ⟨by decide +kernel, .inr ⟨by decide +kernel, hordered⟩⟩

/-- No title is found before the underscore, although EMMA stands before it: the underscore itself
stands before the small letters. -/
theorem evaluateWith_underscore_ne :
    ∃ plan, ofQuery bookRules (beforeInCapitals "_") OrderedMap.empty = .ok plan
      ∧ ((Snapshot.ofHistory shelf).evaluateWith Regex.engine plan.predicate).toOption.map
          (·.toList) = some []
      ∧ ((Snapshot.ofHistory shelf).docsIn "book" fun e =>
          (e.textsOf "title").any fun t => decide (Text.upper t < "_")).toList = [1, 3, 4]
      ∧ (Snapshot.ofHistory shelf).evaluateWith Regex.engine plan.predicate
        ≠ .ok ((Snapshot.ofHistory shelf).docsIn "book" fun e =>
            (e.textsOf "title").any fun t => decide (Text.upper t < "_")) := by
  have htable : bookRules.schema.table? "book" = some bookTable := rfl
  have htitle : bookTable.column? "title" = some (Column.plain "title" .string) := rfl
  have hop : Operator.lessThan.isRange = true := rfl
  obtain ⟨plan, hplan⟩ := exists_plan_of_ordered_caseFunction htable rfl htitle rfl .upper hop rfl
    .string "_" OrderedMap.empty
  have hfound : ((Snapshot.ofHistory shelf).evaluateWith Regex.engine
      plan.predicate).toOption.map (·.toList) = some [] := by
    rw [predicate_of_ordered_caseFunction (f := .upper) htable rfl htitle rfl hop rfl rfl rfl hplan]
    decide +kernel
  have hasked : ((Snapshot.ofHistory shelf).docsIn "book" fun e =>
      (e.textsOf "title").any fun t => decide (Text.upper t < "_")).toList = [1, 3, 4] := by
    decide +kernel
  exact ⟨plan, hplan, hfound, hasked, Snapshot.evaluateWith_ne_ok hfound hasked (by decide)⟩

end Plan

end ContentSearch
