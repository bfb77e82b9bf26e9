import ContentSearch.Proofs.Plan.CaseMapping
import ContentSearch.Proofs.Plan.Operators

/-!
# Unsupported comparisons in one case

Some operands cannot be compared by some operators, whatever text is on the right. The main
statement says when such a comparison has a plan all the same if the operand stands within case
functions: for equality and patterns, where the text is not in the case of the outermost function.
The operand is then passed over, and nothing is selected.
-/

namespace ContentSearch

/-! ## Operands -/

namespace Operand

/-- The operand within case functions, the outermost one first. -/
def withinCases (d : Operand) (fs : List CaseFunction) : Operand :=
  fs.foldr CaseFunction.operand d

/-- The comparisons with a text that no operand of the kind supports: a score by any operator, a
depth by a pattern, a local name by an order, and a column that is not of text by a pattern. -/
inductive Unsupported (rules : ValidationRules) (ss : List Selector) : Operand → Operator → Prop
  | score (name? : Option String) (op : Operator) : Unsupported rules ss (.score name?) op
  | depth (name? : Option String) : Unsupported rules ss (.depth name?) .like
  | localName (name? : Option String) {op : Operator} (hop : op.isRange = true) :
    Unsupported rules ss (.localName name?) op
  | property {ref : PropertyRef} {column : Column}
    (hcolumn : rules.HasColumn ss ref.selector? ref.property column)
    (htext : column.type.isText = false) : Unsupported rules ss (.property ref) .like

variable {d : Operand}

/-- The functions do not change what restricts the operators. -/
theorem restrictingProperty?_withinCases (d : Operand) (fs : List CaseFunction) :
    Scope.restrictingProperty? (d.withinCases fs) = Scope.restrictingProperty? d := by
  induction fs with
  | nil => rfl
  | cons f fs ih => cases f <;> exact ih

theorem withoutCase_withinCases (d : Operand) (fs : List CaseFunction) :
    Scope.withoutCase (d.withinCases fs) = Scope.withoutCase d := by
  induction fs with
  | nil => rfl
  | cons f fs ih => cases f <;> exact ih

theorem isValid_withinCases {rules : ValidationRules} {s : Selector} (fs : List CaseFunction) :
    (d.withinCases fs).IsValid rules s ↔ d.IsValid rules s := by
  induction fs with
  | nil => exact Iff.rfl
  | cons f fs ih =>
    cases f with
    | upper => exact isValid_upper.trans ih
    | lower => exact isValid_lower.trans ih

variable {rules : ValidationRules} {ss : List Selector} {op : Operator}

/-- No such operand is a case function itself. -/
theorem Unsupported.withoutCase (h : d.Unsupported rules ss op) : Scope.withoutCase d = d := by
  cases h <;> rfl

/-- Only a score cannot be compared by inequality. -/
theorem Unsupported.eq_score (h : d.Unsupported rules ss .notEqualTo) :
    ∃ name?, d = .score name? := by
  cases h with
  | score name? => exact ⟨name?, rfl⟩
  | localName _ hop => cases hop

/-- In a query of one table, an operand that refers to it by no name is valid. -/
theorem Unsupported.isValid {selector : Selector} (h : d.Unsupported rules [selector] op)
    (hunnamed : d.reference.selector? = none) : d.IsValid rules selector := by
  intro node hnode
  cases h with
  | score name? | depth name? | localName name? =>
    obtain rfl : name? = none := hunnamed
    obtain rfl := List.mem_singleton.mp hnode
    rfl
  | @property ref column hcolumn =>
    obtain ⟨name?, property⟩ := ref
    obtain rfl : name? = none := hunnamed
    obtain ⟨m, hm, t, ht, hcolumn⟩ := hcolumn
    obtain rfl : selector = m := (List.cons.inj hm).1
    obtain rfl := List.mem_singleton.mp hnode
    exact ValidationRules.propertyProblems_of_column ht hcolumn .property

end Operand

/-! ## Comparisons -/

/-- Whether a comparison passes its operand over: it asks for equality or a pattern, and the
function would change the text on the right. -/
def CaseFunction.PassesOver (f : CaseFunction) (op : Operator) (w : String) : Prop :=
  (op = .equalTo ∨ op = .like) ∧ f.map w ≠ w

namespace Scope

variable {s : Scope} {ss : List Selector} {d : Operand} {op : Operator}

/-- Where the operand is passed over, whatever it is, the comparison selects nothing. -/
theorem comparison_of_passesOver (s : Scope) {f : CaseFunction} {w : String}
    (h : f.PassesOver op w) (inner : Operand) (kind : TextKind) :
    s.comparison (f.operand inner) op (.text kind w) = .ok .nothing := by
  obtain ⟨hop, hw⟩ := h
  have hinCase : isInCase f.map (.text kind w) = false := beq_eq_false_iff_ne.mpr hw
  rw [comparison_operand]
  unfold caseComparison
  rw [hinCase]
  rcases hop with rfl | rfl <;> rfl

/-- Outside of case functions, no unsupported comparison has a predicate. -/
theorem Covers.plainComparison_ne_ok (hs : s.Covers ss)
    (h : d.Unsupported s.rules.validation ss op) (v : Value) (caseSensitive : Bool)
    (p : Predicate) : s.plainComparison d ⟨op, v, caseSensitive⟩ ≠ .ok p := by
  intro hp
  cases h with
  | score name? => cases hp
  | depth name? => cases hp
  | localName name? hop =>
    cases op with
    | lessThan | lessOrEqual | greaterThan | greaterOrEqual => cases hp
    | _ => cases hop
  | @property ref column hcolumn htext =>
    obtain ⟨found, hfound, hcolumn⟩ := hs.exists_column hcolumn
    have hfilter : (some column.type).filter (!·.isText) = some column.type := by
      simp [Option.filter, htext]
    unfold plainComparison at hp
    simp only [hfound, Outcome.ok_bind, hcolumn, Option.map_some, Comparison.onProperty,
      Comparison.propertyLike, hfilter] at hp
    cases hp

/-- Within case functions, an unsupported comparison has a predicate only where its operand is
passed over, and then it selects nothing. -/
theorem Covers.comparison_withinCases_iff (hs : s.Covers ss)
    (h : d.Unsupported s.rules.validation ss op) (f : CaseFunction) (fs : List CaseFunction)
    (kind : TextKind) (w : String) (p : Predicate) :
    s.comparison (d.withinCases (f :: fs)) op (.text kind w) = .ok p
      ↔ f.PassesOver op w ∧ p = .nothing := by
  by_cases hpasses : f.PassesOver op w
  · have hnothing := comparison_of_passesOver s hpasses (d.withinCases fs) kind
    rw [show d.withinCases (f :: fs) = f.operand (d.withinCases fs) from rfl, hnothing,
      Except.ok.injEq, eq_comm]
    exact (and_iff_right hpasses).symm
  -- otherwise the operand itself is compared, without regard to case
  have hcase : s.comparison (d.withinCases (f :: fs)) op (.text kind w)
      = s.caseComparison f.map (d.withinCases fs) op (.text kind w) :=
    comparison_operand f (d.withinCases fs) op (.text kind w)
  have hinner : withoutCase (d.withinCases fs) = d := by
    rw [Operand.withoutCase_withinCases, h.withoutCase]
  have hplain : s.plainComparison d ⟨op, .text kind w, false⟩ ≠ .ok p :=
    hs.plainComparison_ne_ok h _ _ p
  refine iff_of_false ?_ fun hboth => hpasses hboth.1
  rw [hcase]
  unfold caseComparison
  simp only [hinner]
  split
  · exact hplain
  · rename_i hw
    have hchanged : f.map w ≠ w := fun heq => hw (beq_iff_eq.mpr heq)
    cases op with
    | equalTo => exact absurd ⟨.inl rfl, hchanged⟩ hpasses
    | like => exact absurd ⟨.inr rfl, hchanged⟩ hpasses
    | notEqualTo =>
      -- a pattern for any text is planned instead, and a score does not support it either
      obtain ⟨name?, rfl⟩ := h.eq_score
      exact nofun
    | lessThan | lessOrEqual | greaterThan | greaterOrEqual => exact hplain

end Scope

/-! ## Plans -/

namespace Plan

variable {rules : PlanRules} {d : Operand} {op : Operator}

/-- A plan with an unsupported comparison within case functions passes the operand over. -/
theorem passesOver_of_ofQuery {q : Query}
    (h : d.Unsupported rules.validation q.source.selectors op) (f : CaseFunction)
    (fs : List CaseFunction) {right : StaticOperand}
    (hconstraint : q.constraint? = some (.compare (d.withinCases (f :: fs)) op right))
    {bindings : Bindings} {kind : TextKind} {w : String}
    (hvalue : right.value? bindings = some (.text kind w)) {plan : Plan}
    (hplan : ofQuery rules q bindings = .ok plan) :
    f.PassesOver op w ∧ plan.constraint? = some .nothing := by
  obtain ⟨s, rfl, rfl, hresolved, hselectors, -, hp, -⟩ := ofQueryWith_eq_ok hplan
  have hcovers : s.Covers q.source.selectors :=
    covers_of_expandSelectors (keepsNames_expandSelector s.rules maxViewDepth)
      (ValidationRules.knows_of_resolve hresolved) hselectors
  rw [hconstraint] at hp
  obtain ⟨p, hp, hsome⟩ := Outcome.map_eq_ok hp
  rw [Scope.predicate] at hp
  obtain ⟨-, -, hp⟩ := Outcome.bind_eq_ok hp
  obtain ⟨v, hv, hp⟩ := Outcome.bind_eq_ok hp
  obtain rfl := Option.some.inj (hvalue.symm.trans (Scope.value_eq_ok hv))
  obtain ⟨hpasses, rfl⟩ := (hcovers.comparison_withinCases_iff h f fs kind w p).mp hp
  exact ⟨hpasses, hsome.symm⟩

/-- Where the operand is passed over, nothing is left that could be refused in a query of a base
table but the operator, by the column. -/
theorem exists_plan_of_passesOver {table : String} {t : Table}
    (ht : rules.schema.table? table = some t) (hbase : t.definition? = none)
    (h : d.Unsupported rules.validation [⟨table, none⟩] op)
    (hunnamed : d.reference.selector? = none)
    (hallowed : ∀ ref, Scope.restrictingProperty? d = some ref →
      ∀ column, t.column? ref.property = some column → column.supports op = true)
    {f : CaseFunction} {w : String} (hpasses : f.PassesOver op w) (fs : List CaseFunction)
    (kind : TextKind) (bindings : Bindings) :
    ∃ plan, ofQuery rules (.ofTable table (.compare (d.withinCases (f :: fs)) op
      (.literal (Literal.ofValue (.text kind w))))) bindings = .ok plan := by
  have hvalid : (d.withinCases (f :: fs)).IsValid rules.validation ⟨table, none⟩ :=
    (Operand.isValid_withinCases (f :: fs)).mpr (h.isValid hunnamed)
  have hproblems : rules.validation.constraintProblems (.ofSelector ⟨table, none⟩)
      (.compare (d.withinCases (f :: fs)) op (.literal (Literal.ofValue (.text kind w)))) = [] := by
    cases f <;> rfl
  apply exists_plan_of_comparison ht hbase (Constraint.isValid_compare.mpr ⟨hproblems, hvalid⟩)
  intro s hs
  refine ⟨?_, .nothing, Scope.comparison_of_passesOver s hpasses (d.withinCases fs) kind⟩
  have hrestricts := Operand.restrictingProperty?_withinCases d (f :: fs)
  cases h with
  | @property ref column hcolumn =>
    obtain ⟨name?, property⟩ := ref
    obtain rfl : name? = none := hunnamed
    obtain ⟨m, hm, t', ht', hcolumn⟩ := hcolumn
    obtain rfl := (List.cons.inj hm).1
    obtain rfl := Option.some.inj (ht.symm.trans ht')
    exact (hs.readsColumn ht hcolumn).checkOperator hrestricts (hallowed _ rfl column hcolumn)
  | _ =>
    unfold Scope.checkOperator
    rw [hrestricts]
    rfl

/-- A comparison with a text that its operand does not support, within case functions nested in any
way. A query with this constraint is refused unless the operand is passed over, and where a query
has a plan all the same, the constraint selects nothing. A query of a base table is refused if and
only if the operand is not passed over, as long as the operand refers to the table by no name and
its column, if it is one, allows the operator. -/
theorem ofQuery_unsupported (rules : PlanRules) (d : Operand) (op : Operator) (f : CaseFunction)
    (fs : List CaseFunction) (kind : TextKind) (w : String) (bindings : Bindings) :
    (∀ {q : Query} {right : StaticOperand},
      d.Unsupported rules.validation q.source.selectors op →
      q.constraint? = some (.compare (d.withinCases (f :: fs)) op right) →
      right.value? bindings = some (.text kind w) →
      (∃ e, ofQuery rules q bindings = .error e)
        ∨ f.PassesOver op w
          ∧ ∃ plan, ofQuery rules q bindings = .ok plan ∧ plan.constraint? = some .nothing)
      ∧ ∀ {table : String} {t : Table}, rules.schema.table? table = some t →
        t.definition? = none → d.Unsupported rules.validation [⟨table, none⟩] op →
        d.reference.selector? = none →
        (∀ ref, Scope.restrictingProperty? d = some ref →
          ∀ column, t.column? ref.property = some column → column.supports op = true) →
        ((∃ e, ofQuery rules (.ofTable table (.compare (d.withinCases (f :: fs)) op
            (.literal (Literal.ofValue (.text kind w))))) bindings = .error e)
          ↔ ¬f.PassesOver op w) := by
  constructor
  · intro q right h hconstraint hvalue
    cases hplan : ofQuery rules q bindings with
    | error e => exact .inl ⟨e, rfl⟩
    | ok plan =>
      obtain ⟨hpasses, hnothing⟩ := passesOver_of_ofQuery h f fs hconstraint hvalue hplan
      exact .inr ⟨hpasses, plan, rfl, hnothing⟩
  · intro table t ht hbase h hunnamed hallowed
    rw [Outcome.exists_error_iff]
    constructor
    · intro hrefused hpasses
      obtain ⟨plan, hplan⟩ :=
        exists_plan_of_passesOver ht hbase h hunnamed hallowed hpasses fs kind bindings
      exact hrefused plan hplan
    · intro hpasses plan hplan
      exact hpasses (passesOver_of_ofQuery h f fs rfl rfl hplan).1

/-! ## Scores and numbers as text -/

/-- The books for which an operand within case functions compares with a text. -/
def booksByCase (d : Operand) (fs : List CaseFunction) (op : Operator) (w : String) : Query :=
  .ofTable "book" (.compare (d.withinCases fs) op (.literal (Literal.ofValue (Value.string w))))

/-- Neither a score that differs from a text nor numbers that match a pattern are planned. -/
theorem ofQuery_unsupported_book :
    (∃ e, ofQuery bookRules (booksByCase (.score none) [.upper, .lower] .notEqualTo "Abc")
        OrderedMap.empty = .error e)
      ∧ ∃ e, ofQuery bookRules (booksByCase (.property ⟨none, "pages"⟩) [.lower] .like "7%")
        OrderedMap.empty = .error e := by
  have htable : bookRules.schema.table? "book" = some bookTable := rfl
  have hpages : bookTable.column? "pages" = some (Column.plain "pages" .long) := rfl
  constructor
  · refine ((ofQuery_unsupported bookRules (.score none) .notEqualTo .upper [.lower] .string "Abc"
      OrderedMap.empty).1 (.score none .notEqualTo) rfl rfl).resolve_right ?_
    intro hplanned
    exact absurd hplanned.1.1 (by decide)
  · have hunsupported : (Operand.property ⟨none, "pages"⟩).Unsupported bookRules.validation
        [⟨"book", none⟩] .like :=
      .property ⟨_, rfl, bookTable, htable, hpages⟩ rfl
    refine ((ofQuery_unsupported bookRules (.property ⟨none, "pages"⟩) .like .lower [] .string "7%"
      OrderedMap.empty).2 htable rfl hunsupported rfl ?_).mpr ?_
    · intro ref href column hcolumn
      obtain rfl := Option.some.inj href
      obtain rfl := Option.some.inj (hpages.symm.trans hcolumn)
      rfl
    · intro hpasses
      exact hpasses.2 (by decide +kernel)

/-- A score in capitals that equals a text in small letters has a plan, although scores cannot be
compared, and without the function the query is refused. -/
theorem ofQuery_score_ne_error :
    (∃ plan, ofQuery bookRules (booksByCase (.score none) [.upper] .equalTo "abc") OrderedMap.empty
        = .ok plan ∧ plan.constraint? = some .nothing)
      ∧ ∃ e, ofQuery bookRules (booksByCase (.score none) [] .equalTo "abc") OrderedMap.empty
        = .error e := by
  have hisOk : (ofQuery bookRules (booksByCase (.score none) [.upper] .equalTo "abc")
      OrderedMap.empty).isOk = true := by
    decide +kernel
  have hrefused : (ofQuery bookRules (booksByCase (.score none) [] .equalTo "abc")
      OrderedMap.empty).isOk = false := by
    decide +kernel
  constructor
  · obtain ⟨plan, hplan⟩ := Outcome.exists_of_isOk hisOk
    have hunsupported : (Operand.score none).Unsupported bookRules.validation
        (booksByCase (.score none) [.upper] .equalTo "abc").source.selectors .equalTo :=
      .score none .equalTo
    exact ⟨plan, hplan, (passesOver_of_ofQuery hunsupported .upper [] rfl rfl hplan).2⟩
  · rw [Outcome.exists_error_iff]
    intro plan hplan
    rw [hplan] at hrefused
    cases hrefused

end Plan

end ContentSearch
