import ContentSearch.Proofs.Plan.Meaning
import ContentSearch.Proofs.Query.Translation

/-!
# Predicates of translated constraints

A constraint on the columns of one selector and its translation to the columns behind them have the
same predicate, if both selectors lead to the same fields.
-/

namespace ContentSearch

/-! ## Operands under case functions -/

namespace Operand

variable {rules : ValidationRules} {s : Selector} {f : String → String}

/-- An operand is valid within its case functions. -/
theorem IsValid.withoutCase {o : Operand} (h : o.IsValid rules s) :
    (Scope.withoutCase o).IsValid rules s := by
  induction o with
  | upper o ih => exact ih (isValid_upper.mp h)
  | lower o ih => exact ih (isValid_lower.mp h)
  | _ => exact h

/-- The property whose column restricts the operators of an operand is valid with it. -/
theorem IsValid.restrictingProperty {o : Operand} (h : o.IsValid rules s) {ref : PropertyRef}
    (href : Scope.restrictingProperty? o = some ref) : (Operand.property ref).IsValid rules s := by
  induction o with
  | property ref' =>
    obtain rfl := Option.some.inj href
    exact h
  | length ref' =>
    obtain rfl := Option.some.inj href
    exact isValid_length.mp h
  | upper o ih => exact ih (isValid_upper.mp h) href
  | lower o ih => exact ih (isValid_lower.mp h) href
  | _ => cases href

/-- Translation goes through case functions. -/
theorem withoutCase_translate (o : Operand) :
    Scope.withoutCase (o.translate f) = (Scope.withoutCase o).translate f := by
  induction o with
  | upper o ih | lower o ih => exact ih
  | _ => rfl

/-- Translation keeps which property restricts the operators. -/
theorem restrictingProperty?_translate (o : Operand) :
    Scope.restrictingProperty? (o.translate f)
      = (Scope.restrictingProperty? o).map (PropertyRef.translate f) := by
  induction o with
  | upper o ih | lower o ih => exact ih
  | _ => rfl

/-- Where columns are checked, a valid property has one. -/
theorem IsValid.column (hchecks : rules.checksColumns = true) {t : Table}
    (ht : rules.schema.table? s.table = some t) {ref : PropertyRef}
    (h : (Operand.property ref).IsValid rules s) : ∃ c, t.column? ref.property = some c :=
  (ValidationRules.column_of_propertyProblems hchecks ht (h _ List.mem_cons_self)).2

end Operand

/-! ## Scopes -/

namespace Scope

/-- All references of the first scope mean one selector, whose table shows columns of the table of
the only selector of the second scope. Both lead to the same fields. -/
structure LeadsTo (s s' : Scope) (found found' : PlanSelector) (t t' : Table)
    (f : String → String) : Prop where
  rules : s'.rules = s.rules
  bindings : ∀ {name v}, s.bindings.get? name = some v → s'.bindings.get? name = some v
  only : ∀ {name? selector}, s.selector name? = .ok selector → selector = found
  unnamed : s'.selector none = .ok found'
  table : s.rules.schema.table? found.table = some t
  table' : s.rules.schema.table? found'.table = some t'
  shows : t.Shows t' f
  indexTable : found'.indexTable = found.indexTable
  physical : ∀ {x c}, t.column? x = some c →
    found'.physicalProperty (f x) = found.physicalProperty x

namespace LeadsTo

variable {s s' : Scope} {found found' : PlanSelector} {t t' : Table} {f : String → String}

/-- A column of the first selector is one of the second selector, under its other name. -/
theorem column (h : s.LeadsTo s' found found' t t' f) {x : String} {c : Column}
    (hc : t.column? x = some c) :
    s.column? found x = some c
      ∧ ∃ c', s'.column? found' (f x) = some c' ∧ c.IsCopyOf c' := by
  obtain ⟨c', hc', hcopy⟩ := h.shows x c hc
  refine ⟨?_, c', ?_, hcopy⟩
  · rw [column?, h.table, Option.bind_some, hc]
  · rw [column?, h.rules, h.table', Option.bind_some, hc']

/-- The values behind a column are in the same field on both sides. -/
theorem propertyField_eq (h : s.LeadsTo s' found found' t t' f) {x : String} {c : Column}
    (hc : t.column? x = some c) : found'.propertyField (f x) = found.propertyField x := by
  rw [PlanSelector.propertyField, PlanSelector.propertyField, h.indexTable, h.physical hc]

/-- So are the lengths of the values. -/
theorem lengthField_eq (h : s.LeadsTo s' found found' t t' f) {x : String} {c : Column}
    (hc : t.column? x = some c) : found'.lengthField (f x) = found.lengthField x := by
  rw [PlanSelector.lengthField, PlanSelector.lengthField, h.indexTable, h.physical hc]

/-- So are the words, and those of the whole table. -/
theorem textField_eq (h : s.LeadsTo s' found found' t t' f) {x? : Option String}
    (hx : ∀ x ∈ x?, ∃ c, t.column? x = some c) :
    found'.textField (x?.map f) = found.textField x? := by
  cases x? with
  | none =>
    have htable : found'.textField none = Field.tableText found'.indexTable := rfl
    rw [Option.map_none, htable, h.indexTable]
    rfl
  | some x =>
    obtain ⟨c, hc⟩ := hx x rfl
    have htext : found'.textField (some (f x))
        = Field.text found'.indexTable (found'.physicalProperty (f x)) := rfl
    rw [Option.map_some, htext, h.indexTable, h.physical hc]
    rfl

/-- What is bound on one side is bound on the other. -/
theorem value (h : s.LeadsTo s' found found' t t' f) {right : StaticOperand} {v : Value}
    (hv : s.value right = .ok v) : s'.value right = .ok v := by
  rcases right with l | name
  · exact hv
  · have hbound : s.bindings.get? name = some v := value_eq_ok hv
    simp only [Scope.value, h.bindings hbound]

section
variable (h : s.LeadsTo s' found found' t t' f) (hchecks : s.rules.checksColumns = true)
  {selector : Selector} (ht : s.rules.schema.table? selector.table = some t)
include h hchecks ht

/-- An operator that the column allows is allowed by the column behind it. -/
theorem checkOperator {o : Operand} (ho : o.IsValid s.rules.validation selector)
    {operator : Operator} (hok : s.checkOperator o operator = .ok ()) :
    s'.checkOperator (o.translate f) operator = .ok () := by
  unfold Scope.checkOperator at hok ⊢
  rw [Operand.restrictingProperty?_translate]
  cases href : restrictingProperty? o with
  | none => rfl
  | some ref =>
    obtain ⟨c, hc⟩ := (ho.restrictingProperty href).column hchecks ht
    obtain ⟨hcolumn, c', hcolumn', hcopy⟩ := h.column hc
    have hsupports : c.supports operator = c'.supports operator := by rw [hcopy]; rfl
    simp only [href] at hok
    obtain ⟨selector, hselector, hok⟩ := Outcome.bind_eq_ok hok
    obtain rfl := h.only hselector
    simp only [hcolumn] at hok
    simp only [Option.map_some, PropertyRef.translate, h.unnamed, Outcome.ok_bind, hcolumn',
      ← hsupports]
    split at hok
    · rename_i hyes
      rw [if_pos hyes]
    · cases hok

/-- What a comparison is planned as depends on the field and the type, which both sides share. -/
theorem plainComparison {o : Operand} (ho : o.IsValid s.rules.validation selector)
    {c : Comparison} {p : Predicate} (hok : s.plainComparison o c = .ok p) :
    s'.plainComparison (o.translate f) c = .ok p := by
  cases o with
  | property ref =>
    obtain ⟨column, hc⟩ := ho.column hchecks ht
    obtain ⟨hcolumn, column', hcolumn', hcopy⟩ := h.column hc
    have htype : column.type = column'.type := by rw [hcopy]
    obtain ⟨selector, hselector, hok⟩ := Outcome.bind_eq_ok hok
    obtain rfl := h.only hselector
    -- the comparison asks the same field for the same type
    simp only [hcolumn] at hok
    simp only [Operand.translate, Scope.plainComparison, PropertyRef.translate, h.unnamed,
      Outcome.ok_bind, hcolumn', h.propertyField_eq hc]
    rw [← hok, Option.map_some, Option.map_some, htype]
  | length ref =>
    obtain ⟨column, hc⟩ := (Operand.isValid_length.mp ho).column hchecks ht
    obtain ⟨selector, hselector, hok⟩ := Outcome.bind_eq_ok hok
    obtain rfl := h.only hselector
    simp only [Operand.translate, Scope.plainComparison, PropertyRef.translate, h.unnamed,
      Outcome.ok_bind, h.lengthField_eq hc]
    exact hok
  | _ => exact hok

/-- Comparisons within case functions come down to plain ones. -/
theorem caseComparison {change : String → String} {o : Operand}
    (ho : o.IsValid s.rules.validation selector) {operator : Operator} {v : Value}
    {p : Predicate} (hok : s.caseComparison change o operator v = .ok p) :
    s'.caseComparison change (o.translate f) operator v = .ok p := by
  have hplain : ∀ {c : Comparison} {p : Predicate},
      s.plainComparison (withoutCase o) c = .ok p →
      s'.plainComparison ((withoutCase o).translate f) c = .ok p :=
    fun hok => h.plainComparison hchecks ht ho.withoutCase hok
  unfold Scope.caseComparison at hok ⊢
  rw [Operand.withoutCase_translate]
  by_cases hcase : isInCase change v = true
  · simp only [if_pos hcase] at hok ⊢
    exact hplain hok
  · simp only [if_neg hcase] at hok ⊢
    cases operator with
    | equalTo | like => exact hok
    | _ => exact hplain hok

/-- Comparisons that are planned are planned as the same predicate when they are translated. -/
theorem comparison {o : Operand} (ho : o.IsValid s.rules.validation selector)
    {operator : Operator} {v : Value} {p : Predicate} (hok : s.comparison o operator v = .ok p) :
    s'.comparison (o.translate f) operator v = .ok p := by
  have hcase : s'.rules.caseSensitive = s.rules.caseSensitive := by rw [h.rules]
  cases o with
  | upper o => exact h.caseComparison hchecks ht (Operand.isValid_upper.mp ho) hok
  | lower o => exact h.caseComparison hchecks ht (Operand.isValid_lower.mp ho) hok
  | _ =>
    simp only [Scope.comparison, Operand.translate, hcase] at hok ⊢
    exact h.plainComparison hchecks ht ho hok

/-- A valid constraint has the same predicate in the second scope, under the other names of its
columns. -/
theorem predicate {c : Constraint} (hc : c.IsValid s.rules.validation selector) {p : Predicate}
    (hok : s.predicate c = .ok p) : s'.predicate (c.translate f) = .ok p := by
  induction c generalizing p with
  | and left right ihl ihr =>
    have hboth := Constraint.isValid_and.mp hc
    obtain ⟨first, second, hfirst, hsecond, rfl⟩ := Plan.IsPlannedAs.and.exists_of_predicate hok
    exact Plan.IsPlannedAs.and.predicate_of_parts (ihl hboth.1 hfirst) (ihr hboth.2 hsecond)
  | or left right ihl ihr =>
    have hboth := Constraint.isValid_or.mp hc
    obtain ⟨first, second, hfirst, hsecond, rfl⟩ := Plan.IsPlannedAs.or.exists_of_predicate hok
    exact Plan.IsPlannedAs.or.predicate_of_parts (ihl hboth.1 hfirst) (ihr hboth.2 hsecond)
  | not c ih =>
    obtain ⟨inner, hinner, rfl⟩ := Outcome.map_eq_ok hok
    simp only [Constraint.translate, Scope.predicate, ih (Constraint.isValid_not.mp hc) hinner]
    rfl
  | compare left operator right =>
    obtain ⟨-, hleft⟩ := Constraint.isValid_compare.mp hc
    obtain ⟨_, hcheck, hok⟩ := Outcome.bind_eq_ok hok
    obtain ⟨v, hv, hok⟩ := Outcome.bind_eq_ok hok
    simp only [Constraint.translate, Scope.predicate, h.checkOperator hchecks ht hleft hcheck,
      h.value hv, Outcome.ok_bind]
    exact h.comparison hchecks ht hleft hok
  | child name? path | descendant name? path | same name? path =>
    obtain ⟨_, -, hok⟩ := Outcome.bind_eq_ok hok
    simp only [Constraint.translate, Scope.predicate, h.unnamed, pathTerm, h.rules]
    exact hok
  | contains name? property? expression =>
    obtain ⟨found, hfound, hok⟩ := Outcome.bind_eq_ok hok
    obtain rfl := h.only hfound
    have hcolumns : ∀ x ∈ property?, ∃ c, t.column? x = some c := by
      rintro x rfl
      have hproblems : s.rules.validation.containsProblems (.ofSelector selector) name? (some x)
          = [] := hc _ List.mem_cons_self
      simp only [ValidationRules.containsProblems, List.append_eq_nil_iff] at hproblems
      exact (ValidationRules.column_of_propertyProblems hchecks ht hproblems.1).2
    simp only [Constraint.translate, Scope.predicate, h.unnamed, Outcome.ok_bind,
      h.textField_eq hcolumns]
    exact hok
  | hasValue ref =>
    obtain ⟨found, hfound, hok⟩ := Outcome.bind_eq_ok hok
    obtain rfl := h.only hfound
    obtain ⟨-, column, hcolumn⟩ :=
      ValidationRules.column_of_propertyProblems hchecks ht (hc _ List.mem_cons_self)
    simp only [Constraint.translate, Scope.predicate, PropertyRef.translate, h.unnamed,
      Outcome.ok_bind, h.propertyField_eq hcolumn]
    exact hok

end

end LeadsTo

end Scope

end ContentSearch
