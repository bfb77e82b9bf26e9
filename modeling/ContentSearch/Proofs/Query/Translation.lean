import ContentSearch.Proofs.Query.Validity
import ContentSearch.Proofs.Schema.Draft

/-!
# Constraints on other columns

A constraint on the columns of one table becomes a constraint on the columns of another one when
every column name is replaced. If the columns of the first table are shown from the second one, a
valid constraint stays valid.
-/

namespace ContentSearch

/-! ## Translations -/

/-- The reference to a property under its new name, of the only selector there is. -/
def PropertyRef.translate (f : String → String) (ref : PropertyRef) : PropertyRef :=
  ⟨none, f ref.property⟩

/-- The operand with new names of properties. -/
def Operand.translate (f : String → String) : Operand → Operand
  | .property ref => .property (ref.translate f)
  | .length ref => .length (ref.translate f)
  | .name _ => .name none
  | .localName _ => .localName none
  | .depth _ => .depth none
  | .score _ => .score none
  | .upper o => .upper (o.translate f)
  | .lower o => .lower (o.translate f)

/-- The constraint with new names of properties, on the only selector there is. -/
def Constraint.translate (f : String → String) : Constraint → Constraint
  | .and left right => .and (left.translate f) (right.translate f)
  | .or left right => .or (left.translate f) (right.translate f)
  | .not c => .not (c.translate f)
  | .compare left operator right => .compare (left.translate f) operator right
  | .child _ path => .child none path
  | .descendant _ path => .descendant none path
  | .same _ path => .same none path
  | .contains _ property? expression => .contains none (property?.map f) expression
  | .hasValue ref => .hasValue (ref.translate f)

/-! ## Valid parts -/

/-- Nothing is wrong with the operand in a query of the selector. -/
def Operand.IsValid (rules : ValidationRules) (s : Selector) (o : Operand) : Prop :=
  ∀ node ∈ Node.walkOperand o, rules.problems (.ofSelector s) node = []

/-- Nothing is wrong with the constraint in a query of the selector. -/
def Constraint.IsValid (rules : ValidationRules) (s : Selector) (c : Constraint) : Prop :=
  ∀ node ∈ Node.walkConstraint c, rules.problems (.ofSelector s) node = []

section
variable {rules : ValidationRules} {s : Selector}

/-- Case functions do not change where an operand is valid. -/
theorem Operand.isValid_upper {o : Operand} :
    (Operand.upper o).IsValid rules s ↔ o.IsValid rules s := by
  simp [IsValid, Node.walkOperand, ValidationRules.problems, ValidationRules.operandProblems]

theorem Operand.isValid_lower {o : Operand} :
    (Operand.lower o).IsValid rules s ↔ o.IsValid rules s := by
  simp [IsValid, Node.walkOperand, ValidationRules.problems, ValidationRules.operandProblems]

/-- The length of a property is valid where the property is. -/
theorem Operand.isValid_length {ref : PropertyRef} :
    (Operand.length ref).IsValid rules s ↔ (Operand.property ref).IsValid rules s := by
  simp [IsValid, Node.walkOperand, ValidationRules.problems, ValidationRules.operandProblems]

namespace Constraint

/-- Both sides of a conjunction have to be valid. -/
theorem isValid_and {left right : Constraint} :
    (Constraint.and left right).IsValid rules s
      ↔ left.IsValid rules s ∧ right.IsValid rules s := by
  simp [IsValid, Node.walkConstraint, ValidationRules.problems,
    ValidationRules.constraintProblems, or_imp, forall_and]

theorem isValid_or {left right : Constraint} :
    (Constraint.or left right).IsValid rules s
      ↔ left.IsValid rules s ∧ right.IsValid rules s := by
  simp [IsValid, Node.walkConstraint, ValidationRules.problems,
    ValidationRules.constraintProblems, or_imp, forall_and]

theorem isValid_not {c : Constraint} :
    (Constraint.not c).IsValid rules s ↔ c.IsValid rules s := by
  simp [IsValid, Node.walkConstraint, ValidationRules.problems,
    ValidationRules.constraintProblems]

/-- A comparison is valid if its operand is, and if it is sound itself. -/
theorem isValid_compare {left : Operand} {operator : Operator} {right : StaticOperand} :
    (Constraint.compare left operator right).IsValid rules s
      ↔ rules.constraintProblems (.ofSelector s) (.compare left operator right) = []
        ∧ left.IsValid rules s := by
  simp [IsValid, Operand.IsValid, Node.walkConstraint, ValidationRules.problems, or_imp,
    forall_and]

end Constraint

end

/-! ## References -/

/-- Where there is one selector, a reference without a name means it. -/
theorem ResolvedQuery.selector?_ofSelector (s : Selector) :
    (ofSelector s).selector? none = some s.name := rfl

/-- Whatever name a reference has, it means the only selector or none. -/
theorem ResolvedQuery.eq_of_selector?_ofSelector {s : Selector} {name? : Option String}
    {found : String} (h : (ofSelector s).selector? name? = some found) : found = s.name := by
  cases name? with
  | none => exact (Option.some.inj h).symm
  | some name =>
    have hname :
        (if (ofSelector s).selectors.contains name then some name else none) = some found :=
      h
    split at hname
    · rename_i hcontains
      obtain rfl := Option.some.inj hname
      rw [OrderedMap.contains, ofSelector, OrderedMap.get?_insert] at hcontains
      split at hcontains
      · assumption
      · cases hcontains
    · cases hname

theorem ResolvedQuery.get?_ofSelector (s : Selector) :
    (ofSelector s).selectors.get? s.name = some s.table := by
  rw [ofSelector, OrderedMap.get?_insert, if_pos rfl]

namespace ValidationRules

variable {rules : ValidationRules} {s : Selector} {t : Table}

/-- Where columns are checked, a valid property is a column of the table. -/
theorem column_of_propertyProblems (hchecks : rules.checksColumns = true)
    (ht : rules.schema.table? s.table = some t) {name? : Option String} {property : String}
    {site : ReferenceSite}
    (h : rules.propertyProblems (.ofSelector s) name? property site = []) :
    (ResolvedQuery.ofSelector s).selector? name? = some s.name
      ∧ ∃ c, t.column? property = some c := by
  unfold propertyProblems at h
  split at h
  · cases h
  · rename_i found hfound
    obtain rfl := ResolvedQuery.eq_of_selector?_ofSelector hfound
    refine ⟨hfound, ?_⟩
    rw [ResolvedQuery.get?_ofSelector, Option.bind_some, ht, hchecks] at h
    cases hc : t.column? property with
    | some c => exact ⟨c, rfl⟩
    | none => simp [hc] at h

/-- A column of the only table can be referred to without naming the selector. -/
theorem propertyProblems_of_column (ht : rules.schema.table? s.table = some t) {property : String}
    {c : Column} (hc : t.column? property = some c) (site : ReferenceSite) :
    rules.propertyProblems (.ofSelector s) none property site = [] := by
  unfold propertyProblems
  rw [ResolvedQuery.selector?_ofSelector]
  simp only [ResolvedQuery.get?_ofSelector, Option.bind_some, ht, hc, Option.isNone_some,
    Bool.and_false, Bool.false_eq_true, if_false]

/-- Columns are looked up in the only table. -/
theorem columnOf?_ofSelector (ht : rules.schema.table? s.table = some t) {name? : Option String}
    (hname : (ResolvedQuery.ofSelector s).selector? name? = some s.name) (property : String) :
    rules.columnOf? (.ofSelector s) name? property = t.column? property := by
  rw [columnOf?, ResolvedQuery.table?, hname, Option.bind_some, ResolvedQuery.get?_ofSelector,
    Option.bind_some, ht, Option.bind_some]

end ValidationRules

/-! ## Valid translations -/

section
variable {rules : ValidationRules} (hchecks : rules.checksColumns = true) {s s' : Selector}
  {t t' : Table} (ht : rules.schema.table? s.table = some t)
  (ht' : rules.schema.table? s'.table = some t') {f : String → String} (hshows : t.Shows t' f)
include hchecks ht ht' hshows

/-- A reference without problem stays so when it is translated. -/
theorem ValidationRules.propertyProblems_translate {name? : Option String} {property : String}
    {site : ReferenceSite}
    (h : rules.propertyProblems (.ofSelector s) name? property site = []) :
    rules.propertyProblems (.ofSelector s') none (f property) site = [] := by
  obtain ⟨-, c, hc⟩ := column_of_propertyProblems hchecks ht h
  obtain ⟨c', hc', -⟩ := hshows property c hc
  exact propertyProblems_of_column ht' hc' site

/-- A full-text condition without problem stays so when it is translated, as what is shown is as
searchable as what shows it. -/
theorem ValidationRules.containsProblems_translate {name? property? : Option String}
    (h : rules.containsProblems (.ofSelector s) name? property? = []) :
    rules.containsProblems (.ofSelector s') none (property?.map f) = [] := by
  cases property? with
  | none => rfl
  | some property =>
    simp only [containsProblems, List.append_eq_nil_iff] at h
    obtain ⟨hname, c, hc⟩ := column_of_propertyProblems hchecks ht h.1
    obtain ⟨c', hc', hcopy⟩ := hshows property c hc
    -- the column in the other table is as searchable as this one
    have hsearchable : c.searchable = c'.searchable := by rw [hcopy]
    have hsearch := h.2
    rw [columnOf?_ofSelector ht hname, hc] at hsearch
    simp only [Option.map_some, containsProblems,
      propertyProblems_translate hchecks ht ht' hshows h.1,
      columnOf?_ofSelector ht' (ResolvedQuery.selector?_ofSelector s'), hc', List.nil_append,
      ← hsearchable]
    cases hyes : c.searchable with
    | true => rfl
    | false => simp [hyes] at hsearch

/-- A valid operand stays valid when it is translated. -/
theorem Operand.IsValid.translate {o : Operand} (h : o.IsValid rules s) :
    (o.translate f).IsValid rules s' := by
  have hproperty : ∀ {ref : PropertyRef}, (Operand.property ref).IsValid rules s →
      (Operand.property (ref.translate f)).IsValid rules s' := by
    intro ref href node hnode
    obtain rfl := List.mem_singleton.mp hnode
    exact ValidationRules.propertyProblems_translate hchecks ht ht' hshows
      (href _ List.mem_cons_self)
  induction o with
  | property ref => exact hproperty h
  | length ref => exact isValid_length.mpr (hproperty (isValid_length.mp h))
  | upper o ih => exact isValid_upper.mpr (ih (isValid_upper.mp h))
  | lower o ih => exact isValid_lower.mpr (ih (isValid_lower.mp h))
  | _ =>
    intro node hnode
    obtain rfl := List.mem_singleton.mp hnode
    rfl

/-- A valid constraint stays valid under the names that its columns are shown from. -/
theorem Constraint.IsValid.translate {c : Constraint} (h : c.IsValid rules s) :
    (c.translate f).IsValid rules s' := by
  induction c with
  | and left right ihl ihr =>
    have hboth := isValid_and.mp h
    exact isValid_and.mpr ⟨ihl hboth.1, ihr hboth.2⟩
  | or left right ihl ihr =>
    have hboth := isValid_or.mp h
    exact isValid_or.mpr ⟨ihl hboth.1, ihr hboth.2⟩
  | not c ih => exact isValid_not.mpr (ih (isValid_not.mp h))
  | compare left operator right =>
    obtain ⟨hcompare, hleft⟩ := isValid_compare.mp h
    refine isValid_compare.mpr ⟨?_, hleft.translate hchecks ht ht' hshows⟩
    cases left with
    | name name? =>
      -- what the name is compared with stays the same
      rcases right with l | v
      · simp only [ValidationRules.constraintProblems, Operand.translate] at hcompare ⊢
        split at hcompare
        · cases hcompare
        · rename_i hcomparable
          rw [if_neg hcomparable]
      · rfl
    | _ => rfl
  | contains name? property? expression =>
    intro node hnode
    obtain rfl := List.mem_singleton.mp hnode
    exact ValidationRules.containsProblems_translate hchecks ht ht' hshows
      (h _ List.mem_cons_self)
  | hasValue ref =>
    intro node hnode
    obtain rfl := List.mem_singleton.mp hnode
    exact ValidationRules.propertyProblems_translate hchecks ht ht' hshows
      (h _ List.mem_cons_self)
  | child name? path | descendant name? path | same name? path =>
    intro node hnode
    obtain rfl := List.mem_singleton.mp hnode
    rfl

end

end ContentSearch
