import ContentSearch.Plan.Comparison
import ContentSearch.Proofs.Index.Expressions
import ContentSearch.Proofs.Index.Term
import Mathlib.Data.Bool.Basic

/-!
# Operators as relations

What a comparison says of the values of a property, and that it says the same of their terms.
-/

namespace ContentSearch

/-! ## Relations -/

namespace Operator

section
variable {α : Type} [LT α] [LE α] [DecidableLT α] [DecidableLE α] [DecidableEq α]

/-- Whether two members of an order are related as the operator says. Patterns relate nothing. -/
def relates : Operator → α → α → Bool
  | .equalTo, a, b => a = b
  | .notEqualTo, a, b => a ≠ b
  | .lessThan, a, b => a < b
  | .lessOrEqual, a, b => a ≤ b
  | .greaterThan, a, b => b < a
  | .greaterOrEqual, a, b => b ≤ a
  | .like, _, _ => false

end

/-- Whether an operator holds of several things: one of them stands in the relation, and for
inequality there is one, and none of them is equal. -/
def holdsAmong {α : Type} (op : Operator) (relates : Operator → α → Bool) (xs : List α) : Bool :=
  match op with
  | .notEqualTo => !xs.isEmpty && !xs.any (relates .equalTo)
  | op => xs.any (relates op)

/-- Pairs of members that are ordered alike are related alike. -/
theorem relates_congr {α β : Type} [LT α] [LE α] [DecidableLT α] [DecidableLE α] [DecidableEq α]
    [Std.IsLinearOrder α] [Std.LawfulOrderLT α] [LT β] [LE β] [DecidableLT β] [DecidableLE β]
    [DecidableEq β] [Std.IsLinearOrder β] [Std.LawfulOrderLT β] {a b : α} {a' b' : β}
    (hlt : a' < b' ↔ a < b) (hgt : b' < a' ↔ b < a) (op : Operator) :
    op.relates a' b' = op.relates a b := by
  have hle : a' ≤ b' ↔ a ≤ b := by rw [← Std.not_lt, ← Std.not_lt, hgt]
  have hge : b' ≤ a' ↔ b ≤ a := by rw [← Std.not_lt, ← Std.not_lt, hlt]
  have heq : a' = b' ↔ a = b := by
    constructor
    · intro h
      exact Std.le_antisymm (hle.mp (Std.le_of_eq h)) (hge.mp (Std.le_of_eq h.symm))
    · intro h
      exact Std.le_antisymm (hle.mpr (Std.le_of_eq h)) (hge.mpr (Std.le_of_eq h.symm))
  cases op <;> simp [relates, hlt, hgt, hle, hge, heq]

theorem holdsAmong_map {α β : Type} {f : α → β} {xs : List α} {ys : List β}
    (hmem : ∀ y, y ∈ ys ↔ ∃ x ∈ xs, f x = y) {relatesX : Operator → α → Bool}
    {relatesY : Operator → β → Bool} (hrelates : ∀ op, ∀ x ∈ xs, relatesY op (f x) = relatesX op x)
    (op : Operator) : op.holdsAmong relatesY ys = op.holdsAmong relatesX xs := by
  have hany : ∀ op, ys.any (relatesY op) = xs.any (relatesX op) := by
    intro op
    rw [Bool.eq_iff_iff, List.any_eq_true, List.any_eq_true]
    constructor
    · rintro ⟨y, hy, hrel⟩
      obtain ⟨x, hx, rfl⟩ := (hmem y).mp hy
      exact ⟨x, hx, by rw [← hrelates op x hx, hrel]⟩
    · rintro ⟨x, hx, hrel⟩
      exact ⟨f x, (hmem _).mpr ⟨x, hx, rfl⟩, by rw [hrelates op x hx, hrel]⟩
  -- inequality also asks whether there is anything at all
  have hempty : ys.isEmpty = xs.isEmpty := by
    rw [Bool.eq_iff_iff, List.isEmpty_iff, List.isEmpty_iff, List.eq_nil_iff_forall_not_mem,
      List.eq_nil_iff_forall_not_mem]
    constructor
    · intro hnone x hx
      exact hnone (f x) ((hmem _).mpr ⟨x, hx, rfl⟩)
    · intro hnone y hy
      obtain ⟨x, hx, -⟩ := (hmem y).mp hy
      exact hnone x hx
  cases op <;> simp only [holdsAmong, hany, hempty]

end Operator

/-! ## Values -/

namespace Value

/-- Whether two values of one type are related: integers as numbers, instants by their
milliseconds, texts by their characters, and false before true. -/
def relates (op : Operator) : Value → Value → Bool
  | .long n, .long m => op.relates n.toInt m.toInt
  | .date s, .date t => op.relates s.millis t.millis
  | .boolean a, .boolean b => op.relates a b
  | .text _ s, .text _ t => op.relates s t
  | _, _ => false

/-- Whether a value is of a type; for texts it does not matter what they are for. -/
def isLike (v : Value) (type : PropertyType) : Bool :=
  v.type == type || v.type.isText && type.isText

end Value

/-- The types whose values are in the order of their terms. -/
def PropertyType.isOrdered : PropertyType → Bool
  | .text _ | .long | .date | .boolean => true
  | .binary | .double | .decimal => false

/-- Values of one type are related like their terms. -/
theorem Value.relates_eq_terms {v w : Value} (hordered : w.type.isOrdered = true)
    (hlike : v.isLike w.type = true) (op : Operator) :
    op.relates (Term.ofValue v) (Term.ofValue w) = v.relates op w := by
  cases w with
  | text kind s =>
    cases v with
    | text kind' s' => rfl
    | _ => cases hlike
  | long n =>
    cases v with
    | long m => exact Operator.relates_congr Term.ofLong_lt_iff Term.ofLong_lt_iff op
    | _ => cases hlike
  | date t =>
    cases v with
    | date s => exact Operator.relates_congr Term.ofInstant_lt_iff Term.ofInstant_lt_iff op
    | _ => cases hlike
  | boolean b =>
    cases v with
    | boolean a =>
      exact Operator.relates_congr Term.booleanText_lt_iff Term.booleanText_lt_iff op
    | _ => cases hlike
  | binary bytes | double x | decimal d => cases hordered

/-! ## Predicates -/

namespace Comparison

/-- The predicate for the terms of a field that stand in a relation to a term. -/
def termPredicate (op : Operator) (field term : String) : Predicate :=
  match op with
  | .equalTo => .term field term true
  | .notEqualTo => differing field (.term field term true)
  | op => ordered op field term true

/-- With regard to case, a property is compared by the term of the value in the type of the
column. -/
theorem onProperty_eq_ok {c : Comparison} {field : String} {type : PropertyType} {p : Predicate}
    (hcase : c.caseSensitive = true) (hlike : c.operator ≠ .like)
    (h : c.onProperty field (some type) = .ok p) :
    ∃ w, c.value.cast type = .ok w ∧ p = termPredicate c.operator field (Term.ofValue w) := by
  have hterm : ∀ {term sensitive}, c.propertyTerm (some type) = .ok (term, sensitive) →
      sensitive = true ∧ ∃ w, c.value.cast type = .ok w ∧ Term.ofValue w = term := by
    intro term sensitive hok
    unfold propertyTerm at hok
    simp only [Option.getD_some, hcase, Bool.not_true, Bool.and_false] at hok
    obtain ⟨w, hw, hok⟩ := Outcome.bind_eq_ok hok
    obtain ⟨rfl, rfl⟩ := Prod.mk.inj (Except.ok.inj hok)
    exact ⟨rfl, w, Outcome.mapError_eq_ok hw, rfl⟩
  -- all operators but patterns cast the value first, and have one predicate each
  unfold onProperty at h
  cases hop : c.operator with
  | like => exact absurd hop hlike
  | _ =>
    rw [hop] at h
    obtain ⟨⟨term, sensitive⟩, hok, h⟩ := Outcome.bind_eq_ok h
    obtain ⟨rfl, w, hw, rfl⟩ := hterm hok
    exact ⟨w, hw, (Except.ok.inj h).symm⟩

/-- Terms are compared without expressions. -/
theorem expressions_termPredicate (op : Operator) (field term : String) :
    (termPredicate op field term).expressions = [] := by
  cases op <;> simp [termPredicate, ordered, differing, Predicate.expressions]

/-- An entry satisfies the predicate of a relation if the operator holds of its terms. -/
theorem satisfies_termPredicate (engine : Regex.Engine) (e : Entry) {op : Operator}
    (hlike : op ≠ .like) (field term : String) :
    e.satisfies engine (termPredicate op field term)
      = op.holdsAmong (fun op t => op.relates t term) (e.termsIn field) := by
  cases op with
  | like => exact absurd rfl hlike
  | _ =>
    simp [termPredicate, ordered, differing, Predicate.without, Entry.satisfies,
      Entry.satisfiesAll, Entry.satisfiesAny, Entry.anyTerm, Operator.holdsAmong,
      Operator.relates, FieldIndex.lookupKey, Bound.map, Bound.admitsAbove, Bound.admitsBelow,
      beq_eq_decide]

end Comparison

end ContentSearch
