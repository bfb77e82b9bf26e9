import ContentSearch.Proofs.Pattern.Syntax

/-!
# The expressions of a predicate

A predicate asks the engine for the expressions that are written in it, however deep they stand in
combinations. Whether an engine accepts a predicate (`Predicate.compiles_iff`), whether the
predicate is well written and whether the engine admits it are questions about each of these
expressions. A well-written predicate is accepted by an engine that admits it
(`Predicate.IsWellWritten.compiles`).
-/

namespace ContentSearch.Predicate

mutual

/-- The expressions in a predicate, each with whether case matters. -/
def expressions : Predicate → List (String × Bool)
  | .wildcard _ pattern cs => [(Wildcard.regex pattern, cs)]
  | .regex _ pattern cs => [(pattern, cs)]
  | .combined must should mustNot =>
    expressionsOf must ++ (expressionsOf should ++ expressionsOf mustNot)
  | _ => []

/-- The expressions in several predicates. -/
def expressionsOf : List Predicate → List (String × Bool)
  | [] => []
  | p :: rest => p.expressions ++ expressionsOf rest

end

/-! ## Combinations -/

theorem expressionsOf_eq_flatMap (clauses : List Predicate) :
    expressionsOf clauses = clauses.flatMap expressions := by
  induction clauses with
  | nil => rfl
  | cons p rest ih => rw [expressionsOf, ih, List.flatMap_cons]

@[simp] theorem expressions_allOf (clauses : List Predicate) :
    (allOf clauses).expressions = clauses.flatMap expressions := by
  simp [allOf, expressions, expressionsOf_eq_flatMap]

/-- What holds of all expressions in a conjunction holds of those in its parts. -/
theorem forall_mem_expressions_allOf {clauses : List Predicate} {holds : String × Bool → Prop} :
    (∀ x ∈ (allOf clauses).expressions, holds x) ↔ ∀ p ∈ clauses, ∀ x ∈ p.expressions, holds x := by
  rw [expressions_allOf, List.forall_mem_flatMap]

@[simp] theorem expressions_anyOf (clauses : List Predicate) :
    (anyOf clauses).expressions = clauses.flatMap expressions := by
  simp [anyOf, expressions, expressionsOf_eq_flatMap]

@[simp] theorem expressions_without (base excluded : Predicate) :
    (without base excluded).expressions = base.expressions ++ excluded.expressions := by
  simp [without, expressions, expressionsOf]

@[simp] theorem expressions_complement (p : Predicate) :
    (complement p).expressions = p.expressions :=
  (expressions_without _ _).trans (List.nil_append _)

/-! ## Engines -/

variable {engine : Regex.Engine}

mutual

/-- An engine accepts a predicate if it accepts each of the expressions. -/
theorem compiles_iff : ∀ {p : Predicate}, p.compiles engine = true
    ↔ ∀ x ∈ p.expressions, engine.accepts x.1 x.2 = true
  | .wildcard _ _ _ | .regex _ _ _ => by
    rw [compiles, expressions, List.forall_mem_singleton]
  | .combined must should mustNot => by
    rw [compiles, expressions, List.forall_mem_append, List.forall_mem_append, Bool.and_eq_true,
      Bool.and_eq_true, allCompile_iff, allCompile_iff, allCompile_iff, and_assoc]
  | .term _ _ _ | .range _ _ _ _ | .hasTerm _ | .fullText _ _ | .everything | .nothing =>
    iff_of_true rfl (List.forall_mem_nil _)

theorem allCompile_iff : ∀ {clauses : List Predicate}, allCompile engine clauses = true
    ↔ ∀ x ∈ expressionsOf clauses, engine.accepts x.1 x.2 = true
  | [] => iff_of_true rfl (List.forall_mem_nil _)
  | p :: rest => by
    rw [allCompile, expressionsOf, List.forall_mem_append, Bool.and_eq_true, compiles_iff,
      allCompile_iff]

end

/-- A predicate without expressions is accepted by every engine. -/
theorem compiles_of_expressions {p : Predicate} (h : p.expressions = []) :
    p.compiles engine = true := by
  rw [compiles_iff, h]
  exact List.forall_mem_nil _

/-- All expressions of a predicate are well-formed. -/
def IsWellWritten (p : Predicate) : Prop :=
  ∀ x ∈ p.expressions, Regex.IsWellFormed x.1

/-- The engine admits all expressions of a predicate. -/
def Admitted (engine : Regex.Engine) (p : Predicate) : Prop :=
  ∀ x ∈ p.expressions, engine.Admits x.1 x.2

theorem isWellWritten_of_expressions {p : Predicate} (h : p.expressions = []) :
    p.IsWellWritten := by
  rw [IsWellWritten, h]
  exact List.forall_mem_nil _

theorem IsWellWritten.complement {p : Predicate} (h : p.IsWellWritten) :
    (complement p).IsWellWritten := by
  rw [IsWellWritten, expressions_complement]
  exact h

/-- A well-written predicate is accepted by an engine that admits it. -/
theorem IsWellWritten.compiles {p : Predicate} (h : p.IsWellWritten)
    (hadmitted : p.Admitted engine) : p.compiles engine = true :=
  compiles_iff.mpr fun x hx => hadmitted x hx (h x hx)

/-- An engine without a limit admits every predicate. -/
theorem admitted_of_acceptsWellFormed (hengine : engine.AcceptsWellFormed) (p : Predicate) :
    p.Admitted engine :=
  fun _ _ => hengine.admits _ _

/-- The engine of the index admits every predicate. -/
theorem admitted_engine (p : Predicate) : p.Admitted Regex.engine :=
  admitted_of_acceptsWellFormed Regex.engine_acceptsWellFormed p

end ContentSearch.Predicate
