import ContentSearch.Plan.Expansion

/-!
# Remembered plans

Plans are kept by the statement of the query and the values of its variables, so that a query that
comes again gets the very plan that was made for it first. Errors are not kept.
-/

namespace ContentSearch

/-- A plan, and how many plans were made before it. -/
structure NumberedPlan where
  number : Nat
  plan : Plan

/-- Plans by key, and the number of plans made so far. -/
structure PlanMemo where
  plans : OrderedMap String NumberedPlan
  made : Nat

namespace PlanMemo

/-- The memo without plans. -/
def empty : PlanMemo :=
  ⟨OrderedMap.empty, 0⟩

/-- The part of a key that stands for one variable. -/
def bindingKey (name : String) (v : Value) : String :=
  "\x00" ++ name ++ "\x00" ++ v.type.label ++ ":" ++ v.display

/-- The bindings in the order of their names. -/
def sortedBindings (bindings : Bindings) : List (String × Value) :=
  bindings.entries.mergeSort fun a b => decide (a.1 ≤ b.1)

/-- What a plan is kept under: the statement, then each variable with its type and text. -/
def key (statement : String) (bindings : Bindings) : String :=
  statement ++ String.join ((sortedBindings bindings).map fun b => bindingKey b.1 b.2)

/-- The plan that is kept for a query. -/
def find? (m : PlanMemo) (q : Query) (bindings : Bindings) : Option NumberedPlan :=
  m.plans.get? (key q.statement bindings)

/-- Keeps a new plan. -/
def keep (m : PlanMemo) (key : String) (plan : Plan) : PlanMemo × NumberedPlan :=
  let numbered : NumberedPlan := ⟨m.made, plan⟩
  (⟨m.plans.insert key numbered, m.made + 1⟩, numbered)

/-- The plan of a query: the one that is kept, else a new one, which is kept. -/
def plan (m : PlanMemo) (rules : PlanRules) (q : Query) (bindings : Bindings) :
    PlanMemo × Except PlanError NumberedPlan :=
  match m.find? q bindings with
  | some numbered => (m, .ok numbered)
  | none =>
    match Plan.ofQuery rules q bindings with
    | .error e => (m, .error e)
    | .ok made =>
      let (kept, numbered) := m.keep (key q.statement bindings) made
      (kept, .ok numbered)

/-- Forgets all plans. -/
def clear (m : PlanMemo) : PlanMemo :=
  { m with plans := OrderedMap.empty }

/-- The number of plans that are kept. -/
def size (m : PlanMemo) : Nat :=
  m.plans.size

end PlanMemo

end ContentSearch
