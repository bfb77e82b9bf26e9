import ContentSearch.Json.Access
import ContentSearch.Predicate

/-!
# Predicates in documents

A predicate is an object that names its kind, beside the members of that kind.
-/

namespace ContentSearch

open Json (record tagged)

/-! ## Bounds -/

/-- A bound. -/
def Bound.toJson : Bound → Json
  | .unbounded => .text "unbounded"
  | .included t => tagged "included" (.text t)
  | .excluded t => tagged "excluded" (.text t)

/-- Reads a bound. -/
def Bound.ofJson? (j : Json) : Option Bound :=
  if j.name? = some "unbounded" then some .unbounded
  else j.variant?.bind fun (kind, content) =>
    match kind with
    | "included" => content.text?.map .included
    | "excluded" => content.text?.map .excluded
    | _ => none

/-! ## Predicates -/

namespace Predicate

/-- The members of a kind of predicate. -/
def ofKind (kind : String) (members : List (String × Option Json)) : Json :=
  record (("kind", some (.text kind)) :: members)

/-- The members of a pattern in a field. -/
def patternMembers (field pattern : String) (caseSensitive : Bool) :
    List (String × Option Json) :=
  [("field", some (.text field)), ("pattern", some (.text pattern)),
    ("case_sensitive", some (.bool caseSensitive))]

/-- Clauses, left out if there are none. -/
def clauseMember (name : String) (clauses : List Json) : String × Option Json :=
  (name, if clauses.isEmpty then none else some (.list clauses))

mutual

/-- A predicate. -/
def toJson : Predicate → Json
  | .term field value cs =>
    ofKind "term" [("field", some (.text field)), ("value", some (.text value)),
      ("case_sensitive", some (.bool cs))]
  | .range field lower upper cs =>
    ofKind "range" [("field", some (.text field)), ("lower", some lower.toJson),
      ("upper", some upper.toJson), ("case_sensitive", some (.bool cs))]
  | .wildcard field pattern cs => ofKind "wildcard" (patternMembers field pattern cs)
  | .regex field pattern cs => ofKind "regex" (patternMembers field pattern cs)
  | .hasTerm field => ofKind "exists" [("field", some (.text field))]
  | .fullText field expression =>
    ofKind "full_text" [("field", some (.text field)), ("expression", some (.text expression))]
  | .everything => ofKind "match_all" []
  | .nothing => ofKind "match_none" []
  | .combined must should mustNot =>
    ofKind "boolean" [clauseMember "must" (toJsons must), clauseMember "should" (toJsons should),
      clauseMember "must_not" (toJsons mustNot)]

/-- Several predicates. -/
def toJsons : List Predicate → List Json
  | [] => []
  | p :: rest => p.toJson :: toJsons rest

end

/-- The kind of a predicate that is written as a record, or as a list that begins with it. -/
def kind? : Json → Option String
  | .list (kind :: _) => kind.name?
  | .object members => (Json.findMember "kind" members).bind Json.name?
  | _ => none

/-- The names of the fields of a kind of predicate, in their order. -/
def fieldNames (kind : String) : List String :=
  "kind" :: match kind with
  | "term" => ["field", "value", "case_sensitive"]
  | "range" => ["field", "lower", "upper", "case_sensitive"]
  | "wildcard" | "regex" => ["field", "pattern", "case_sensitive"]
  | "exists" => ["field"]
  | "full_text" => ["field", "expression"]
  | "boolean" => ["must", "should", "must_not"]
  | _ => []

/-- Reads a predicate that holds no other predicate. -/
def ofSimple? (kind : String) {j : Json} (fields : Json.Fields j) : Option Predicate := do
  match kind with
  | "match_all" => some .everything
  | "match_none" => some .nothing
  | _ =>
    let field ← fields.required? "field" Json.text?
    match kind with
    | "exists" => some (.hasTerm field)
    | "full_text" => (fields.required? "expression" Json.text?).map (.fullText field)
    | _ =>
      let cs ← fields.required? "case_sensitive" Json.bool?
      match kind with
      | "term" => (fields.required? "value" Json.text?).map (.term field · cs)
      | "wildcard" => (fields.required? "pattern" Json.text?).map (.wildcard field · cs)
      | "regex" => (fields.required? "pattern" Json.text?).map (.regex field · cs)
      | "range" =>
        let lower ← fields.required? "lower" Bound.ofJson?
        let upper ← fields.required? "upper" Bound.ofJson?
        some (.range field lower upper cs)
      | _ => none

/-- The items of a field, smaller than the record; none if the field is missing. -/
def clauses? {j : Json} (fields : Json.Fields j) (name : String) :
    Option { items : List Json // sizeOf items ≤ sizeOf j } :=
  match h : Json.findMember name fields.members with
  | none => some ⟨[], by cases j <;> simp⟩
  | some (.list items) => some ⟨items, by
      have := fields.sizeOf_lt _ (Json.mem_of_findMember h)
      simp at this
      omega⟩
  | some _ => none

mutual

/-- Reads a predicate. -/
def ofJson? (j : Json) : Option Predicate := do
  let kind ← kind? j
  let fields ← j.fields? (fieldNames kind)
  if kind = "boolean" then do
    let ⟨must, _⟩ ← clauses? fields "must"
    let ⟨should, _⟩ ← clauses? fields "should"
    let ⟨mustNot, _⟩ ← clauses? fields "must_not"
    let must ← ofJsons? must
    let should ← ofJsons? should
    let mustNot ← ofJsons? mustNot
    some (.combined must should mustNot)
  else ofSimple? kind fields
termination_by 2 * sizeOf j + 1
decreasing_by all_goals omega

/-- Reads several predicates. -/
def ofJsons? (items : List Json) : Option (List Predicate) :=
  match items with
  | [] => some []
  | j :: rest => do
    let p ← ofJson? j
    let ps ← ofJsons? rest
    some (p :: ps)
termination_by 2 * sizeOf items
decreasing_by
  all_goals
    have := List.cons.sizeOf_spec j rest
    omega

end

end Predicate

end ContentSearch
