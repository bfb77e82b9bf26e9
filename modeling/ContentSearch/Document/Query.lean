import ContentSearch.Document.Value
import ContentSearch.Query.Basic

/-!
# Queries in documents

A query is written as an object. What is one of several kinds is an object with one member, whose
name is the kind. Parts that are absent, empty or without effect are left out.
-/

namespace ContentSearch

open Json (tagged record)

/-! ## Sources -/

/-- A table with its alias. -/
def Selector.toJson (s : Selector) : Json :=
  record [("node_type_name", some (.text s.table)), ("alias", s.alias?.map .text)]

/-- Reads a selector. -/
def Selector.ofJson? (j : Json) : Option Selector := do
  let fields ← j.fields? ["node_type_name", "alias"]
  let table ← fields.required? "node_type_name" Json.text?
  let alias? ← fields.optional? "alias" Json.text?
  some ⟨table, alias?⟩

/-- The name of a kind of join in documents. -/
def JoinKind.documentName : JoinKind → String
  | .inner => "INNER"
  | .leftOuter => "LEFT_OUTER"
  | .rightOuter => "RIGHT_OUTER"

/-- Reads a kind of join. -/
def JoinKind.ofJson? (j : Json) : Option JoinKind :=
  j.name?.bind fun name =>
    [JoinKind.inner, .leftOuter, .rightOuter].find? fun k => k.documentName == name

/-- The kind of a join condition in documents. -/
def JoinCondition.documentName : JoinCondition → String
  | .child _ _ => "child_node"
  | .descendant _ _ => "descendant_node"
  | .equi _ _ _ _ => "equi"
  | .same _ _ _ => "same_node"

/-- A join condition without its kind. -/
def JoinCondition.contentJson : JoinCondition → Json
  | .child c p => .object [("child_selector", .text c), ("parent_selector", .text p)]
  | .descendant d a => .object [("descendant_selector", .text d), ("ancestor_selector", .text a)]
  | .equi s₁ p₁ s₂ p₂ =>
    .object [("selector1", .text s₁), ("property1", .text p₁), ("selector2", .text s₂),
      ("property2", .text p₂)]
  | .same s₁ s₂ path? =>
    record [("selector1", some (.text s₁)), ("selector2", some (.text s₂)),
      ("selector2_path", path?.map .text)]

/-- A join condition. -/
def JoinCondition.toJson (c : JoinCondition) : Json :=
  tagged c.documentName c.contentJson

/-- Reads a join condition of a kind. -/
def JoinCondition.ofContent? (kind : String) (j : Json) : Option JoinCondition :=
  match kind with
  | "child_node" => do
    let fields ← j.fields? ["child_selector", "parent_selector"]
    let c ← fields.required? "child_selector" Json.text?
    let p ← fields.required? "parent_selector" Json.text?
    some (.child c p)
  | "descendant_node" => do
    let fields ← j.fields? ["descendant_selector", "ancestor_selector"]
    let d ← fields.required? "descendant_selector" Json.text?
    let a ← fields.required? "ancestor_selector" Json.text?
    some (.descendant d a)
  | "equi" => do
    let fields ← j.fields? ["selector1", "property1", "selector2", "property2"]
    let s₁ ← fields.required? "selector1" Json.text?
    let p₁ ← fields.required? "property1" Json.text?
    let s₂ ← fields.required? "selector2" Json.text?
    let p₂ ← fields.required? "property2" Json.text?
    some (.equi s₁ p₁ s₂ p₂)
  | "same_node" => do
    let fields ← j.fields? ["selector1", "selector2", "selector2_path"]
    let s₁ ← fields.required? "selector1" Json.text?
    let s₂ ← fields.required? "selector2" Json.text?
    let path? ← fields.optional? "selector2_path" Json.text?
    some (.same s₁ s₂ path?)
  | _ => none

/-- Reads a join condition. -/
def JoinCondition.ofJson? (j : Json) : Option JoinCondition :=
  j.variant?.bind fun (kind, content) => ofContent? kind content

/-- A source. -/
def Source.toJson : Source → Json
  | .selector s => tagged "selector" s.toJson
  | .join kind left right condition =>
    tagged "join" (.object [("left", left.toJson), ("right", right.toJson),
      ("join_type", .text kind.documentName), ("condition", condition.toJson)])

/-- The names of the members of a join. -/
def Source.joinNames : List String :=
  ["left", "right", "join_type", "condition"]

/-- Reads a source. -/
def Source.ofJson? (j : Json) : Option Source := do
  let (kind, ⟨content, _⟩) ← j.case?
  if kind = "selector" then (Selector.ofJson? content).map .selector
  else if kind = "join" then do
    let fields ← content.fields? Source.joinNames
    let ⟨left, _⟩ ← fields.child? "left"
    let ⟨right, _⟩ ← fields.child? "right"
    let left ← Source.ofJson? left
    let right ← Source.ofJson? right
    let joinKind ← fields.required? "join_type" JoinKind.ofJson?
    let condition ← fields.required? "condition" JoinCondition.ofJson?
    some (.join joinKind left right condition)
  else none
termination_by sizeOf j
decreasing_by all_goals omega

/-! ## Operands -/

/-- The optional selector of a reference. -/
def selectorMember (selector? : Option String) : String × Option Json :=
  ("selector_name", selector?.map .text)

/-- A property with its selector. -/
def PropertyRef.toJson (r : PropertyRef) : Json :=
  record [selectorMember r.selector?, ("property_name", some (.text r.property))]

/-- Reads a property with its selector. -/
def PropertyRef.ofJson? (j : Json) : Option PropertyRef := do
  let fields ← j.fields? ["selector_name", "property_name"]
  let selector? ← fields.optional? "selector_name" Json.text?
  let property ← fields.required? "property_name" Json.text?
  some ⟨selector?, property⟩

/-- Reads an object with nothing but an optional selector. -/
def selectorOnly? (j : Json) : Option (Option String) :=
  (j.fields? ["selector_name"]).bind (·.optional? "selector_name" Json.text?)

/-- An operand. -/
def Operand.toJson : Operand → Json
  | .property ref => tagged "property_value" ref.toJson
  | .length ref => tagged "length" (.object [("property_value", ref.toJson)])
  | .name s => tagged "node_name" (record [selectorMember s])
  | .localName s => tagged "node_local_name" (record [selectorMember s])
  | .depth s => tagged "node_depth" (record [selectorMember s])
  | .score s => tagged "full_text_search_score" (record [selectorMember s])
  | .upper operand => tagged "upper_case" (.object [("operand", operand.toJson)])
  | .lower operand => tagged "lower_case" (.object [("operand", operand.toJson)])

/-- Reads the length of a property. -/
def lengthRef? (j : Json) : Option PropertyRef :=
  (j.fields? ["property_value"]).bind (·.required? "property_value" PropertyRef.ofJson?)

/-- Reads an operand. -/
def Operand.ofJson? (j : Json) : Option Operand := do
  let (kind, ⟨content, _⟩) ← j.case?
  if kind = "property_value" then (PropertyRef.ofJson? content).map .property
  else if kind = "length" then (lengthRef? content).map .length
  else if kind = "node_name" then (selectorOnly? content).map .name
  else if kind = "node_local_name" then (selectorOnly? content).map .localName
  else if kind = "node_depth" then (selectorOnly? content).map .depth
  else if kind = "full_text_search_score" then (selectorOnly? content).map .score
  else if kind = "upper_case" then do
    let ⟨inner, _⟩ ← (← content.fields? ["operand"]).child? "operand"
    (Operand.ofJson? inner).map .upper
  else if kind = "lower_case" then do
    let ⟨inner, _⟩ ← (← content.fields? ["operand"]).child? "operand"
    (Operand.ofJson? inner).map .lower
  else none
termination_by sizeOf j
decreasing_by all_goals omega

/-- A literal. -/
def Literal.toJson (l : Literal) : Json :=
  .object [("value", l.value.toJson), ("declared_type", .text l.type.documentName)]

/-- Reads a literal; the declared type need not be the type of the value. -/
def Literal.ofJson? (j : Json) : Option Literal := do
  let fields ← j.fields? ["value", "declared_type"]
  let value ← fields.required? "value" Value.ofJson?
  let type ← fields.required? "declared_type" PropertyType.ofJson?
  some ⟨value, type⟩

/-- Reads the name of a variable. -/
def variableName? (j : Json) : Option String :=
  (j.fields? ["name"]).bind (·.required? "name" Json.text?)

/-- A value that is known beforehand. -/
def StaticOperand.toJson : StaticOperand → Json
  | .literal l => tagged "literal" l.toJson
  | .variable name => tagged "bind_variable" (.object [("name", .text name)])

/-- Reads a value that is known beforehand. -/
def StaticOperand.ofJson? (j : Json) : Option StaticOperand :=
  j.variant?.bind fun (kind, content) =>
    match kind with
    | "literal" => (Literal.ofJson? content).map .literal
    | "bind_variable" => (variableName? content).map .variable
    | _ => none

/-! ## Constraints -/

/-- A constraint on the place of an entry. -/
def placeJson (kind : String) (selector? : Option String) (pathName path : String) : Json :=
  tagged kind (record [selectorMember selector?, (pathName, some (.text path))])

/-- Reads a constraint on the place of an entry. -/
def place? (pathName : String) (j : Json) : Option (Option String × String) := do
  let fields ← j.fields? ["selector_name", pathName]
  let selector? ← fields.optional? "selector_name" Json.text?
  let path ← fields.required? pathName Json.text?
  some (selector?, path)

/-- A constraint. -/
def Constraint.toJson : Constraint → Json
  | .and left right => tagged "and" (.object [("left", left.toJson), ("right", right.toJson)])
  | .or left right => tagged "or" (.object [("left", left.toJson), ("right", right.toJson)])
  | .not constraint => tagged "not" (.object [("constraint", constraint.toJson)])
  | .compare left operator right =>
    tagged "comparison" (.object [("operand1", left.toJson), ("operator", .text operator.label),
      ("operand2", right.toJson)])
  | .child s path => placeJson "child_node" s "parent_path" path
  | .descendant s path => placeJson "descendant_node" s "ancestor_path" path
  | .same s path => placeJson "same_node" s "path" path
  | .contains s p expression =>
    tagged "full_text_search" (record [selectorMember s, ("property_name", p.map .text),
      ("expression", some (.text expression))])
  | .hasValue ref => tagged "property_existence" ref.toJson

/-- Reads a comparison. -/
def comparison? (j : Json) : Option Constraint := do
  let fields ← j.fields? ["operand1", "operator", "operand2"]
  let left ← fields.required? "operand1" Operand.ofJson?
  let operator ← fields.required? "operator" Operator.ofJson?
  let right ← fields.required? "operand2" StaticOperand.ofJson?
  some (.compare left operator right)

/-- Reads a full-text search. -/
def contains? (j : Json) : Option Constraint := do
  let fields ← j.fields? ["selector_name", "property_name", "expression"]
  let selector? ← fields.optional? "selector_name" Json.text?
  let property? ← fields.optional? "property_name" Json.text?
  let expression ← fields.required? "expression" Json.text?
  some (.contains selector? property? expression)

/-- Reads a constraint that holds no other constraint. -/
def Constraint.ofSimple? (kind : String) (j : Json) : Option Constraint :=
  match kind with
  | "comparison" => comparison? j
  | "child_node" => (place? "parent_path" j).map fun (s, path) => .child s path
  | "descendant_node" => (place? "ancestor_path" j).map fun (s, path) => .descendant s path
  | "same_node" => (place? "path" j).map fun (s, path) => .same s path
  | "full_text_search" => contains? j
  | "property_existence" => (PropertyRef.ofJson? j).map .hasValue
  | _ => none

/-- Reads a constraint. -/
def Constraint.ofJson? (j : Json) : Option Constraint := do
  let (kind, ⟨content, _⟩) ← j.case?
  if kind = "and" then do
    let fields ← content.fields? ["left", "right"]
    let ⟨left, _⟩ ← fields.child? "left"
    let ⟨right, _⟩ ← fields.child? "right"
    let left ← Constraint.ofJson? left
    let right ← Constraint.ofJson? right
    some (.and left right)
  else if kind = "or" then do
    let fields ← content.fields? ["left", "right"]
    let ⟨left, _⟩ ← fields.child? "left"
    let ⟨right, _⟩ ← fields.child? "right"
    let left ← Constraint.ofJson? left
    let right ← Constraint.ofJson? right
    some (.or left right)
  else if kind = "not" then do
    let ⟨inner, _⟩ ← (← content.fields? ["constraint"]).child? "constraint"
    (Constraint.ofJson? inner).map .not
  else Constraint.ofSimple? kind content
termination_by sizeOf j
decreasing_by all_goals omega

/-! ## Queries -/

/-- The name of a direction in documents. -/
def Direction.documentName : Direction → String
  | .ascending => "ASCENDING"
  | .descending => "DESCENDING"

/-- Reads a direction. -/
def Direction.ofJson? (j : Json) : Option Direction :=
  j.name?.bind fun name =>
    [Direction.ascending, .descending].find? fun d => d.documentName == name

/-- An ordering. -/
def OrderBy.toJson (o : OrderBy) : Json :=
  .object [("operand", o.operand.toJson), ("order", .text o.direction.documentName)]

/-- Reads an ordering. -/
def OrderBy.ofJson? (j : Json) : Option OrderBy := do
  let fields ← j.fields? ["operand", "order"]
  let operand ← fields.required? "operand" Operand.ofJson?
  let direction ← fields.required? "order" Direction.ofJson?
  some ⟨operand, direction⟩

/-- A column of the result. -/
def ResultColumn.toJson (c : ResultColumn) : Json :=
  record [selectorMember c.selector?, ("property_name", c.property?.map .text),
    ("column_name", c.alias?.map .text)]

/-- Reads a column of the result. -/
def ResultColumn.ofJson? (j : Json) : Option ResultColumn := do
  let fields ← j.fields? ["selector_name", "property_name", "column_name"]
  let selector? ← fields.optional? "selector_name" Json.text?
  let property? ← fields.optional? "property_name" Json.text?
  let alias? ← fields.optional? "column_name" Json.text?
  some ⟨selector?, property?, alias?⟩

/-- A limit. -/
def Limit.toJson (l : Limit) : Json :=
  .object [("row_limit", .nat l.rows.toNat), ("offset", .nat l.offset.toNat)]

/-- Reads a limit. -/
def Limit.ofJson? (j : Json) : Option Limit := do
  let fields ← j.fields? ["row_limit", "offset"]
  let rows ← fields.required? "row_limit" Json.uint64?
  let offset ← fields.defaulted? "offset" 0 Json.uint64?
  some ⟨rows, offset⟩

/-- A list, left out if it is empty. -/
def listMember (name : String) (items : List Json) : String × Option Json :=
  (name, if items.isEmpty then none else some (.list items))

/-- A query. -/
def Query.toJson (q : Query) : Json :=
  record [("source", some q.source.toJson), ("constraint", q.constraint?.map Constraint.toJson),
    listMember "orderings" (q.orderings.map OrderBy.toJson),
    listMember "columns" (q.columns.map ResultColumn.toJson),
    ("limit", if q.limit.isUnlimited then none else some q.limit.toJson)]

/-- The names of the members of a query. -/
def Query.memberNames : List String :=
  ["source", "constraint", "orderings", "columns", "limit"]

/-- Reads a query. -/
def Query.ofJson? (j : Json) : Option Query := do
  let fields ← j.fields? Query.memberNames
  let source ← fields.required? "source" Source.ofJson?
  let constraint? ← fields.optional? "constraint" Constraint.ofJson?
  let orderings ← fields.defaulted? "orderings" [] (Json.listOf? OrderBy.ofJson?)
  let columns ← fields.defaulted? "columns" [] (Json.listOf? ResultColumn.ofJson?)
  let limit ← fields.defaulted? "limit" .unlimited Limit.ofJson?
  some ⟨source, constraint?, orderings, columns, limit⟩

end ContentSearch
