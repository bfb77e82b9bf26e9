import ContentSearch.Document.Query
import ContentSearch.Query.Node

/-!
# Nodes in documents

A single node of a query is written without its kind, as the object that holds its parts.
-/

namespace ContentSearch.Node

/-- The kind of a node. -/
def kindName : Node → String
  | .query _ => "query"
  | .selector _ => "selector"
  | .join .. => "join"
  | .joinCondition (.child ..) => "child_node_join_condition"
  | .joinCondition (.descendant ..) => "descendant_node_join_condition"
  | .joinCondition (.equi ..) => "equi_join_condition"
  | .joinCondition (.same ..) => "same_node_join_condition"
  | .constraint (.and ..) => "and"
  | .constraint (.or ..) => "or"
  | .constraint (.not _) => "not"
  | .constraint (.compare ..) => "comparison"
  | .constraint (.child ..) => "child_node"
  | .constraint (.descendant ..) => "descendant_node"
  | .constraint (.same ..) => "same_node"
  | .constraint (.contains ..) => "full_text_search"
  | .constraint (.hasValue _) => "property_existence"
  | .operand (.property _) => "property_value"
  | .operand (.length _) => "length"
  | .operand (.name _) => "node_name"
  | .operand (.localName _) => "node_local_name"
  | .operand (.depth _) => "node_depth"
  | .operand (.score _) => "full_text_search_score"
  | .operand (.upper _) => "upper_case"
  | .operand (.lower _) => "lower_case"
  | .static (.literal _) => "literal"
  | .static (.variable _) => "bind_variable_name"
  | .orderBy _ => "ordering"
  | .column _ => "column"
  | .limit _ => "limit"

/-- Reads a node of a kind, or of a group of kinds that tells its kind itself. -/
def ofKind? (kind : String) (j : Json) : Option Node :=
  match kind with
  | "query" => (Query.ofJson? j).map .query
  | "selector" => (Selector.ofJson? j).map .selector
  | "join" => (Source.ofJson? (.tagged "join" j)).map .source
  | "child_node_join_condition" =>
    (JoinCondition.ofContent? "child_node" j).map .joinCondition
  | "descendant_node_join_condition" =>
    (JoinCondition.ofContent? "descendant_node" j).map .joinCondition
  | "equi_join_condition" => (JoinCondition.ofContent? "equi" j).map .joinCondition
  | "same_node_join_condition" => (JoinCondition.ofContent? "same_node" j).map .joinCondition
  | "and" | "or" | "not" | "comparison" | "child_node" | "descendant_node" | "same_node"
  | "full_text_search" | "property_existence" =>
    (Constraint.ofJson? (.tagged kind j)).map .constraint
  | "property_value" | "length" | "node_name" | "node_local_name" | "node_depth"
  | "full_text_search_score" | "upper_case" | "lower_case" =>
    (Operand.ofJson? (.tagged kind j)).map .operand
  | "literal" => (Literal.ofJson? j).map fun l => .static (.literal l)
  | "bind_variable_name" => (variableName? j).map fun v => .static (.variable v)
  | "ordering" => (OrderBy.ofJson? j).map .orderBy
  | "column" => (ResultColumn.ofJson? j).map .column
  | "limit" => (Limit.ofJson? j).map .limit
  | "source" => (Source.ofJson? j).map .source
  | "join_condition" => (JoinCondition.ofJson? j).map .joinCondition
  | "constraint" => (Constraint.ofJson? j).map .constraint
  | "dynamic_operand" => (Operand.ofJson? j).map .operand
  | "static_operand" => (StaticOperand.ofJson? j).map .static
  | _ => none

end ContentSearch.Node
