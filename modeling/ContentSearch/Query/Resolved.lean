import ContentSearch.Query.Node
import ContentSearch.Query.Problem
import ContentSearch.Schema.Basic
import ContentSearch.SortedSet

/-!
# Resolved queries

Resolving a query collects its selectors, variables and columns along one walk of the query, and
looks for problems on the way. A selector can be referred to by the nodes after it. The walk never
stops early, so that all problems are found, in the order of the walk.
-/

namespace ContentSearch

/-- What is known of a query: the table of each selector, the variables, and the columns of the
result by name. -/
structure ResolvedQuery where
  selectors : OrderedMap String String
  variableNames : SortedSet String
  columns : OrderedMap String ResultColumn

namespace ResolvedQuery

/-- Nothing is known. -/
def empty : ResolvedQuery :=
  ⟨OrderedMap.empty, SortedSet.empty, OrderedMap.empty⟩

/-! ## Selectors -/

/-- The selector that a reference means. A reference without a name means the only selector. -/
def selector? (r : ResolvedQuery) (name? : Option String) : Option String :=
  match name? with
  | some name => if r.selectors.contains name then some name else none
  | none =>
    match r.selectors.keys with
    | [only] => some only
    | _ => none

/-- The table of the selector that a reference means. -/
def table? (r : ResolvedQuery) (name? : Option String) : Option String :=
  (r.selector? name?).bind r.selectors.get?

/-- Whether the query has several selectors. -/
def isJoin (r : ResolvedQuery) : Bool :=
  1 < r.selectors.size

/-! ## What a node tells -/

/-- What is known after a node. The first declaration of a selector holds. -/
def learn (r : ResolvedQuery) : Node → ResolvedQuery
  | .selector s =>
    if r.selectors.contains s.name then r
    else { r with selectors := r.selectors.insert s.name s.table }
  | .static (.variable name) => { r with variableNames := r.variableNames.insert name }
  | .column c => { r with columns := r.columns.insert c.resolvedName c }
  | _ => r

end ResolvedQuery

/-! ## Problems -/

/-- What a query is checked against. -/
structure ValidationRules where
  schema : Schema
  checksColumns : Bool

namespace ValidationRules

/-- The problem of a reference to a selector that cannot be resolved. -/
def unresolved (r : ResolvedQuery) (name? : Option String) (site : ReferenceSite) :
    QueryProblem :=
  match name? with
  | some name => .undeclaredSelector site name
  | none => .unnamedSelector site r.selectors.size

/-- Problems of a reference to a selector. -/
def selectorProblems (r : ResolvedQuery) (name? : Option String) (site : ReferenceSite) :
    List QueryProblem :=
  match r.selector? name? with
  | some _ => []
  | none => [unresolved r name? site]

/-- The table of a resolved selector and the column of a property, as far as they exist. -/
def columnOf? (rules : ValidationRules) (r : ResolvedQuery) (name? : Option String)
    (property : String) : Option Column :=
  ((r.table? name?).bind rules.schema.table?).bind fun t => t.column? property

/-- Problems of a reference to a property: its selector must resolve, and where columns are checked
the table must have the column. -/
def propertyProblems (rules : ValidationRules) (r : ResolvedQuery) (name? : Option String)
    (property : String) (site : ReferenceSite) : List QueryProblem :=
  match r.selector? name? with
  | none => [unresolved r name? site]
  | some selector =>
    match (r.selectors.get? selector).bind rules.schema.table? with
    | none => []
    | some table =>
      if rules.checksColumns && (table.column? property).isNone then
        [.unknownColumn property table.name selector]
      else []

/-- Problems of two selectors that are related to each other. -/
def pairProblems (r : ResolvedQuery) (first second : String) (site : ReferenceSite) :
    List QueryProblem :=
  selectorProblems r (some first) site ++ selectorProblems r (some second) site
    ++ (if first = second then [.joinedToItself site first] else [])

/-- Problems of a join condition. -/
def joinProblems (rules : ValidationRules) (r : ResolvedQuery) :
    JoinCondition → List QueryProblem
  | .child c p => pairProblems r c p .childJoin
  | .descendant d a => pairProblems r d a .descendantJoin
  | .same s₁ s₂ _ => pairProblems r s₁ s₂ .sameJoin
  | .equi s₁ p₁ s₂ p₂ =>
    if s₁ = s₂ then pairProblems r s₁ s₂ .equiJoin
    else rules.propertyProblems r (some s₁) p₁ .equiJoin
      ++ rules.propertyProblems r (some s₂) p₂ .equiJoin

/-- Problems of a full-text search: a property that is named must be searchable. -/
def containsProblems (rules : ValidationRules) (r : ResolvedQuery)
    (name? property? : Option String) : List QueryProblem :=
  match property? with
  | none => selectorProblems r name? .contains
  | some property =>
    rules.propertyProblems r name? property .contains
      ++ match rules.columnOf? r name? property with
        | some column => if column.searchable then [] else [.unsearchableColumn property]
        | none => []

/-- Types that a name cannot be compared with. -/
def isIncomparableWithName (type : PropertyType) : Bool :=
  type.isNumeric || type == .boolean

/-- Problems of a constraint by itself. -/
def constraintProblems (rules : ValidationRules) (r : ResolvedQuery) :
    Constraint → List QueryProblem
  | .and _ _ | .or _ _ | .not _ => []
  | .compare (.name selector?) _ (.literal l) =>
    if isIncomparableWithName l.type then [.incomparableName selector? l.type] else []
  | .compare _ _ _ => []
  | .child name? _ => selectorProblems r name? .child
  | .descendant name? _ => selectorProblems r name? .descendant
  | .same name? _ => selectorProblems r name? .same
  | .contains name? property? _ => rules.containsProblems r name? property?
  | .hasValue ref => rules.propertyProblems r ref.selector? ref.property .hasValue

/-- Problems of an operand by itself. -/
def operandProblems (rules : ValidationRules) (r : ResolvedQuery) :
    Operand → List QueryProblem
  | .property ref => rules.propertyProblems r ref.selector? ref.property .property
  | .name name? => selectorProblems r name? .name
  | .localName name? => selectorProblems r name? .localName
  | .depth name? => selectorProblems r name? .depth
  | .score name? => selectorProblems r name? .score
  | .length _ | .upper _ | .lower _ => []

/-- Problems of a declaration. -/
def declarationProblems (rules : ValidationRules) (r : ResolvedQuery) (s : Selector) :
    List QueryProblem :=
  if r.selectors.contains s.name then [.repeatedSelector s.name]
  else if (rules.schema.table? s.table).isNone then [.unknownTable s.table s.name]
  else []

/-- Problems of a node, `r` being what is known before it. -/
def problems (rules : ValidationRules) (r : ResolvedQuery) : Node → List QueryProblem
  | .selector s => rules.declarationProblems r s
  | .joinCondition c => rules.joinProblems r c
  | .constraint c => rules.constraintProblems r c
  | .operand o => rules.operandProblems r o
  | .column c =>
    match c.property? with
    | some property => rules.propertyProblems r c.selector? property .column
    | none => selectorProblems r c.selector? .column
  | .query _ | .join .. | .static _ | .orderBy _ | .limit _ => []

/-! ## Whole queries -/

/-- Goes along the nodes of a walk, learning and collecting problems. -/
def follow (rules : ValidationRules) (r : ResolvedQuery) :
    List Node → ResolvedQuery × List QueryProblem
  | [] => (r, [])
  | node :: rest =>
    let (last, later) := rules.follow (r.learn node) rest
    (last, rules.problems r node ++ later)

/-- What is known of a query without problems, or all its problems. -/
def resolve (rules : ValidationRules) (q : Query) : Except (List QueryProblem) ResolvedQuery :=
  match rules.follow .empty (Node.walkQuery q) with
  | (r, []) => .ok r
  | (_, problems) => .error problems

theorem follow_fst (rules : ValidationRules) (r : ResolvedQuery) (nodes : List Node) :
    (rules.follow r nodes).1 = nodes.foldl ResolvedQuery.learn r := by
  induction nodes generalizing r with
  | nil => rfl
  | cons node rest ih => exact ih (r.learn node)

theorem follow_append (rules : ValidationRules) (r : ResolvedQuery) (front back : List Node) :
    (rules.follow r (front ++ back)).2
      = (rules.follow r front).2
        ++ (rules.follow (front.foldl ResolvedQuery.learn r) back).2 := by
  induction front generalizing r with
  | nil => rfl
  | cons node rest ih =>
    simp only [List.cons_append, follow, List.foldl_cons, ih (r.learn node), List.append_assoc]

end ValidationRules

end ContentSearch
