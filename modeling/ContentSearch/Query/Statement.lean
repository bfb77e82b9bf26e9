import ContentSearch.Query.Basic

/-!
# Statements

The canonical text of a query. Names that are not plain identifiers stand in brackets with each
closing bracket doubled, texts stand in single quotes with each quote doubled, and every compound
constraint stands in parentheses.
-/

namespace ContentSearch

namespace Statement

/-! ## Names and texts -/

/-- Letters that may begin a plain identifier. -/
def isIdentifierStart (c : Char) : Bool :=
  c.isAlpha || c == '_'

/-- Characters that may follow in a plain identifier. -/
def isIdentifierPart (c : Char) : Bool :=
  c.isAlphanum || c == '_'

/-- A letter or underscore of ASCII, then letters, digits and underscores. -/
def isIdentifier (s : String) : Bool :=
  match s.toList with
  | [] => false
  | c :: rest => isIdentifierStart c && rest.all isIdentifierPart

/-- Writes a character twice wherever it occurs. -/
def doubling (mark : Char) (cs : List Char) : List Char :=
  cs.flatMap fun c => if c = mark then [c, c] else [c]

/-- A name, in brackets unless it is a plain identifier. -/
def ident (s : String) : String :=
  if isIdentifier s then s
  else "[" ++ String.ofList (doubling ']' s.toList) ++ "]"

/-- A text in single quotes. -/
def quoted (s : String) : String :=
  "\x27" ++ String.ofList (doubling '\x27' s.toList) ++ "\x27"

/-- A selector and a point, if the selector is given. -/
def qualifier (selector? : Option String) : String :=
  match selector? with
  | some s => ident s ++ "."
  | none => ""

/-- A selector, if it is given. -/
def optionalName (selector? : Option String) : String :=
  match selector? with
  | some s => ident s
  | none => ""

/-- A function of a selector and a path. -/
def pathFunction (function : String) (selector? : Option String) (path : String) : String :=
  let first := match selector? with
    | some s => ident s ++ ", "
    | none => ""
  function ++ "(" ++ first ++ ident path ++ ")"

/-- Texts with commas between them. -/
def commaSeparated (items : List String) : String :=
  String.intercalate ", " items

end Statement

open Statement

/-! ## Parts -/

/-- A table with its alias. -/
def Selector.statement (s : Selector) : String :=
  match s.alias? with
  | some shown => ident s.table ++ " AS " ++ ident shown
  | none => ident s.table

/-- The condition after `ON`. -/
def JoinCondition.statement : JoinCondition → String
  | .child c p => "ISCHILDNODE(" ++ ident c ++ ", " ++ ident p ++ ")"
  | .descendant d a => "ISDESCENDANTNODE(" ++ ident d ++ ", " ++ ident a ++ ")"
  | .equi s₁ p₁ s₂ p₂ => ident s₁ ++ "." ++ ident p₁ ++ " = " ++ ident s₂ ++ "." ++ ident p₂
  | .same s₁ s₂ path? =>
    let last := match path? with
      | some path => ", " ++ ident path
      | none => ""
    "ISSAMENODE(" ++ ident s₁ ++ ", " ++ ident s₂ ++ last ++ ")"

/-- Whether a source is a join. -/
def Source.isJoin : Source → Bool
  | .selector _ => false
  | .join .. => true

/-- Joins associate to the left; a join on the right stands in parentheses. -/
def Source.statement : Source → String
  | .selector s => s.statement
  | .join kind left right condition =>
    let rightText :=
      if right.isJoin then "(" ++ right.statement ++ ")" else right.statement
    left.statement ++ " " ++ kind.symbol ++ " " ++ rightText ++ " ON " ++ condition.statement

/-- A property with its selector. -/
def PropertyRef.statement (r : PropertyRef) : String :=
  qualifier r.selector? ++ ident r.property

/-- Operands are properties and functions. -/
def Operand.statement : Operand → String
  | .property ref => ref.statement
  | .length ref => "LENGTH(" ++ ref.statement ++ ")"
  | .name s => "NAME(" ++ optionalName s ++ ")"
  | .localName s => "LOCALNAME(" ++ optionalName s ++ ")"
  | .depth s => "DEPTH(" ++ optionalName s ++ ")"
  | .score s => "SCORE(" ++ optionalName s ++ ")"
  | .upper operand => "UPPER(" ++ operand.statement ++ ")"
  | .lower operand => "LOWER(" ++ operand.statement ++ ")"

/-- The type that a literal is taken to have when it is written without a cast. -/
def Value.bareType? : Value → Option PropertyType
  | .long _ => some .long
  | .double x => if x.isFinite then some .double else none
  | .boolean _ => some .boolean
  | .text .string _ => some .string
  | _ => none

/-- Integers, finite doubles, truth values and plain text of their own type stand as they are,
text in quotes. All else is a cast of its text. -/
def Literal.statement (l : Literal) : String :=
  if l.value.bareType? = some l.type then
    if l.type = .string then quoted l.value.display else l.value.display
  else
    "CAST(" ++ quoted l.value.display ++ " AS " ++ l.type.label ++ ")"

/-- Variables are marked by a dollar sign. -/
def StaticOperand.statement : StaticOperand → String
  | .literal l => l.statement
  | .variable v => "$" ++ v

/-- What a full-text search looks into. -/
def starOr (selector? property? : Option String) : String :=
  match property? with
  | some property => qualifier selector? ++ ident property
  | none => qualifier selector? ++ "*"

/-- Constraints. -/
def Constraint.statement : Constraint → String
  | .and left right => "(" ++ left.statement ++ " AND " ++ right.statement ++ ")"
  | .or left right => "(" ++ left.statement ++ " OR " ++ right.statement ++ ")"
  | .not constraint => "(NOT " ++ constraint.statement ++ ")"
  | .compare left operator right =>
    left.statement ++ " " ++ operator.symbol ++ " " ++ right.statement
  | .child s path => pathFunction "ISCHILDNODE" s path
  | .descendant s path => pathFunction "ISDESCENDANTNODE" s path
  | .same s path => pathFunction "ISSAMENODE" s path
  | .contains s p expression => "CONTAINS(" ++ starOr s p ++ ", " ++ quoted expression ++ ")"
  | .hasValue ref => ref.statement ++ " IS NOT NULL"

/-- An operand and the direction. -/
def OrderBy.statement (o : OrderBy) : String :=
  o.operand.statement ++ " " ++ o.direction.symbol

/-- A column of the result with its alias. -/
def ResultColumn.statement (c : ResultColumn) : String :=
  let tail := match c.alias? with
    | some shown => " AS " ++ ident shown
    | none => ""
  starOr c.selector? c.property? ++ tail

/-- The number of rows, if it is limited, and the offset, if there is one. -/
def Limit.statement (l : Limit) : String :=
  (if l.hasRowLimit then " LIMIT " ++ Nat.repr l.rows.toNat else "")
    ++ (if l.offset.toNat = 0 then "" else " OFFSET " ++ Nat.repr l.offset.toNat)

/-! ## The whole -/

/-- The columns after `SELECT`. -/
def columnsStatement (columns : List ResultColumn) : String :=
  if columns.isEmpty then "*" else commaSeparated (columns.map (·.statement))

/-- The canonical text of a query. -/
def Query.statement (q : Query) : String :=
  let condition := match q.constraint? with
    | some c => " WHERE " ++ c.statement
    | none => ""
  let order :=
    if q.orderings.isEmpty then ""
    else " ORDER BY " ++ commaSeparated (q.orderings.map (·.statement))
  "SELECT " ++ columnsStatement q.columns ++ " FROM " ++ q.source.statement ++ condition ++ order
    ++ q.limit.statement

end ContentSearch
