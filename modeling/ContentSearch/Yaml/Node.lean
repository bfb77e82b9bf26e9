import ContentSearch.Json
import ContentSearch.Json.Printing
import ContentSearch.Number.Binary64.Reading
import ContentSearch.Number.Radix

/-!
# Values of YAML

What a scalar without quotes stands for is told from its characters, or from the tag before it:
nothing, a truth value, a number or a text.
-/

namespace ContentSearch.Yaml

open Number

/-! ## Scalars -/

/-- A value of a scalar. -/
inductive Scalar
  /-- A scalar that cannot be read as what its tag says. -/
  | unreadable
  | null
  | bool (b : Bool)
  | int (n : Int)
  /-- A number that is no integer; it keeps its text. -/
  | real (s : String)
  | text (s : String)

/-- The tag of a value: the beginning that its handle stands for, and what follows it. -/
structure Tag where
  beginning : String
  suffix : String

/-- The beginning of the tags that are known. -/
def Tag.known : String := "tag:yaml.org,2002:"

namespace Scalar

/-- The integer that a plain scalar looks like: in decimal, or behind the mark of another base. -/
def integerLike? : List Char → Option Int
  | '0' :: 'x' :: rest => integerIn? 16 rest
  | '0' :: 'o' :: rest => integerIn? 8 rest
  | '+' :: rest => integer? rest
  | cs => integer? cs

/-- The numbers that are not finite. -/
def specialNumbers : List String :=
  [".inf", ".Inf", ".INF", "+.inf", "+.Inf", "+.INF", "-.inf", "-.Inf", "-.INF", ".nan", ".NaN",
    ".NAN"]

/-- Whether a text looks like a number. -/
def isReal (s : String) : Bool :=
  specialNumbers.contains s || (Binary64.ofText? s).isSome

/-- The value of a plain scalar without a tag. -/
def ofPlain (s : String) : Scalar :=
  match (integerLike? s.toList).bind int64? with
  | some n => .int n.toInt
  | none =>
    if s = "~" ∨ s = "null" then .null
    else if s = "true" then .bool true
    else if s = "false" then .bool false
    else if isReal s then .real s
    else .text s

/-- The value of a plain scalar behind a tag. A tag that is not known makes it a text. -/
def ofTagged (tag : Tag) (s : String) : Scalar :=
  if tag.beginning ≠ Tag.known then .text s
  else
    match tag.suffix with
    | "bool" =>
      if s = "true" then .bool true else if s = "false" then .bool false else .unreadable
    | "int" =>
      match (integer? s.toList).bind int64? with
      | some n => .int n.toInt
      | none => .unreadable
    | "float" => if isReal s then .real s else .unreadable
    | "null" => if s = "~" ∨ s = "null" then .null else .unreadable
    | _ => .text s

/-- The value of a scalar. One in quotes or written out is a text whatever its tag says. -/
def ofToken (isPlain : Bool) (tag? : Option Tag) (s : String) : Scalar :=
  match isPlain, tag? with
  | false, _ => .text s
  | true, some tag => ofTagged tag s
  | true, none => ofPlain s

/-- The name that a key stands for. Only texts and integers can be keys. -/
def name? : Scalar → Option String
  | .text s => some s
  | .int n => some (Json.intText n)
  | _ => none

/-- The value of a setting. Numbers that are not finite are refused. -/
def toJson? : Scalar → Option Json
  | .unreadable | .null => some .null
  | .bool b => some (.bool b)
  | .int n => some (.int n)
  | .real s => (Binary64.ofText? s).map .real
  | .text s => some (.text s)

end Scalar

/-! ## Lists and mappings -/

/-- A value. A mapping may hold several members with one key. -/
inductive Node
  | scalar (v : Scalar)
  | list (items : List Node)
  | mapping (members : List (Node × Node))

namespace Node

instance : Inhabited Node := ⟨.scalar .null⟩

/-- A value that is missing. -/
def missing : Node := .scalar .null

/-- A value that cannot be read. -/
def unreadable : Node := .scalar .unreadable

/-- The members of keys and values that follow each other. A key that cannot be read is left out,
so that the value behind it becomes a key. -/
def members : List Node → List (Node × Node)
  | [] => []
  | .scalar .unreadable :: rest => members rest
  | [_] => []
  | key :: value :: rest => (key, value) :: members rest

/-- The name that a key stands for. -/
def name? : Node → Option String
  | .scalar v => v.name?
  | _ => none

mutual

/-- The setting of a value. -/
def toJson? : Node → Option Json
  | .scalar v => v.toJson?
  | .list items => (itemsToJson? items).map .list
  | .mapping members => (membersToJson? members).map .object

/-- The settings of items. -/
def itemsToJson? : List Node → Option (List Json)
  | [] => some []
  | v :: rest => do
    let j ← v.toJson?
    let js ← itemsToJson? rest
    some (j :: js)

/-- The settings of members. -/
def membersToJson? : List (Node × Node) → Option (List (String × Json))
  | [] => some []
  | (key, v) :: rest => do
    let name ← key.name?
    let j ← v.toJson?
    let js ← membersToJson? rest
    some ((name, j) :: js)

end

end Node

end ContentSearch.Yaml
