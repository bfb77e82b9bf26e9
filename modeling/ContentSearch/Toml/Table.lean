import ContentSearch.Json
import ContentSearch.OrderedMap

/-!
# Tables of TOML

The tables that a text has built so far. How a table came about decides whether a later line may
still add to it: nothing is ever defined twice.
-/

namespace ContentSearch.Toml

/-- How a table came about: on the way to a table with a header, by a key with points, or by a
header of its own. -/
inductive Origin
  | passed | dotted | headed
  deriving DecidableEq

/-- What a key stands for. Of a list of tables only the last one can still grow. -/
inductive Node
  | value (v : Json)
  | table (origin : Origin) (members : List (String × Node))
  | tables (finished : List Json) (members : List (String × Node))

abbrev Members := List (String × Node)

mutual

/-- The value of a node. -/
def Node.toJson : Node → Json
  | .value v => v
  | .table _ members => .object (membersJson members)
  | .tables finished members => .list (finished ++ [.object (membersJson members)])

/-- The values of members. -/
def membersJson : List (String × Node) → List (String × Json)
  | [] => []
  | (name, node) :: rest => (name, node.toJson) :: membersJson rest

end

/-- Changes the table at the end of a path, and makes the tables on the way that are missing. Keys
with points do not lead through tables that have a header. -/
def changeAt? (origin : Origin) (change : Origin → Members → Option Members) :
    List String → Origin → Members → Option Members
  | [], own, members => change own members
  | step :: path, _, members =>
    match OrderedMap.findEntry step members with
    | none =>
      (changeAt? origin change path origin []).map fun inner =>
        OrderedMap.setEntry step (.table origin inner) members
    | some (.table own inner) =>
      if origin = .dotted ∧ own = .headed then none
      else
        (changeAt? origin change path own inner).map fun changed =>
          OrderedMap.setEntry step (.table own changed) members
    | some (.tables finished inner) =>
      (changeAt? origin change path .headed inner).map fun changed =>
        OrderedMap.setEntry step (.tables finished changed) members
    | some (.value _) => none

/-- Defines a key in a table, which was reached by points or not. -/
def define? (viaPoints : Bool) (name : String) (v : Json) (origin : Origin) (members : Members) :
    Option Members :=
  if decide (origin = .dotted) = viaPoints ∧ OrderedMap.findEntry name members = none then
    some (members ++ [(name, .value v)])
  else none

/-- Begins a table with a header. -/
def beginTable? (name : String) (_ : Origin) (members : Members) : Option Members :=
  match OrderedMap.findEntry name members with
  | none => some (members ++ [(name, .table .headed [])])
  | some (.table .passed inner) => some (OrderedMap.setEntry name (.table .headed inner) members)
  | some _ => none

/-- Begins a further table of a list of tables. -/
def beginItem? (name : String) (_ : Origin) (members : Members) : Option Members :=
  match OrderedMap.findEntry name members with
  | none => some (members ++ [(name, .tables [] [])])
  | some (.tables finished inner) =>
    some (OrderedMap.setEntry name
      (.tables (finished ++ [.object (membersJson inner)]) []) members)
  | some _ => none

/-- Defines a key with its steps in a table. -/
def defineKey? (key : List String) (v : Json) (origin : Origin) (members : Members) :
    Option Members :=
  let path := key.dropLast
  changeAt? .dotted (define? (!path.isEmpty) (key.getLastD "") v) path origin members

end ContentSearch.Toml
