import ContentSearch.Config
import ContentSearch.Json
import ContentSearch.Number.Binary64.Reading
import ContentSearch.Number.Integer
import ContentSearch.OrderedMap
import ContentSearch.Text.Casing

/-!
# Settings

Settings form a tree: a setting is a single value, or a table of further settings by name. A tree
is put together from layers, of which a later one overrides an earlier one setting by setting, and
the configuration is read from the whole.
-/

namespace ContentSearch

open Number

namespace Settings

/-! ## Layers -/

/-- Gives the setting of a name a value. What is not a table becomes one. -/
def put (name : String) (v : Json) : Json → Json
  | .object members => .object (OrderedMap.setEntry name v members)
  | _ => .object [(name, v)]

mutual

/-- Lays a value over the setting of a name: a table setting by setting, anything else as a
whole. -/
def lay (name : String) (root : Json) : Json → Json
  | .object members => put name (layAll ((root.member? name).getD (.object [])) members) root
  | v => put name v root

/-- Lays the settings of a table over those of a tree. -/
def layAll (root : Json) : List (String × Json) → Json
  | [] => root
  | (name, v) :: rest => layAll (lay name root v) rest

end

/-- Lays a value over the setting of a name in the table at the end of a path. -/
def layAt (path : List String) (name : String) (root v : Json) : Json :=
  match path with
  | [] => lay name root v
  | step :: rest => put step (layAt rest name ((root.member? step).getD .null) v) root

/-- The parts of a text between its points. -/
def parts : List Char → List (List Char)
  | [] => [[]]
  | c :: cs =>
    if c = '.' then [] :: parts cs
    else
      match parts cs with
      | [] => [[c]]
      | part :: rest => (c :: part) :: rest

/-- Whether a part of a key can be a step of a path. -/
def isStep (part : List Char) : Bool :=
  !part.isEmpty && part.all fun c => c.isAlphanum || c == '_' || c == '-' || c == ' '

/-- The path and the name that a key stands for: points separate the steps of a path. A key with
anything else in it is a name by itself. -/
def place (key : String) : List String × String :=
  let steps := parts key.toList
  if steps.all isStep then
    ((steps.map String.ofList).dropLast, String.ofList (steps.getLastD []))
  else ([], key)

/-- Lays a layer over a tree. -/
def overlay (root layer : Json) : Json :=
  match layer with
  | .object members =>
    members.foldl (fun root m => layAt (place m.1).1 (place m.1).2 root m.2) root
  | _ => root

/-- The tree of several layers, the first of which lies at the bottom. -/
def ofLayers (layers : List Json) : Json :=
  layers.foldl overlay (.object [])

/-! ## Single settings -/

/-- Whether a text says yes. -/
def saysYes (s : String) : Bool :=
  ["true", "on", "yes"].contains (Text.lower s)

/-- Whether a text says no. -/
def saysNo (s : String) : Bool :=
  ["false", "off", "no"].contains (Text.lower s)

/-- A setting that is true or false: a number is true unless it is zero. -/
def flag? : Json → Option Bool
  | .bool b => some b
  | .int n => some (n != 0)
  | .real x => some (x.isNaN || x.units != 0)
  | .text s =>
    if s == "1" || saysYes s then some true
    else if s == "0" || saysNo s then some false
    else none
  | _ => none

/-- The nearest count to a number: none is below zero, and none beyond the greatest. -/
def countOfReal (x : Binary64) : UInt64 :=
  if x.isNaN || x.isNegative then 0
  else if x.isFinite && x.round < 0x10000000000000000 then UInt64.ofNat x.round
  else 0xffffffffffffffff

/-- A count in decimal, with an optional plus sign. -/
def countOfText? (s : String) : Option UInt64 :=
  let digits := match s.toList with
    | '+' :: rest => rest
    | cs => cs
  ((natural? digits).filter (· < 0x10000000000000000)).map UInt64.ofNat

/-- A setting that is a count. Integers beyond the signed range of 64 bits are no more exact than
other numbers. -/
def count? : Json → Option UInt64
  | .bool b => some (if b then 1 else 0)
  | .int n =>
    if n < 0 then none
    else if n < 0x8000000000000000 then some (UInt64.ofNat n.toNat)
    else some (countOfReal (Binary64.ofInt n))
  | .real x => some (countOfReal x)
  | .text s =>
    if saysYes s then some 1
    else if saysNo s then some 0
    else countOfText? s
  | _ => none

/-! ## Sections -/

/-- The settings of a section by their names. A section can also be a list of settings in the order
of the names, of which the last ones may be left out. -/
def section? (names : List String) : Json → Option (List (String × Json))
  | .object members => some members
  | .list items => some (names.zip items)
  | _ => none

/-- A setting of a section, if there is one. -/
def setting? {α : Type} (settings : List (String × Json)) (name : String) (standard : α)
    (value? : Json → Option α) : Option α :=
  match Json.findMember name settings with
  | some v => value? v
  | none => some standard

end Settings

/-- Settings of the query planner from those of their section. -/
def QuerySettings.ofSettings? (j : Json) : Option QuerySettings := do
  let settings ← Settings.section?
    ["case_sensitive", "validate_columns", "cache_capacity", "cache_idle_secs"] j
  let caseSensitive ←
    Settings.setting? settings "case_sensitive" standard.caseSensitive Settings.flag?
  let validateColumns ←
    Settings.setting? settings "validate_columns" standard.validateColumns Settings.flag?
  let cacheCapacity ←
    Settings.setting? settings "cache_capacity" standard.cacheCapacity Settings.count?
  let cacheIdleSecs ←
    Settings.setting? settings "cache_idle_secs" standard.cacheIdleSecs Settings.count?
  some ⟨caseSensitive, validateColumns, cacheCapacity, cacheIdleSecs⟩

/-- Settings of the index from those of their section. -/
def IndexSettings.ofSettings? (j : Json) : Option IndexSettings := do
  let settings ← Settings.section? ["max_batch_size"] j
  let maxBatchSize ←
    Settings.setting? settings "max_batch_size" standard.maxBatchSize Settings.count?
  some ⟨maxBatchSize⟩

/-- The configuration in a tree of settings. Settings of other names are passed over. -/
def SearchConfig.ofSettings? (j : Json) : Option SearchConfig := do
  let sections ← Settings.section? ["query", "index"] j
  let query ← Settings.setting? sections "query" .standard QuerySettings.ofSettings?
  let index ← Settings.setting? sections "index" .standard IndexSettings.ofSettings?
  some ⟨query, index⟩

end ContentSearch
