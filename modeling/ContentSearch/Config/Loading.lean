import ContentSearch.Config.Settings
import ContentSearch.Document.Config
import ContentSearch.Files

/-!
# Loading a configuration

A configuration is read from one file that is named, or from layers: the standard settings, a file
that a variable names, the file in its usual place, and the variables of the environment, of which
each overrides the ones before it. Files in `/etc/reposearch` are left out.
-/

namespace ContentSearch

/-! ## Variables -/

/-- The variables of the environment with their texts. -/
abbrev Environment := List (String × String)

namespace Environment

/-- The text of a variable. -/
def text? (env : Environment) (name : String) : Option String :=
  OrderedMap.findEntry name env

/-- The variable that names a file with settings. -/
def fileVariable : String := "REPOSEARCH_CONFIG"

/-- What the names of variables with settings begin with, in letters of either case. -/
def settingMark : String := "reposearch__"

/-- Writes a point for two underscores. -/
def withPoints : List Char → List Char
  | '_' :: '_' :: rest => '.' :: withPoints rest
  | c :: rest => c :: withPoints rest
  | [] => []

/-- The key of the setting that a variable of this name gives. -/
def settingKey? (name : String) : Option String :=
  let lowered := (Text.lower name).toList
  let mark := settingMark.toList
  if mark.isPrefixOf lowered then
    some (String.ofList (withPoints (lowered.drop mark.length)))
  else none

/-- The value of a setting that is given by a text: a truth value or a number if it looks like
one. -/
def settingValue (s : String) : Json :=
  let lowered := Text.lower s
  if lowered == "true" then .bool true
  else if lowered == "false" then .bool false
  else
    match Number.long? s with
    | some n => .int n.toInt
    | none =>
      match Number.Binary64.ofText? s with
      | some x => .real x
      | none => .text s

/-- The settings that the variables give. -/
def settings (env : Environment) : Json :=
  .object (env.filterMap fun (name, s) =>
    (settingKey? name).map fun key => (key, settingValue s))

end Environment

/-! ## Configurations -/

namespace SearchConfig

/-- The usual place of the file with settings. -/
def usualFile : String := "config/reposearch"

/-- The configuration in a tree of settings, if it is acceptable. -/
def ofTree (tree : Json) : Except ConfigError SearchConfig :=
  match ofSettings? tree with
  | some c => c.validate
  | none => .error .unreadable

/-- The configuration in a file, which must be there. -/
def ofFile (files : Files) (name : String) : Except ConfigError SearchConfig :=
  match files.settings? name with
  | some layer => ofTree (Settings.ofLayers [layer])
  | none => .error .unreadable

/-- The layers of a configuration, from the lowest to the highest. The file
`/etc/reposearch/reposearch`, which would come between the file in the usual place and the
variables, is taken to be absent and is not looked for. -/
def layers? (files : Files) (env : Environment) : Option (List Json) := do
  let own ←
    match env.text? Environment.fileVariable with
    | some name => files.optionalSettings? name
    | none => some (.object [])
  let usual ← files.optionalSettings? usualFile
  some [standard.toJson, own, usual, env.settings]

/-- The configuration of files and variables together. -/
def load (files : Files) (env : Environment) : Except ConfigError SearchConfig :=
  match layers? files env with
  | some layers => ofTree (Settings.ofLayers layers)
  | none => .error .unreadable

/-- The names of the files that loading may read. -/
def filesToLoad (env : Environment) : List String :=
  (env.text? Environment.fileVariable).toList.flatMap Files.candidates
    ++ Files.candidates usualFile

end SearchConfig

end ContentSearch
