import ContentSearch.Json.Reading
import ContentSearch.Text.Utf8
import ContentSearch.Toml.Reading
import ContentSearch.Yaml.Reading

/-!
# Files

Files by their names, and the formats of files with settings, which are told from the names.
-/

namespace ContentSearch

/-- The texts of files by their names. -/
abbrev Files := String → Option String

/-- A format of files with settings. -/
inductive FileFormat
  | json | toml | yaml
  deriving DecidableEq

/-- The part of a file name behind its last point, if there is something before the point. -/
def Files.extension? (name : String) : Option String :=
  let last := (name.toList.reverse.takeWhile (· != '/'))
  match last.dropWhile (· != '.') with
  | _ :: _ :: _ => some (String.ofList (last.takeWhile (· != '.')).reverse)
  | _ => none

namespace FileFormat

/-- The formats by the extensions of their files. -/
def byExtension : List (String × FileFormat) :=
  [("toml", .toml), ("json", .json), ("yaml", .yaml), ("yml", .yaml)]

/-- The format of a file. -/
def ofName? (name : String) : Option FileFormat := do
  let extension ← Files.extension? name
  let entry ← byExtension.find? fun e => e.1 == extension
  some entry.2

/-- Reads a text of a format. -/
def read? : FileFormat → String → Option Json
  | .json, s => (Json.ofText? s).map Json.lastWins
  | .toml, s => Toml.ofText? s
  | .yaml, s => Yaml.ofText? s

end FileFormat

namespace Files

/-- The names that a file with settings may have: its own name, or the name with an extension. -/
def candidates (name : String) : List String :=
  name :: FileFormat.byExtension.map fun e => name ++ "." ++ e.1

/-- The text of a file with settings and its format. A file of the very name counts even if its
format is unknown. -/
def find? (files : Files) (name : String) : Option (FileFormat × String) :=
  match files name with
  | some text => (FileFormat.ofName? name).map fun format => (format, text)
  | none =>
    if name.isEmpty then none
    else FileFormat.byExtension.findSome? fun (extension, format) =>
      (files (name ++ "." ++ extension)).map fun text => (format, text)

/-- The settings of a text, which must be a table. A mark of the encoding says nothing. -/
def table? (format : FileFormat) (text : String) : Option Json :=
  match format.read? (Text.Utf8.withoutMark text) with
  | some (.object members) => some (.object members)
  | _ => none

/-- The settings of a file that must be there. -/
def settings? (files : Files) (name : String) : Option Json :=
  (files.find? name).bind fun (format, text) => table? format text

/-- The settings of a file that may be missing. -/
def optionalSettings? (files : Files) (name : String) : Option Json :=
  match files.find? name with
  | some (format, text) => table? format text
  | none => some (.object [])

end Files

end ContentSearch
