import ContentSearch.CommandLine

/-!
# The program

Reads the files and the variables that a request may need, and hands them to the command line.
-/

namespace ContentSearch.Program

/-- The variables of the process. -/
def environment : IO Environment := do
  let bytes ← try IO.FS.readBinFile "/proc/self/environ" catch _ => pure ByteArray.empty
  let text := (String.fromUTF8? bytes).getD ""
  let entries := text.splitOn "\x00"
  return entries.filterMap fun entry =>
    match entry.toList.span (· != '=') with
    | (name, _ :: value) => some (String.ofList name, String.ofList value)
    | _ => none

/-- The texts of those files that can be read. -/
def readFiles (names : List String) : IO Files := do
  let texts ← names.filterMapM fun (name : String) =>
    try
      let text ← IO.FS.readFile name
      return some (name, text)
    catch _ => return none
  return (OrderedMap.ofList texts).get?

end ContentSearch.Program

/-- Runs the program. -/
def main (arguments : List String) : IO UInt32 := do
  let env ← ContentSearch.Program.environment
  let names := match ContentSearch.Request.ofArguments env arguments with
    | .ok request => request.files env
    | .error _ => []
  let files ← ContentSearch.Program.readFiles names
  let outcome := ContentSearch.Outcome.ofArguments files env arguments
  IO.print outcome.output
  unless outcome.error.isEmpty do IO.eprintln outcome.error
  return UInt32.ofNat outcome.exitCode
