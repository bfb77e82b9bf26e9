import ContentSearch.Config.Loading
import ContentSearch.Text.Casing

/-!
# Usage

The commands of the program with their options, and what is said about them to those who ask for
help.
-/

namespace ContentSearch

/-- An option, and what is said about it. -/
structure OptionUsage where
  name : String
  about : String
  isRequired : Bool

/-- A command, and what is said about it. -/
structure CommandUsage where
  name : String
  about : String
  options : List OptionUsage

namespace OptionUsage

/-- The option that names the file with settings, which all commands have. -/
def config : OptionUsage :=
  ⟨"config", "Configuration file (defaults to REPOSEARCH_CONFIG and the standard locations)",
    false⟩

/-- The option that names the file with the query. -/
def query : OptionUsage := ⟨"query", "Query document", true⟩

/-- The option that names the file with the schema. -/
def schema : OptionUsage := ⟨"schema", "Schema document", true⟩

/-- The option that names the file with the content. -/
def content : OptionUsage := ⟨"content", "Content entries to index", true⟩

/-- The option that names the file with the values of variables. -/
def bindings : OptionUsage := ⟨"bindings", "Values for the query's bind variables", false⟩

/-- An option with a name for its value. -/
def text (o : OptionUsage) : String :=
  s!"--{o.name} <{Text.upper o.name}>"

end OptionUsage

namespace CommandUsage

/-- All commands. -/
def all : List CommandUsage :=
  [⟨"render", "Print the canonical statement of a JSON query", [.query]⟩,
    ⟨"validate", "Check a query against a schema", [.query, .schema]⟩,
    ⟨"compile", "Print the compiled plan of a query as JSON", [.query, .schema, .bindings]⟩,
    ⟨"search", "Index a content document in memory and run a query against it",
      [.query, .schema, .content, .bindings]⟩]

/-- The command of a name. -/
def ofName? (name : String) : Option CommandUsage :=
  all.find? fun u => u.name == name

end CommandUsage

/-! ## Help -/

/-- What help is asked for: about the program, about a command, or about help. -/
inductive HelpTopic
  | program
  | command (usage : CommandUsage)
  | help

namespace HelpTopic

/-- The topic of the names behind the command for help. -/
def ofNames? : List String → Option HelpTopic
  | [] => some .program
  | [name] => if name = "help" then some .help else (CommandUsage.ofName? name).map .command
  | _ => none

/-- Terms with an explanation each, one in a line; the explanations begin at one column. -/
def table (rows : List (String × String)) : String :=
  let width := (rows.map fun row => row.1.length).foldl max 0
  String.join (rows.map fun (term, text) =>
    let padding := String.ofList (List.replicate (width - term.length) ' ')
    s!"  {term}{padding}  {text}\n")

/-- The explanation of the option for the file with settings, which shows the variable that can
take its place. -/
def configRow (env : Environment) : String × String :=
  let variableText := (env.text? Environment.fileVariable).getD ""
  ("    " ++ OptionUsage.config.text,
    s!"{OptionUsage.config.about} [env: {Environment.fileVariable}={variableText}]")

/-- The explanation of the option for help. -/
def helpRow : String × String :=
  ("-h, --help", "Print help")

/-- What is said about help itself. -/
def aboutHelp : String :=
  "Print this message or the help of the given subcommand(s)"

/-- The help about the program. -/
def programText (env : Environment) : String :=
  "Render, validate and compile content-repository queries\n\n"
    ++ "Usage: reposearch [OPTIONS] <COMMAND>\n\nCommands:\n"
    ++ table ((CommandUsage.all.map fun u => (u.name, u.about)) ++ [("help", aboutHelp)])
    ++ "\nOptions:\n"
    ++ table [configRow env, helpRow, ("-V, --version", "Print version")]

/-- The help about a command. -/
def commandText (env : Environment) (u : CommandUsage) : String :=
  let required := (u.options.filter (·.isRequired)).map fun o => " " ++ o.text
  u.about ++ s!"\n\nUsage: reposearch {u.name} [OPTIONS]" ++ String.join required
    ++ "\n\nOptions:\n"
    ++ table (configRow env :: (u.options.map fun o => ("    " ++ o.text, o.about)) ++ [helpRow])

/-- The help about a topic. -/
def text (env : Environment) : HelpTopic → String
  | .program => programText env
  | .command u => commandText env u
  | .help =>
    aboutHelp ++ "\n\nUsage: reposearch help [COMMAND]...\n\nArguments:\n"
      ++ table [("[COMMAND]...", "Print help for the subcommand(s)")]

end HelpTopic

end ContentSearch
