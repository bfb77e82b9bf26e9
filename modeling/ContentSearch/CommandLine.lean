import ContentSearch.Command
import ContentSearch.CommandLine.Usage

/-!
# The command line

How the arguments of the program are read: options of the program itself, the name of a command,
and the options of the command. Arguments are read from left to right, and reading ends at the first
that is wrong or asks for something else than a command.
-/

namespace ContentSearch

/-- What the arguments ask for. -/
inductive Request
  | version
  | help (topic : HelpTopic)
  | run (config? : Option String) (command : Command)

/-- Why arguments are refused. -/
inductive UsageError
  | unexpected (argument : String)
  | noValue (option : String)
  | repeated (option : String)
  | missing (option : String)
  | noCommand
  deriving DecidableEq

/-- The wording of an error. -/
def UsageError.message : UsageError → String
  | .unexpected argument => s!"unexpected argument: {argument}"
  | .noValue option => s!"a value is required for --{option}"
  | .repeated option => s!"--{option} cannot be used more than once"
  | .missing option => s!"--{option} is required"
  | .noCommand => "a command is required"

/-! ## Options -/

/-- What an argument is. -/
inductive Argument
  | option (name : String) (value? : Option String)
  | letters (letters : List Char)
  | separator
  | word (s : String)

/-- Tells what an argument is. -/
def Argument.ofText (s : String) : Argument :=
  match s.toList with
  | ['-', '-'] => .separator
  | '-' :: '-' :: rest =>
    let name := rest.takeWhile (· != '=')
    match rest.drop name.length with
    | _ :: value => .option (String.ofList name) (some (String.ofList value))
    | [] => .option (String.ofList name) none
  | '-' :: c :: rest => .letters (c :: rest)
  | _ => .word s

/-- The options read so far with their values. -/
abbrev Options := List (String × String)

/-- Takes in an option with its value. A value is never empty. -/
def Options.add (options : Options) (name value : String) : Except UsageError Options :=
  if (OrderedMap.findEntry name options).isSome then .error (.repeated name)
  else if value.isEmpty then .error (.noValue name)
  else .ok (options ++ [(name, value)])

/-- Whether a value can follow its option as an argument of its own. -/
def isValue (s : String) : Bool :=
  match Argument.ofText s with
  | .word _ => true
  | _ => false

/-- How reading options ended: at the end of the arguments, at a word, or at a question. -/
inductive OptionsEnd
  | done
  | word (s : String) (rest : List String)
  | version
  | help

/-- Reads options of the given names, and questions: for help always, for the version if there is
any. -/
def readOptions (names : List String) (hasVersion : Bool) (options : Options) :
    List String → Except UsageError (Options × OptionsEnd)
  | [] => .ok (options, .done)
  | argument :: rest =>
    match Argument.ofText argument with
    | .word s => .ok (options, .word s rest)
    | .separator =>
      match rest with
      | [] => .ok (options, .done)
      | next :: _ => .error (.unexpected next)
    | .letters letters =>
      if letters.head? == some 'h' then .ok (options, .help)
      else if hasVersion && letters.head? == some 'V' then .ok (options, .version)
      else .error (.unexpected argument)
    | .option name value? =>
      if names.contains name then
        match value?, rest with
        | some value, rest => do
          let options ← options.add name value
          readOptions names hasVersion options rest
        | none, value :: rest =>
          if isValue value then do
            let options ← options.add name value
            readOptions names hasVersion options rest
          else .error (.noValue name)
        | none, [] => .error (.noValue name)
      else if name == "help" && value?.isNone then .ok (options, .help)
      else if hasVersion && name == "version" && value?.isNone then .ok (options, .version)
      else .error (.unexpected argument)

/-- The value of an option that must be there. -/
def Options.required (options : Options) (name : String) : Except UsageError String :=
  match OrderedMap.findEntry name options with
  | some value => .ok value
  | none => .error (.missing name)

/-! ## Commands -/

/-- The option that names the file with settings. -/
def configOption : String :=
  OptionUsage.config.name

/-- The command of a name with its options. -/
def Command.ofOptions (name : String) (options : Options) : Except UsageError Command :=
  let bindings? := OrderedMap.findEntry "bindings" options
  match name with
  | "render" => do
    .ok (.render (← options.required "query"))
  | "validate" => do
    .ok (.validate (← options.required "query") (← options.required "schema"))
  | "compile" => do
    .ok (.compile (← options.required "query") (← options.required "schema") bindings?)
  | "search" => do
    let query ← options.required "query"
    let schema ← options.required "schema"
    .ok (.search query schema (← options.required "content") bindings?)
  | _ => .error (.unexpected name)

namespace Request

/-- The file with settings: the command's own option wins over the option before the command, and
both win over the variable. A variable that says nothing is an error where it would count. -/
def configFile (env : Environment) (before behind : Options) :
    Except UsageError (Option String) :=
  let before? := OrderedMap.findEntry configOption before
  let behind? := OrderedMap.findEntry configOption behind
  let fromEnv? := env.text? Environment.fileVariable
  if fromEnv? = some "" ∧ (before? = none ∨ behind? = none) then .error (.noValue configOption)
  else .ok (behind?.or (before?.or fromEnv?))

/-- Reads what stands behind the name of a command. -/
def ofCommand (env : Environment) (before : Options) (name : String) (arguments : List String) :
    Except UsageError Request :=
  match CommandUsage.ofName? name with
  | none =>
    match HelpTopic.ofNames? arguments with
    | some topic => if name = "help" then .ok (.help topic) else .error (.unexpected name)
    | none => .error (.unexpected name)
  | some usage => do
    let names := usage.options.map (·.name)
    let (behind, ending) ← readOptions (configOption :: names) false [] arguments
    match ending with
    | .help => .ok (.help (.command usage))
    | .version => .ok .version
    | .word s _ => .error (.unexpected s)
    | .done =>
      let config? ← configFile env before behind
      .ok (.run config? (← Command.ofOptions name behind))

/-- Reads the arguments of the program. -/
def ofArguments (env : Environment) (arguments : List String) : Except UsageError Request := do
  let (before, ending) ← readOptions [configOption] true [] arguments
  match ending with
  | .help => .ok (.help .program)
  | .version => .ok .version
  | .done => .error .noCommand
  | .word name rest => ofCommand env before name rest

/-- The names of the files that may be read to answer a request. -/
def files (env : Environment) : Request → List String
  | .version => []
  | .help _ => []
  | .run config? command =>
    (match config? with
      | some name => Files.candidates name
      | none => SearchConfig.filesToLoad env) ++ command.files

end Request

/-! ## Outcomes -/

/-- How the program ends: its exit code, what it prints, and what it reports as an error. -/
structure Outcome where
  exitCode : Nat
  output : String
  error : String
  deriving DecidableEq

namespace Outcome

/-- The end of a program that did what it was asked for. -/
def success (output : String) : Outcome :=
  ⟨0, output ++ "\n", ""⟩

/-- The end of a program that could not do what it was asked for. -/
def failure (e : SearchError) : Outcome :=
  ⟨1, "", e.message⟩

/-- The end of a program that was not asked properly. -/
def misuse (e : UsageError) : Outcome :=
  ⟨2, "", e.message⟩

/-- The name and the version of the program. -/
def versionText : String := "reposearch 0.1.0"

/-- Runs a command. The configuration comes first, whether the command needs it or not. -/
def ofCommand (files : Files) (env : Environment) (config? : Option String) (command : Command) :
    Outcome :=
  let loaded := match config? with
    | some name => SearchConfig.ofFile files name
    | none => SearchConfig.load files env
  match loaded with
  | .error e => failure (.config e)
  | .ok config =>
    match command.run files config with
    | .ok text => success text
    | .error e => failure e

/-- Answers a request. -/
def ofRequest (files : Files) (env : Environment) : Request → Outcome
  | .version => success versionText
  | .help topic => ⟨0, topic.text env, ""⟩
  | .run config? command => ofCommand files env config? command

/-- Runs the program. -/
def ofArguments (files : Files) (env : Environment) (arguments : List String) : Outcome :=
  match Request.ofArguments env arguments with
  | .ok request => ofRequest files env request
  | .error e => misuse e

end Outcome

end ContentSearch
