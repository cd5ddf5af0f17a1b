import CheckKeeper.Cli.Commands

namespace CheckKeeper.Cli

/-! The command line.

The first words choose a command; it is looked up before the configuration is
loaded, and its own words are read after that.
-/

def version : String := "0.1.0"

def mainSpec : CommandSpec where
  path := ["main"]
  options := [
    { name := "--version", kind := .flag },
    { name := "--verbose", short := some 'v', kind := .flag }]
  isGroup := true

def checkArgument : ArgumentSpec :=
  ⟨"CHECK_ID", .text⟩

def initSpec : CommandSpec where
  path := ["main", "init"]
  options := [{ name := "--force", kind := .flag }]

def compileSpec : CommandSpec where
  path := ["main", "compile"]
  options := [{ name := "--json", kind := .flag }]
  arguments := [checkArgument]

def syncSpec : CommandSpec where
  path := ["main", "sync"]
  arguments := [checkArgument]

def reconcileSpec : CommandSpec where
  path := ["main", "reconcile"]

def watchSpec : CommandSpec where
  path := ["main", "watch"]
  options := [
    { name := "--interval", kind := .number },
    { name := "--max-passes", kind := .integer }]

def checksSpec : CommandSpec where
  path := ["main", "checks"]
  isGroup := true

def listSpec : CommandSpec where
  path := ["main", "checks", "list"]
  options := [{ name := "--type", kind := .text }]

def applySpec : CommandSpec where
  path := ["main", "checks", "apply"]
  arguments := [⟨"PATH", .file⟩]

def deleteSpec : CommandSpec where
  path := ["main", "checks", "delete"]
  arguments := [checkArgument]

def resultsSpec : CommandSpec where
  path := ["main", "results"]
  options := [{ name := "--limit", kind := .integer }]
  arguments := [checkArgument]

def previewSpec : CommandSpec where
  path := ["main", "preview"]
  options := [
    { name := "--sample", kind := .file, isRequired := true },
    { name := "--run-time", kind := .text }]
  arguments := [checkArgument]

structure Command where
  spec : CommandSpec
  run : Context → Values → Console ExitStatus

def commands : List (String × Command) :=
  [("init", ⟨initSpec, fun _ values => writeConfig (values.has "--force")⟩),
    ("compile", ⟨compileSpec, fun context values =>
      compile context (values.text "CHECK_ID") (values.has "--json")⟩),
    ("sync", ⟨syncSpec, fun context values => sync context (values.text "CHECK_ID")⟩),
    ("reconcile", ⟨reconcileSpec, fun context _ => reconcile context⟩),
    ("watch", ⟨watchSpec, fun context values =>
      watch context (values.find? "--interval") (values.int? "--max-passes")⟩),
    ("results", ⟨resultsSpec, fun context values =>
      showResults context (values.text "CHECK_ID")
        ((values.int? "--limit").getD Sync.resultsShown)⟩),
    ("preview", ⟨previewSpec, fun context values =>
      preview context (values.text "CHECK_ID") (values.text "--sample")
        (values.text? "--run-time")⟩)]

def checkCommands : List (String × Command) :=
  [("list", ⟨listSpec, fun context values => listChecks context (values.text? "--type")⟩),
    ("apply", ⟨applySpec, fun context values =>
      applyChecks applySpec context (values.text "PATH")⟩),
    ("delete", ⟨deleteSpec, fun context values => deleteCheck context (values.text "CHECK_ID")⟩)]

def given (parsed : Parsed) (name : String) : Bool :=
  parsed.options.any (·.option.name == name)

/-- The first of the options that answer at once and leave the rest undone. -/
def firstNotice? (parsed : Parsed) : Option String :=
  (parsed.options.map (·.option.name)).find? fun name => name == "--help" || name == "--version"

def showHelp (spec : CommandSpec) : Console ExitStatus := do
  say spec.usage
  return succeeded

/-- Reads the words of a command and carries it out. -/
def call (command : Command) (context : Context) (words : List String) : Console ExitStatus := do
  match parse command.spec words with
  | .error fault => refuse command.spec fault
  | .ok parsed =>
      if (firstNotice? parsed).isSome then showHelp command.spec
      else
        match ← readValues command.spec parsed with
        | .error fault => refuse command.spec fault
        | .ok values => command.run context values

/-- Reads the words of a group up to the one that names a command; `choose` goes on
with that word and those behind it. -/
def enter (spec : CommandSpec) (words : List String)
    (choose : Parsed → String → List String → Console ExitStatus) : Console ExitStatus := do
  match parse spec words with
  | .error fault => refuse spec fault
  | .ok parsed =>
      match firstNotice? parsed, parsed.words with
      | some "--version", _ =>
          say ("dqsync, version " ++ version)
          return succeeded
      | some _, _ => showHelp spec
      | none, name :: rest => choose parsed name rest
      | none, [] => if words.isEmpty then showHelp spec else refuse spec .missingCommand

def callChecks (context : Context) (words : List String) : Console ExitStatus :=
  enter checksSpec words fun _ name rest =>
    match checkCommands.lookup name with
    | some command => call command context rest
    | none => refuse checksSpec (.noSuchCommand name)

/-- Whether a failure leaves a run without configuration, which some commands do not
need. -/
def isConfigFault : Failure → Bool
  | .config _ => true
  | failure => failure.name == "FileNotFoundError"

def loadContext : Console Context := do
  match ← (Config.load none).attempt with
  | .ok config => return .ok config
  | .error failure =>
      if isConfigFault failure then return .error failure.message else .fail failure

def logOf (home : String) (verbose : Bool) (config : Config) : Except Failure Log := do
  let level := if verbose then "DEBUG" else config.logLevel.plain
  Log.setUp level config.logFormat.plain (← config.logPath home) true

/-- Loads the configuration, unless one is ready, and starts the log. -/
def prepare (ready : Option Config) (verbose : Bool) : Console Context := do
  let context ←
    match ready with
    | some config => pure (.ok config)
    | none => loadContext
  if let .ok config := context then
    Console.startLog (← .ofExcept (logOf (← Console.home) verbose config))
  return context

def dispatch (ready : Option Config) (words : List String) : Console ExitStatus :=
  enter mainSpec words fun parsed name rest => do
    let prepared := prepare ready (given parsed "--verbose")
    if name = "checks" then callChecks (← prepared) rest
    else
      match commands.lookup name with
      | some command => call command (← prepared) rest
      | none => refuse mainSpec (.noSuchCommand name)

/-- The class of failures that end the program with a text of their own. -/
def isExit : Failure → Bool
  | .other name _ => name == "SystemExit"
  | _ => false

/-- Whether a failure is the end of the input or the user's wish to stop. -/
def isAbort : Failure → Bool
  | .other name _ => name == "KeyboardInterrupt" || name == "EOFError"
  | _ => false

/-- Runs the command line.  A program that was stopped says so; other failures that no
command takes care of go on to the caller. -/
def run (ready : Option Config) (words : List String) : Console ExitStatus := do
  match ← (dispatch ready words).attempt with
  | .ok status => return status
  | .error failure =>
      if isAbort failure then do
        Console.complain "\nAborted!\n"
        return failed
      else if isExit failure then do
        Console.print (failure.message ++ "\n")
        return failed
      else .fail failure

end CheckKeeper.Cli
