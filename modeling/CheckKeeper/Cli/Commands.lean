import CheckKeeper.Cli.Output
import CheckKeeper.Cli.Values
import CheckKeeper.Config.Load
import CheckKeeper.Preview.Evaluate
import CheckKeeper.Sync.Request
import CheckKeeper.Text.Duration
import CheckKeeper.Yaml.Writer

namespace CheckKeeper.Cli

/-! What the commands do.

A command answers the status that the program exits with: 0 if all went well, 1 if
something failed, 2 if it was called in a wrong way or a preview did not pass.
Commands that need the configuration refuse to run without one.
-/

/-- The configuration of a run, or why there is none. -/
abbrev Context : Type :=
  Except String Config

abbrev ExitStatus : Type :=
  Nat

def succeeded : ExitStatus := 0
def failed : ExitStatus := 1
def misused : ExitStatus := 2

def refuse (spec : CommandSpec) (fault : UsageFault) : Console ExitStatus := do
  warn (spec.complaint fault)
  return misused

/-- Runs a command with the configuration, if there is one. -/
def withConfig (context : Context) (run : Config → Console ExitStatus) : Console ExitStatus := do
  match context with
  | .ok config => run config
  | .error reason => do
      warn ("✗ Config not loaded: " ++ reason)
      warn "Run 'dqsync init' to create a configuration file."
      return failed

/-- Runs a command with the collaborators; they are connected when they are first
needed. -/
def withServices (context : Context) (run : Console ExitStatus) : Console ExitStatus := do
  if ← Console.isConnected then run
  else
    withConfig context fun config => do
      Console.connect config
      run

/-- Runs a command with the definition of an id, which must be there. -/
def withDefinition (context : Context) (checkId : String)
    (run : Definition → Console ExitStatus) : Console ExitStatus :=
  withServices context do
    match ← Console.ofWork (Work.getDefinition checkId) with
    | some d => run d
    | none => do
        warn ("✗ Check not found: " ++ checkId)
        return failed

def settingsOf (config : Config) : Except Failure Sync.Settings := do
  Sync.Settings.of (.text config.resultsTablePath) (← config.maxWorkers.toInt) config.batchMost

/-- Runs a command with the settings of the reconciler and its collaborators. -/
def withReconciler (context : Context)
    (run : Config → Sync.Settings → Console ExitStatus) : Console ExitStatus :=
  withConfig context fun config =>
    withServices context do
      run config (← .ofExcept (settingsOf config))

def sampleVariables : String :=
  "# GOOGLE_APPLICATION_CREDENTIALS=...\n# GOOGLE_CLOUD_PROJECT=...\n"

def writeConfig (force : Bool) : Console ExitStatus := do
  let directory ← Config.currentDirectory
  if !(← Console.pathExists directory) then Console.makeDirectory directory
  let file := directory.entry "config.yaml"
  if (← Console.pathExists file) && !force then
    warn ("Config already exists at " ++ file.render ++ ". Use --force to overwrite.")
    return failed
  else
    Console.writeFile file (Yaml.write (Config.initial directory).toRecord)
    let envFile := directory.entry ".env"
    if !(← Console.pathExists envFile) then Console.writeFile envFile sampleVariables
    say ("Initialized dqsync config at " ++ file.render)
    return succeeded

def parameterLine (p : Parameter) : Except Failure String := do
  return "-- @" ++ p.name ++ " (" ++ p.type ++ ") = " ++ (← p.value.shown)

/-- Writes a job line by line; a parameter that cannot be shown ends it. -/
def sayJob (job : Job) : Console Unit := do
  say ("-- job: " ++ job.name)
  say ("-- schedule: " ++ (← .ofExcept job.schedule.written))
  job.parameters.forM fun p => do say (← .ofExcept (parameterLine p))
  say (← .ofExcept job.statement.written)

def prettyJson (value : Value) : Except Failure String :=
  Json.dump .pretty value

def compile (context : Context) (checkId : String) (asJson : Bool) : Console ExitStatus :=
  withConfig context fun config =>
    withDefinition context checkId fun d => do
      match ← .ofExcept (Compile.compile d (.text config.resultsTablePath)) with
      | .invalid _ reason message => do
          warn ("✗ " ++ reason.name ++ ": " ++ message)
          return failed
      | .valid check _ => do
          let job := check.toJob
          if asJson then say (← .ofExcept (prettyJson (.ofFields job.toRecord)))
          else sayJob job
          return succeeded

def sync (context : Context) (checkId : String) : Console ExitStatus :=
  withReconciler context fun _ settings => do
    match ← (Console.ofWork (Sync.reconcileOne settings checkId)).attempt with
    | .ok outcome => do
        sayOutcome outcome
        return succeeded
    | .error failure =>
        if failure.isTransient then do
          warn ("✗ " ++ checkId ++ " failed: " ++ failure.message)
          return failed
        else .fail failure

def countText (n : Nat) : String :=
  Number.renderInt (n : Nat)

def reconcile (context : Context) : Console ExitStatus :=
  withReconciler context fun _ settings => do
    match ← (Console.ofWork (Sync.reconcileBatch settings)).attempt with
    | .ok [] => do
        say "Nothing to reconcile."
        return succeeded
    | .ok outcomes => do
        outcomes.forM sayOutcome
        let failures := (outcomes.filter (·.failed)).length
        say (countText outcomes.length ++ " check(s) reconciled, " ++ countText failures ++ " failed")
        return if failures = 0 then succeeded else failed
    | .error failure =>
        if failure.isTransient then do
          warn ("✗ Reconciliation failed: " ++ failure.message)
          return failed
        else .fail failure

def isStop : Failure → Bool
  | .other name _ => name == "KeyboardInterrupt"
  | _ => false

/-- More rounds than a loop makes before it is stopped. -/
def watchRounds : Nat := 1000000000

/-- Runs passes until it is stopped, or until so many passes are done. -/
def watch (context : Context) (interval : Option Value) (maxPasses : Option Int) :
    Console ExitStatus :=
  withReconciler context fun config settings => do
    let pause := interval.getD config.pollInterval
    let started ← Console.seconds
    say ("Watching for check changes every " ++ (← .ofExcept pause.written) ++
      "s (Ctrl-C to stop)")
    let found ← (Console.ofWork (Sync.loop settings pause maxPasses watchRounds 0)).attempt
    match found with
    | .ok passes => do
        let elapsed := Text.renderDuration ((← Console.seconds) - started)
        say (countText passes ++ " pass(es) in " ++ elapsed)
        return succeeded
    | .error failure =>
        if isStop failure then do
          let elapsed := Text.renderDuration ((← Console.seconds) - started)
          say ("Stopped after " ++ elapsed)
          return succeeded
        else .fail failure

def definitionLine (d : Definition) : Except Failure String := do
  let kind ← d.kind
  let state := if d.active then "active" else "inactive"
  let schedule ← (d.schedule.orElse (.text "-")).written
  return d.checkId ++ "  " ++ padded 12 kind.name ++ " " ++ padded 8 state ++ " " ++ schedule ++
    "  " ++ (← d.checkName.written)

/-- Whether a definition is of the kind that a word names. -/
def isOfKind (word : String) (d : Definition) : Except Failure Bool := do
  return (← d.kind).name == Text.upperText (Text.stripText word)

/-- The definitions of the kind that a word names; an empty word names all. -/
def ofKind (word : Option String) (all : List Definition) : Except Failure (List Definition) :=
  match word.filter (· != "") with
  | none => .ok all
  | some word => do
      let kept ← all.mapM (isOfKind word)
      return ((all.zip kept).filter (·.2)).map (·.1)

def listChecks (context : Context) (kind : Option String) : Console ExitStatus :=
  withServices context do
    let all ← Console.ofWork Work.listDefinitions
    let chosen ← .ofExcept (ofKind kind all)
    if chosen.isEmpty then say "No checks found."
    else chosen.forM fun d => do say (← .ofExcept (definitionLine d))
    return succeeded

/-- The entries of a file of definitions: a list, or the list `checks` of a record.
Anything else is no such file. -/
def entriesOf (data : Value) : Option (List Value) :=
  let found :=
    match data.orElse (.list []) with
    | .record row => (Row.find? row "checks").getD (.list [])
    | other => other
  match found with
  | .list items => some items
  | _ => none

def applyEntry (row : Row) : Console String := do
  let d ← .ofExcept (Definition.ofRow row)
  Console.ofWork (Work.putDefinition d)
  return d.checkId

/-- What an entry is called by, if that can be shown. -/
def entryName (row : Row) : Except Failure String :=
  ((Row.find? row "check_id").getD (.text "?")).written

/-- Writes entries one after another; a bad one does not stop the rest.  Answers how
many were bad. -/
def applyEntries : List Value → Console Nat
  | [] => return 0
  | .record row :: rest => do
      match ← (applyEntry row).attempt with
      | .ok checkId => do
          saySuccess (checkId ++ " applied")
          applyEntries rest
      | .error failure =>
          if failure.isEntryFault then do
            sayError ((← .ofExcept (entryName row)) ++ ": " ++ failure.message)
            return (← applyEntries rest) + 1
          else .fail failure
  | other :: rest => do
      sayError ((← .ofExcept other.shown) ++ ": not a check definition mapping")
      return (← applyEntries rest) + 1

def applyChecks (spec : CommandSpec) (context : Context) (file : String) :
    Console ExitStatus := do
  let path := Path.read file
  let content ← Console.readFile path
  let data ← Console.readYaml (.text content.toList) content
  match entriesOf data with
  | none =>
      refuse spec (.text (path.render ++ " must contain a list of check definitions"))
  | some entries =>
      withServices context do
        let bad ← applyEntries entries
        return if bad = 0 then succeeded else failed

def deleteCheck (context : Context) (checkId : String) : Console ExitStatus :=
  withServices context do
    if Sync.yes (← Console.ofWork (Work.deleteDefinition checkId)) then
      saySuccess (checkId ++ " deleted")
      return succeeded
    else
      warn ("✗ Check not found: " ++ checkId)
      return failed

def resultLine (result : CheckResult) : Except Failure String := do
  let details ← Json.dump .lenient result.details
  return result.executedAt.elim "-" Calendar.Moment.render ++ "  " ++
    padded 5 result.status.name ++ " " ++ details

def showResults (context : Context) (checkId : String) (limit : Int) : Console ExitStatus :=
  withServices context do
    match ← Console.ofWork (Work.recentResults checkId limit) with
    | [] => say ("No results for " ++ checkId ++ ".")
    | found => found.forM fun result => do say (← .ofExcept (resultLine result))
    return succeeded

/-- The samples of a file: the rows of one table, or a record that names them. -/
def samplesOf (data : Value) : Preview.Samples :=
  match data with
  | .record row => ⟨Row.get row "rows", Row.get row "source", Row.get row "target"⟩
  | other => ⟨other, .null, .null⟩

/-- The moment that a word writes, with `Z` for universal time anywhere in it. -/
def readRunTime (word : Option String) : Except Failure Value :=
  match word.filter (· != "") with
  | none => .ok .null
  | some word =>
      let text := word.toList.flatMap fun c => if c = 'Z' then "+00:00".toList else [c]
      ((Calendar.Moment.read (String.ofList text)).map Value.moment).mapError .moment

def preview (context : Context) (checkId sample : String) (runTime : Option String) :
    Console ExitStatus :=
  withDefinition context checkId fun d => do
    let content ← Console.readFile (Path.read sample)
    let data ← .ofExcept ((Json.read content).mapError Json.ReadFault.toFailure)
    let time ← .ofExcept (readRunTime runTime)
    match Preview.evaluate d (samplesOf data) time (← Console.now) with
    | .ok result => do
        say (← .ofExcept (prettyJson (.ofFields result.toRecord)))
        return if result.passed then succeeded else misused
    | .error failure =>
        if failure.isValueFault then do
          warn ("✗ " ++ checkId ++ ": " ++ failure.message)
          return failed
        else .fail failure

end CheckKeeper.Cli
