import CheckKeeper.Path
import CheckKeeper.Value.Convert
import CheckKeeper.Text.Case

namespace CheckKeeper

/-! The configuration.

It names the tables of the warehouse and says how the reconciler runs and logs.
What is written in the file is kept as it is; a configuration that cannot be run
with is refused as a whole, for the first of its faults.
-/

structure Config where
  project : Value := .null
  dataset : Value := .text "dq"
  location : Value := .null
  definitionsTable : Value := .text "check_definitions"
  changesTable : Value := .text "check_definition_changes"
  jobsTable : Value := .text "generated_jobs"
  resultsTable : Value := .text "check_results"
  maxWorkers : Value := .int 4
  pollInterval : Value := .float 30.0
  batchLimit : Value := .null
  logLevel : Value := .text "INFO"
  logFormat : Value := .text "pretty"
  logFile : Value := .null
  envFile : Value := .null

namespace Config

/-- The configuration as a record, in the order in which it is written out. -/
def toRecord (config : Config) : List (String × Value) :=
  [("project", config.project),
    ("dataset", config.dataset),
    ("location", config.location),
    ("definitions_table", config.definitionsTable),
    ("changes_table", config.changesTable),
    ("jobs_table", config.jobsTable),
    ("results_table", config.resultsTable),
    ("max_workers", config.maxWorkers),
    ("poll_interval_seconds", config.pollInterval),
    ("batch_limit", config.batchLimit),
    ("log_level", config.logLevel),
    ("log_format", config.logFormat),
    ("log_file", config.logFile),
    ("env_file", config.envFile)]

def keys : List String :=
  (toRecord {}).map (·.1)

/-- The configuration of a row that has no other keys; what a row does not have
takes its default. -/
def ofRow (row : Row) : Config :=
  let given := fun (key : String) (otherwise : Value) => (Row.find? row key).getD otherwise
  let standard : Config := {}
  { project := given "project" standard.project
    dataset := given "dataset" standard.dataset
    location := given "location" standard.location
    definitionsTable := given "definitions_table" standard.definitionsTable
    changesTable := given "changes_table" standard.changesTable
    jobsTable := given "jobs_table" standard.jobsTable
    resultsTable := given "results_table" standard.resultsTable
    maxWorkers := given "max_workers" standard.maxWorkers
    pollInterval := given "poll_interval_seconds" standard.pollInterval
    batchLimit := given "batch_limit" standard.batchLimit
    logLevel := given "log_level" standard.logLevel
    logFormat := given "log_format" standard.logFormat
    logFile := given "log_file" standard.logFile
    envFile := given "env_file" standard.envFile }

/-- A whole number that is at least one. -/
def isPositiveCount : Value → Bool
  | .bool flag => flag
  | .int number => 1 ≤ number
  | _ => false

/-- A number that is not nought or below; one that is undefined passes. -/
def isPositiveNumber : Value → Bool
  | .bool flag => flag
  | .int number => 0 < number
  | .float number => !(number ≤ 0.0)
  | _ => false

def logLevels : List String :=
  ["DEBUG", "INFO", "WARNING", "ERROR"]

def logFormats : List String :=
  ["structured", "pretty"]

def fault? (config : Config) : Option ConfigFault :=
  if !config.dataset.isGiven then some .noDataset
  else if !isPositiveCount config.maxWorkers then some (.maxWorkers config.maxWorkers)
  else if !isPositiveNumber config.pollInterval then some (.pollInterval config.pollInterval)
  else if !config.batchLimit.isNull && !isPositiveCount config.batchLimit then
    some (.batchLimit config.batchLimit)
  else if !logLevels.contains (Text.upperText config.logLevel.plain) then some .logLevel
  else if !config.logFormat.text?.any logFormats.contains then some .logFormat
  else none

/-- The value that must be shown to find a fault or to tell of it. -/
def shownFor (config : Config) : ConfigFault → Value
  | .maxWorkers given => given
  | .pollInterval given => given
  | .batchLimit given => given
  | .logLevel => config.logLevel
  | _ => .null

/-- Refuses a configuration that cannot be run with. -/
def check (config : Config) : Except Failure Config :=
  match config.fault? with
  | some fault => do
      let _ ← (config.shownFor fault).shown
      .error (.config fault)
  | none => .ok config

def unknownKeys (row : Row) : List Value :=
  (row.map (·.1)).filter fun key => !key.text?.any keys.contains

/-- Puts a key in front of the first of those in order that it is less than. -/
def placeKey (key : Value) : List Value → Except Failure (List Value)
  | [] => .ok [key]
  | other :: rest => do
      if ← key.isLess other then return key :: other :: rest
      else return other :: (← placeKey key rest)

/-- The keys in order; keys of different kinds have none. -/
def sortKeys (keys : List Value) : Except Failure (List Value) :=
  keys.foldlM (fun ordered key => placeKey key ordered) []

/-- The keys as they are told of, in order; all of them must be texts. -/
def keyNames (keys : List Value) : Except Failure (List String) := do
  Value.textsFrom 0 (← sortKeys keys)

def ofRecord (row : Row) : Except Failure Config :=
  match unknownKeys row with
  | [] => (ofRow row).check
  | unknown => do .error (.config (.unknownKeys (← keyNames unknown)))

/-- The path of a table: behind its dataset, and behind its project if there is
one. -/
def tablePath (config : Config) (table : Value) : String :=
  let path := config.dataset.plain ++ "." ++ table.plain
  if config.project.isGiven then config.project.plain ++ "." ++ path else path

def resultsTablePath (config : Config) : String :=
  config.tablePath config.resultsTable

def fileOf (home : String) (file : Value) : Except Failure (Option Path) :=
  if file.isGiven then
    match file with
    | .text content => ((Path.read content).expand home).map some
    | other => .error (.misuse (.notPath other.typeName))
  else .ok none

def logPath (home : String) (config : Config) : Except Failure (Option Path) :=
  fileOf home config.logFile

/-- The most events that a pass takes, if there is a limit. -/
def batchMost (config : Config) : Option Int :=
  config.batchLimit.toInt.toOption

/-- The directory of the configuration: the one that is named, or else one in the
home directory. -/
def directory (home : String) (named : Option String) : Except Failure Path :=
  (Path.read (named.getD "~/.config/dqsync")).expand home

/-- What a new configuration in a directory starts from. -/
def initial (directory : Path) : Config where
  envFile := .text (directory.entry ".env").render
  logFile := .text ((directory.entry "logs").entry "dqsync.log").render

theorem fault?_default : fault? {} = none := by
  decide +kernel

end Config

end CheckKeeper
