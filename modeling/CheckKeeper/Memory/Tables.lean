import CheckKeeper.Memory.Feed
import CheckKeeper.Program.Service

namespace CheckKeeper.Memory

open Calendar

/-! The collaborators in memory.

The table of definitions may be attached to the feed, so that each change of a row
is captured there.  The scheduler keeps its jobs in the order in which their names
first came, and remembers what was done to them.
-/

inductive Operation where
  | createOrReplace (name : String)
  | delete (name : String)
deriving DecidableEq, Repr

structure Tables where
  clock : Moment
  captures : Bool
  rows : List Definition
  feed : Feed
  jobs : List Job
  operations : List Operation
  results : List CheckResult

namespace Tables

def empty (clock : Moment) (captures : Bool) : Tables :=
  ⟨clock, captures, [], .empty, [], [], []⟩

def row? (tables : Tables) (checkId : String) : Option Definition :=
  tables.rows.find? (·.checkId == checkId)

/-- Sets a row: in the place of the one with its id, or at the end. -/
def setRow (tables : Tables) (d : Definition) : Tables :=
  { tables with
    rows :=
      if tables.rows.any (·.checkId == d.checkId) then
        tables.rows.map fun row => if row.checkId == d.checkId then d else row
      else tables.rows ++ [d] }

/-- The row as it is stored: the time of its creation is that of the row that it
replaces, and else its own if it has one. -/
def stamped (tables : Tables) (existing : Option Definition) (d : Definition) : Definition :=
  { d with
    createdAt :=
      match existing with
      | some old => old.createdAt
      | none => d.createdAt.orElse (.moment tables.clock)
    updatedAt := .moment tables.clock }

/-- Inserts or updates a row, and answers which of the two it was. -/
def putRow (tables : Tables) (d : Definition) : Except Failure (ChangeAction × Tables) :=
  match tables.row? d.checkId with
  | some old => do
      old.checkKind d
      return (.update, tables.setRow (tables.stamped (some old) d))
  | none => .ok (.insert, tables.setRow (tables.stamped none d))

def removeRow (tables : Tables) (checkId : String) : Tables :=
  { tables with rows := tables.rows.filter (·.checkId != checkId) }

/-- Captures a change in the feed, if the table is attached to it. -/
def capture (tables : Tables) (action : ChangeAction) (checkId : String) : Tables :=
  if tables.captures then
    { tables with feed := tables.feed.record tables.clock action checkId }
  else tables

def sortedRows (tables : Tables) : List Definition :=
  tables.rows.mergeSort fun a b => a.checkId ≤ b.checkId

def hasJob (tables : Tables) (name : String) : Bool :=
  tables.jobs.any (·.name == name)

def job? (tables : Tables) (name : String) : Option Job :=
  tables.jobs.find? (·.name == name)

/-- Stores a job: in the place of the one of its name, or at the end. -/
def setJob (tables : Tables) (job : Job) : Tables :=
  let stored := { job with updatedAt := some tables.clock }
  { tables with
    jobs :=
      if tables.hasJob job.name then
        tables.jobs.map fun old => if old.name == job.name then stored else old
      else tables.jobs ++ [stored]
    operations := tables.operations ++ [.createOrReplace job.name] }

def removeJob (tables : Tables) (name : String) : Tables :=
  { tables with
    jobs := tables.jobs.filter (·.name != name)
    operations := tables.operations ++ [.delete name] }

/-- The name of the first job that is bound to an id. -/
def jobNameOf (tables : Tables) (checkId : String) : Option String :=
  (tables.jobs.find? (·.checkId == checkId)).map (·.name)

end Tables

/-- The tables and the loop that works on them. -/
structure State where
  tables : Tables
  loop : Loop.State

namespace State

def start (clock : Moment) (captures : Bool) : State :=
  ⟨.empty clock captures, .start⟩

def withTables (state : State) (tables : Tables) : State :=
  { state with tables }

end State

def handle : Program.Handler Service.interface State
  | .getDefinition checkId, s => (.ok (s.tables.row? checkId), s)
  | .putDefinition d, s =>
      match s.tables.putRow d with
      | .ok (action, tables) => (.ok (), s.withTables (tables.capture action d.checkId))
      | .error failure => (.error failure, s)
  | .deleteDefinition checkId, s =>
      if (s.tables.row? checkId).isSome then
        (.ok (some true), s.withTables ((s.tables.removeRow checkId).capture .delete checkId))
      else (.ok (some false), s)
  | .listDefinitions, s => (.ok s.tables.sortedRows, s)
  | .hasPending, s => (.ok (some s.tables.feed.hasPending), s)
  | .drain limit, s => (.ok (some (s.tables.feed.drain limit)), s)
  | .acknowledge batch, s =>
      (.ok (), s.withTables { s.tables with feed := s.tables.feed.acknowledge batch })
  | .putJob job, s => (.ok (some (s.tables.hasJob job.name)), s.withTables (s.tables.setJob job))
  | .deleteJob name, s => (.ok (some (s.tables.hasJob name)), s.withTables (s.tables.removeJob name))
  | .findJob checkId, s => (.ok (s.tables.jobNameOf checkId), s)
  | .getJob name, s => (.ok (s.tables.job? name), s)
  | .recentResults checkId limit, s => (CheckResult.recent s.tables.results checkId limit, s)
  | .loop c, s =>
      let (answer, loop) := Loop.handle c s.loop
      (answer, { s with loop })

end CheckKeeper.Memory
