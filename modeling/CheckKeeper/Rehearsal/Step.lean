import CheckKeeper.Memory.Tables
import CheckKeeper.Sync.Request

namespace CheckKeeper.Rehearsal

open Calendar

/-! Steps of a rehearsal.

A rehearsal drives the reconciler and its collaborators in memory, one step after
another.  A fault makes a collaborator fail, or answer nothing, or takes further
steps in the middle of a call.
-/

/-- The calls that a fault can strike. -/
inductive Target where
  | record
  | hasPending
  | drain
  | acknowledge
  | getDefinition
  | putDefinition
  | deleteDefinition
  | putJob
  | deleteJob
  | findJob
deriving DecidableEq, Repr

namespace Target

def all : List (String × Target) :=
  [("feed.record", .record), ("feed.has_pending", .hasPending), ("feed.drain", .drain),
    ("feed.acknowledge", .acknowledge), ("store.get", .getDefinition),
    ("store.upsert", .putDefinition), ("store.delete", .deleteDefinition),
    ("scheduler.create_or_replace", .putJob), ("scheduler.delete_if_exists", .deleteJob),
    ("scheduler.find_job_name", .findJob)]

def ofName? (name : String) : Option Target :=
  all.lookup name

end Target

/-- What a fault does to the call that it strikes. -/
inductive Effect (step : Type) where
  | fail (failure : Failure)
  | absent
  | steps (steps : List step)

/-- A fault strikes `times` calls of its target, for ever if that is below nought,
after it has let `skip` of them pass.  With a key it looks only at calls with that
key.  A late fault strikes when the call is done. -/
structure Fault (step : Type) where
  target : Target
  key : Option String
  late : Bool
  skip : Int
  times : Int
  effect : Effect step

structure LoopOptions where
  interval : Value
  maxPasses : Option Int
  maxPauses : Nat
  stopped : Bool

inductive Step where
  | clock (now : Value)
  | ask (request : Sync.Request)
  | publish (event : Value)
  | record (action : Value) (checkId : String)
  | acknowledgeAllBut (checkIds : List String)
  | operations
  | loop (options : LoopOptions)
  | appendResult (row : Value)
  | fault (fault : Fault Step)
  | clearFaults

inductive Reply where
  | nothing
  | to (reply : Sync.Reply)
  | position (position : Nat)
  | event (event : Option ChangeEvent)
  | operations (done : List Memory.Operation)
  | passes (count : Nat) (pauses : List Value)

/-- What can be seen of the tables and the loop between two steps. -/
structure Snapshot where
  phase : Phase
  pending : List (Nat × ChangeEvent)
  acknowledged : Nat
  checkIds : List String
  jobs : List (String × String)
  operations : Nat

def Snapshot.of (state : Memory.State) : Snapshot where
  phase := state.loop.phase
  pending := state.tables.feed.pending
  acknowledged := state.tables.feed.acknowledgedPosition
  checkIds := state.tables.sortedRows.map (·.checkId)
  jobs := state.tables.jobs.map fun job => (job.name, job.checkId)
  operations := state.tables.operations.length

/-- The account of a step: its reply or its failure, what can be seen after it,
the account of the steps that a fault took during it, and what was logged. -/
inductive Account where
  | of (reply : Except Failure Reply) (after : Snapshot) (during : List Account)
      (journal : List Loop.LogRecord)

end CheckKeeper.Rehearsal
