import CheckKeeper.Rehearsal.Step

namespace CheckKeeper.Rehearsal

open Calendar

/-! Rehearsals: steps on collaborators that fail as they are told.

Each call of a collaborator looks through the faults twice, for the early ones
before it is carried out and for the late ones after.
-/

structure State where
  base : Memory.State
  faults : List (Fault Step)
  settings : Sync.Settings
  remembered : Batch
  tray : List Account
  turn : Nat

namespace State

def start (clock : Moment) (captures : Bool) (settings : Sync.Settings) : State :=
  ⟨.start clock captures, [], settings, .empty, [], 0⟩

def withBase (s : State) (base : Memory.State) : State :=
  { s with base }

def tables (s : State) : Memory.Tables :=
  s.base.tables

def withTables (s : State) (tables : Memory.Tables) : State :=
  s.withBase (s.base.withTables tables)

def withSignal (s : State) (signal : Loop.StopSignal) : State :=
  s.withBase { s.base with loop := { s.base.loop with signal } }

end State

/-- What steps do to the state, in the middle of a call. -/
abbrev Nested := List Step → State → State

/-- A call of a collaborator, as it acts on the state. -/
abbrev Action (α : Type) := State → Except Failure α × State

def Fault.strikes (fault : Fault Step) (target : Target) (key : Option String) (late : Bool) :
    Bool :=
  fault.target == target && fault.late == late && (fault.key.isNone || fault.key == key)

def Fault.spent (fault : Fault Step) : Fault Step :=
  if 0 < fault.times then { fault with times := fault.times - 1 } else fault

inductive Halt where
  | failed (failure : Failure)
  | absent

/-- Lets the fault with this index strike a call that it looks at. -/
def strike (nested : Nested) (index : Nat) (fault : Fault Step) (s : State) :
    Option Halt × State :=
  let replace := fun (changed : Fault Step) => { s with faults := s.faults.set index changed }
  if 0 < fault.skip then (none, replace { fault with skip := fault.skip - 1 })
  else if fault.times = 0 then (none, s)
  else
    match fault.effect with
    | .fail failure => (some (.failed failure), replace fault.spent)
    | .absent => (some .absent, replace fault.spent)
    | .steps steps => (none, nested steps (replace fault.spent))

/-- Goes through `count` faults from an index on, until one ends the call. -/
def strikeFrom (nested : Nested) (target : Target) (key : Option String) (late : Bool) :
    Nat → Nat → State → Option Halt × State
  | 0, _, s => (none, s)
  | count + 1, index, s =>
      match s.faults[index]? with
      | none => (none, s)
      | some fault =>
          if fault.strikes target key late then
            match strike nested index fault s with
            | (some halt, after) => (some halt, after)
            | (none, after) => strikeFrom nested target key late count (index + 1) after
          else strikeFrom nested target key late count (index + 1) s

def strikeAll (nested : Nested) (target : Target) (key : Option String) (late : Bool)
    (s : State) : Option Halt × State :=
  strikeFrom nested target key late s.faults.length 0 s

/-- A call under the faults; `absent` is what it answers if a fault leaves the
answer out. -/
def underFaults {α : Type} (nested : Nested) (target : Target) (key : Option String) (absent : α)
    (action : Action α) : Action α := fun s =>
  match strikeAll nested target key false s with
  | (some (.failed failure), early) => (.error failure, early)
  | (some .absent, early) => (.ok absent, early)
  | (none, early) =>
      match action early with
      | (.error failure, done) => (.error failure, done)
      | (.ok answer, done) =>
          match strikeAll nested target key true done with
          | (some (.failed failure), late) => (.error failure, late)
          | (some .absent, late) => (.ok absent, late)
          | (none, late) => (.ok answer, late)

def plainly (c : Service.Call) : Action (Service.Answer c) := fun s =>
  let (answer, base) := Memory.handle c s.base
  (answer, s.withBase base)

/-- Records a change in the feed and answers its event. -/
def recordEvent (nested : Nested) (action : ChangeAction) (checkId : String) :
    Action (Option ChangeEvent) :=
  underFaults nested .record (some action.name) none fun s =>
    let tables := s.tables
    (.ok (some (tables.feed.captured tables.clock action checkId)),
      s.withTables { tables with feed := tables.feed.record tables.clock action checkId })

/-- Captures a change, if the table of definitions is attached to the feed. -/
def captureChange (nested : Nested) (action : ChangeAction) (checkId : String) : Action Unit :=
  fun s =>
    if s.tables.captures then
      let (recorded, after) := recordEvent nested action checkId s
      (recorded.map fun _ => (), after)
    else (.ok (), s)

def putRow (nested : Nested) (d : Definition) : Action Unit := fun s =>
  match s.tables.putRow d with
  | .error failure => (.error failure, s)
  | .ok (action, tables) => captureChange nested action d.checkId (s.withTables tables)

def deleteRow (nested : Nested) (checkId : String) : Action (Option Bool) := fun s =>
  if (s.tables.row? checkId).isSome then
    let (captured, after) :=
      captureChange nested .delete checkId (s.withTables (s.tables.removeRow checkId))
    (captured.map fun _ => some true, after)
  else (.ok (some false), s)

/-- Carries out a call of the reconciler under the faults. -/
def handle (nested : Nested) : Program.Handler Service.interface State
  | .getDefinition checkId =>
      underFaults nested .getDefinition (some checkId) none (plainly (.getDefinition checkId))
  | .putDefinition d =>
      underFaults nested .putDefinition (some d.checkId) () (putRow nested d)
  | .deleteDefinition checkId =>
      underFaults nested .deleteDefinition (some checkId) none (deleteRow nested checkId)
  | .hasPending => underFaults nested .hasPending none none (plainly .hasPending)
  | .drain limit => underFaults nested .drain none none (plainly (.drain limit))
  | .acknowledge batch =>
      underFaults nested .acknowledge none () (plainly (.acknowledge batch))
  | .putJob job => underFaults nested .putJob (some job.name) none (plainly (.putJob job))
  | .deleteJob name => underFaults nested .deleteJob (some name) none (plainly (.deleteJob name))
  | .findJob checkId => underFaults nested .findJob (some checkId) none (plainly (.findJob checkId))
  | c => plainly c

/-- More rounds than a loop that ever pauses has before it stops. -/
def loopRounds : Nat := 1000000

def runLoop (nested : Nested) (options : LoopOptions) : Action Reply := fun s =>
  let outer := s.base.loop.signal
  let signal : Loop.StopSignal := ⟨options.stopped, [], some options.maxPauses⟩
  let work := Sync.loop s.settings options.interval options.maxPasses loopRounds 0
  let (found, after) := work.run (handle nested) (s.withSignal signal)
  (found.map fun count => .passes count after.base.loop.signal.pauses, after.withSignal outer)

/-- Makes a reply of what is read, or goes on with it. -/
def reading {α : Type} (found : Except Failure α) (action : α → Action Reply) : Action Reply :=
  fun s =>
    match found with
    | .ok value => action value s
    | .error failure => (.error failure, s)

/-- A batch that was read is remembered for the step that acknowledges it. -/
def remember (s : State) : Sync.Reply → State
  | .batch batch => { s with remembered := batch.getD .empty }
  | _ => s

def reads : Sync.Request → Bool
  | .drain _ => true
  | _ => false

def ask (nested : Nested) (request : Sync.Request) : Action Reply := fun s =>
  match (request.work s.settings).run (handle nested) s with
  | (.ok found, after) => (.ok (.to found), if reads request then remember after found else after)
  | (.error failure, after) => (.error failure, after)

def addResult (result : CheckResult) : Action Reply := fun s =>
  (.ok .nothing, s.withTables { s.tables with results := s.tables.results ++ [result] })

def publishEvent (event : ChangeEvent) : Action Reply := fun s =>
  (.ok (.position s.tables.feed.nextPosition),
    s.withTables { s.tables with feed := s.tables.feed.publish event })

def setClock (now : Moment) : Action Reply := fun s =>
  (.ok .nothing, s.withTables { s.tables with clock := now })

def actionOf (given : Value) : Except Failure ChangeAction :=
  match given with
  | .text name => ChangeAction.ofName name
  | other => .error (.choice other "ChangeAction")

def carryOut (nested : Nested) (step : Step) : Action Reply := fun s =>
  match step with
  | .clock now => reading now.toMoment setClock s
  | .ask request => ask nested request s
  | .publish event => reading (event.toRow >>= ChangeEvent.ofRow) publishEvent s
  | .record action checkId =>
      reading (actionOf action)
        (fun action s =>
          let (event, after) := recordEvent nested action checkId s
          (event.map .event, after)) s
  | .acknowledgeAllBut checkIds =>
      ask nested (.acknowledge (s.remembered.excluding checkIds)) s
  | .operations => (.ok (.operations s.tables.operations), s)
  | .loop options => runLoop nested options s
  | .appendResult row => reading (row.toRow >>= CheckResult.ofRow) addResult s
  | .fault fault => (.ok .nothing, { s with faults := s.faults ++ [fault] })
  | .clearFaults => (.ok .nothing, { s with faults := [] })

/-- Carries out one step and gives the account of it.  What lies in the tray goes
into the account, and the tray is changed for an empty one. -/
def account (nested : Nested) (step : Step) (s : State) : Account × State :=
  let (found, after) := carryOut nested step s
  let journal := after.base.loop.journal.drop s.base.loop.journal.length
  let told := Account.of found (.of after.base) after.tray journal
  (told, if after.tray.isEmpty then after else { after with tray := [], turn := after.turn + 1 })

/-- Carries out one step during a call.  Its account goes into the tray that stood
there when the step began; if that was changed meanwhile, the account is lost. -/
def accountDuring (nested : Nested) (step : Step) (s : State) : State :=
  let (told, after) := account nested step s
  if after.turn = s.turn then { after with tray := after.tray ++ [told] } else after

/-- Steps during a call, in which further faults may strike down to a depth. -/
def nestedSteps : Nat → Nested
  | 0, _, s => s
  | depth + 1, steps, s =>
      steps.foldl (fun s step => accountDuring (nestedSteps depth) step s) s

/-- How deep faults may strike in the steps of faults. -/
def nestingLimit : Nat := 40

def perform (step : Step) (s : State) : Account × State :=
  account (nestedSteps nestingLimit) step s

def rehearse : List Step → State → List Account × State
  | [], s => ([], s)
  | step :: rest, s =>
      let (told, after) := perform step s
      let (later, last) := rehearse rest after
      (told :: later, last)

end CheckKeeper.Rehearsal
