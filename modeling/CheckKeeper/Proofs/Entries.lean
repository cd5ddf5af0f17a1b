import CheckKeeper.Rehearsal.Desk
import CheckKeeper.Proofs.Calls
import CheckKeeper.Proofs.Escapes

namespace CheckKeeper

open Memory (Tables)

/-! Files of entries, applied to tables in memory.

Each entry has its turn, on the tables that the accepted ones before it have left.  It is written or
rejected, and told of in either case, unless it halts the file: by a failure that is not laid to it,
or because it cannot be shown when it is to be told of.  What reads the file and what shows the
reports are any that answer or fail.
-/

namespace Memory.Tables

/-- The tables with a definition written, and its change captured. -/
def upsert (tables : Tables) (d : Definition) : Except Failure Tables :=
  (tables.putRow d).map fun (action, after) => after.capture action d.checkId

/-- The definition that is read from a row, and the tables with it. -/
def enter (tables : Tables) (row : Row) : Except Failure (Definition × Tables) := do
  let d ← Definition.ofRow row
  return (d, ← tables.upsert d)

end Memory.Tables

namespace Cli

/-- An entry, and the tables at its turn. -/
structure Turn where
  tables : Tables
  entry : Value

variable {tables : Tables} {row : Row} {d : Definition} {entry : Value}

namespace Turn

def nameOf (row : Row) : String :=
  ((row.find? "check_id").getD (.text "?")).plain

/-- What is written, and the tables with it, or why nothing is. -/
def outcome (turn : Turn) : Except String (Definition × Tables) :=
  match turn.entry with
  | .record row => (turn.tables.enter row).mapError fun failure => nameOf row ++ ": " ++ failure.message
  | other => .error (other.display ++ ": not a check definition mapping")

theorem outcome_record :
    outcome ⟨tables, .record row⟩ =
      (tables.enter row).mapError fun failure => nameOf row ++ ": " ++ failure.message := rfl

theorem outcome_other (noRecord : ∀ row, entry ≠ .record row) :
    outcome ⟨tables, entry⟩ = .error (entry.display ++ ": not a check definition mapping") := by
  cases entry with
  | record row => exact absurd rfl (noRecord row)
  | _ => rfl

def after (turn : Turn) : Tables :=
  match turn.outcome with
  | .ok (_, tables) => tables
  | .error _ => turn.tables

def rejected (turn : Turn) : Bool :=
  !turn.outcome.isOk

/-- What the console shows when the turn is told of. -/
def report (library : Shell.Library) (turn : Turn) : Except Failure String :=
  match turn.outcome with
  | .ok (d, _) => library.showMarked ⟨"✓", "bold green"⟩ (d.checkId ++ " applied")
  | .error complaint => library.showMarked ⟨"✗", "bold red"⟩ complaint

def shown (library : Shell.Library) (turn : Turn) : String :=
  (turn.report library).toOption.getD ""

end Turn

/-- The turns of entries, one after another. -/
def turns (tables : Tables) : List Value → List Turn
  | [] => []
  | entry :: rest => ⟨tables, entry⟩ :: turns (Turn.after ⟨tables, entry⟩) rest

/-- The tables with every entry written that is not rejected. -/
def applied (tables : Tables) (entries : List Value) : Tables :=
  entries.foldl (fun tables entry => Turn.after ⟨tables, entry⟩) tables

/-- The entries that a file holds: those of a list, or of the list `checks` of a record.  An empty
file and a record without that list hold none. -/
inductive Holds : Value → List Value → Prop
  | list (entries : List Value) : Holds (.list entries) entries
  | checks {row : Row} {entries : List Value} (named : row.find? "checks" = some (.list entries)) :
      Holds (.record row) entries
  | unnamed {row : Row} (unnamed : row.find? "checks" = none) : Holds (.record row) []
  | nothing {data : Value} (empty : data.isGiven = false) : Holds data []

theorem Holds.entriesOf {data : Value} {entries : List Value} (holds : Holds data entries) :
    entriesOf data = some entries := by
  cases holds with
  | list =>
      cases entries with
      | nil => rfl
      | cons entry rest => simp [Cli.entriesOf, Value.orElse, Value.isGiven]
  | @checks row _ named =>
      cases row with
      | nil => cases named
      | cons field rest => simp [Cli.entriesOf, Value.orElse, Value.isGiven, named]
  | @unnamed row unnamed =>
      cases row with
      | nil => rfl
      | cons field rest => simp [Cli.entriesOf, Value.orElse, Value.isGiven, unnamed]
  | nothing empty => simp [Cli.entriesOf, Value.orElse, empty]

/-- Turns that stop the file before they are told of: what is to be told of cannot be written, the
reading of a row stops, or a definition cannot be compared with the one that its id has. -/
inductive Turn.Stops : Turn → Prop where
  | other {tables : Tables} {entry : Value} (noRecord : ∀ row, entry ≠ .record row)
      (long : entry.hasLongNumber = true) : Stops ⟨tables, entry⟩
  | name {tables : Tables} {row : Row} {cell : Value} (named : row.find? "check_id" = some cell)
      (long : cell.hasLongNumber = true) : Stops ⟨tables, .record row⟩
  | reading {tables : Tables} {row : Row} (stops : Definition.Stops row) :
      Stops ⟨tables, .record row⟩
  | type {tables : Tables} {row : Row} {d old : Definition} (read : Definition.ofRow row = .ok d)
      (held : tables.row? d.checkId = some old)
      (unworded : old.checkType.IsUnworded ∨ d.checkType.IsUnworded) : Stops ⟨tables, .record row⟩

/-- Turns behind which the file does not go on. -/
inductive Turn.Halts (library : Shell.Library) (turn : Turn) : Prop where
  | stopped (stops : turn.Stops)
  | untold (failure : Failure) (failed : turn.report library = .error failure)

theorem escapes_upsert_iff :
    Escapes (tables.upsert d) ↔ ∃ old, tables.row? d.checkId = some old ∧
      (old.checkType.IsUnworded ∨ d.checkType.IsUnworded) := by
  unfold Memory.Tables.upsert Memory.Tables.putRow
  cases tables.row? d.checkId with
  | none => simp
  | some old => simp [Definition.escapes_checkKind_iff]

theorem escapes_enter_iff :
    Escapes (tables.enter row) ↔ Definition.Stops row ∨
      ∃ d old, Definition.ofRow row = .ok d ∧ tables.row? d.checkId = some old ∧
        (old.checkType.IsUnworded ∨ d.checkType.IsUnworded) := by
  unfold Memory.Tables.enter
  simp [escapes_bind, Definition.escapes_ofRow_iff, escapes_upsert_iff]

theorem entryName_of_short
    (short : ¬ ∃ cell, row.find? "check_id" = some cell ∧ cell.hasLongNumber = true) :
    entryName row = .ok (Turn.nameOf row) := by
  unfold entryName Turn.nameOf
  cases named : row.find? "check_id" with
  | none => rfl
  | some cell =>
      have writable : cell.hasLongNumber = false := by
        rw [← Bool.not_eq_true]
        exact fun long => short ⟨cell, named, long⟩
      simp [Value.written, writable]

/-- An id that cannot be shown is refused, and cannot be named in the refusal. -/
theorem unnamed_of_long {cell : Value} (named : row.find? "check_id" = some cell)
    (long : cell.hasLongNumber = true) :
    entryName row = .error (.rule .tooManyDigits) ∧ tables.enter row = .error (.rule .tooManyDigits) := by
  have unwritten : cell.written = .error (.rule .tooManyDigits) := by rw [Value.written, if_pos long]
  constructor
  · rw [entryName, named]
    exact unwritten
  · have required : row.require "check_id" = .ok cell := by rw [Row.require, named]
    unfold Memory.Tables.enter Definition.ofRow
    rw [required]
    simp [bind, Except.bind, unwritten]

theorem Turn.stops_record_iff :
    Turn.Stops ⟨tables, .record row⟩ ↔ Escapes (tables.enter row) ∨
      ∃ cell, row.find? "check_id" = some cell ∧ cell.hasLongNumber = true := by
  rw [escapes_enter_iff]
  constructor
  · intro stops
    cases stops with
    | other noRecord => exact absurd rfl (noRecord row)
    | name named long => exact .inr ⟨_, named, long⟩
    | reading stops => exact .inl (.inl stops)
    | type read held unworded => exact .inl (.inr ⟨_, _, read, held, unworded⟩)
  · rintro ((stops | ⟨d, old, read, held, unworded⟩) | ⟨cell, named, long⟩)
    · exact .reading stops
    · exact .type read held unworded
    · exact .name named long

theorem Turn.stops_other_iff (noRecord : ∀ row, entry ≠ .record row) :
    Turn.Stops ⟨tables, entry⟩ ↔ entry.hasLongNumber = true := by
  constructor
  · intro stops
    cases stops with
    | other _ long => exact long
    | _ => exact absurd rfl (noRecord _)
  · exact .other noRecord

end Cli

namespace Rehearsal

variable {desk : Desk} {s : State} {d : Definition}

/-- The collaborators stand in memory, and none of them fails. -/
structure Desk.IsLocal (desk : Desk) : Prop where
  remote : desk.remote = none
  faults : desk.stage.faults = []

theorem strikeAll_of_nil {nested : Nested} {target : Target} {key : Option String} {late : Bool}
    (calm : s.faults = []) : strikeAll nested target key late s = (none, s) := by
  rw [strikeAll, calm]
  rfl

theorem underFaults_of_nil {α : Type} {nested : Nested} {target : Target} {key : Option String}
    {absent : α} {action : Action α} (calm : s.faults = []) (after : (action s).2.faults = []) :
    underFaults nested target key absent action s = action s := by
  unfold underFaults
  rw [strikeAll_of_nil calm]
  dsimp only
  split
  · rename_i failed
    exact failed.symm
  · rename_i done
    rw [done] at after
    rw [strikeAll_of_nil after, done]

theorem captureChange_of_nil {nested : Nested} {action : ChangeAction} {checkId : String}
    (calm : s.faults = []) :
    captureChange nested action checkId s = (.ok (), s.withTables (s.tables.capture action checkId)) := by
  unfold captureChange Memory.Tables.capture recordEvent
  split
  · rw [underFaults_of_nil calm calm]
    rfl
  · rfl

theorem putDefinition_of_nil {nested : Nested} (calm : s.faults = []) :
    handle nested (.putDefinition d) s =
      match s.tables.upsert d with
      | .ok tables => (.ok (), s.withTables tables)
      | .error failure => (.error failure, s) := by
  have put : putRow nested d s =
      match s.tables.upsert d with
      | .ok tables => (.ok (), s.withTables tables)
      | .error failure => (.error failure, s) := by
    unfold putRow Memory.Tables.upsert
    cases s.tables.putRow d with
    | error failure => rfl
    | ok stored => exact captureChange_of_nil calm
  have kept : (putRow nested d s).2.faults = [] := by
    rw [put]
    split <;> exact calm
  exact (underFaults_of_nil calm kept).trans put

namespace Desk

def withTables (desk : Desk) (tables : Tables) : Desk :=
  { desk with stage := desk.stage.withTables tables }

theorem serve_putDefinition (here : desk.IsLocal) :
    desk.serve (.putDefinition d) =
      match desk.stage.tables.upsert d with
      | .ok tables => (.ok (), desk.withTables tables)
      | .error failure => (.error failure, desk) := by
  have served : desk.serve (.putDefinition d) =
      ((Rehearsal.handle (nestedSteps nestingLimit) (.putDefinition d) desk.stage).1,
        { desk with
          stage := (Rehearsal.handle (nestedSteps nestingLimit) (.putDefinition d) desk.stage).2 }) := by
    unfold serve
    simp only [here.remote]
    generalize nestedSteps nestingLimit = nested
    rfl
  rw [served, putDefinition_of_nil here.faults]
  cases desk.stage.tables.upsert d <;> rfl

end Desk

end Rehearsal

namespace Cli

open Program (run_bind run_attempt run_embed run_perform)
open Rehearsal (Desk)

variable {desk : Desk} {entries rest : List Value}

theorem run_putDefinition (d : Definition) (desk : Desk) :
    (Console.ofWork (Work.putDefinition d)).run Desk.handle desk = desk.serve (.putDefinition d) := by
  refine (run_embed (I := Service.interface) (J := Shell.interface) Desk.handle _ _ desk).trans ?_
  refine (run_perform (I := Service.interface) _ _ desk).trans ?_
  exact run_perform (I := Shell.interface) Desk.handle (.service (.putDefinition d)) desk

theorem run_applyEntry (here : desk.IsLocal) :
    (applyEntry row).run Desk.handle desk =
      match desk.stage.tables.enter row with
      | .ok (d, tables) => (.ok d.checkId, desk.withTables tables)
      | .error failure => (.error failure, desk) := by
  unfold applyEntry Memory.Tables.enter
  cases Definition.ofRow row with
  | error failure => rfl
  | ok d =>
      change ((Console.ofWork (Work.putDefinition d)).bind fun _ => .done d.checkId).run Desk.handle desk = _
      rw [run_bind, run_putDefinition, Desk.serve_putDefinition here]
      change _ = match (desk.stage.tables.upsert d).bind fun after => .ok (d, after) with
        | .ok (d, tables) => ((.ok d.checkId : Except Failure String), desk.withTables tables)
        | .error failure => (.error failure, desk)
      cases desk.stage.tables.upsert d <;> rfl

def printed (text : String) (desk : Desk) : Desk :=
  { desk with output := desk.output ++ text }

/-- The desk after the turn of an entry. -/
def took (desk : Desk) (entry : Value) : Desk :=
  let turn : Turn := ⟨desk.stage.tables, entry⟩
  printed (turn.shown desk.library) (desk.withTables turn.after)

theorem run_tell (mark : Shell.Mark) (text : String) (desk : Desk) :
    (Console.tell mark text).run Desk.handle desk =
      match desk.library.showMarked mark text with
      | .ok shown => (.ok (), printed shown desk)
      | .error failure => (.error failure, desk) :=
  run_perform (I := Shell.interface) Desk.handle (.tell mark text) desk

/-- A rejected entry is told of and counted, and the others have their turns. -/
theorem run_rejection (text : String) (desk : Desk) :
    (do sayError text; return (← applyEntries rest) + 1 : Console Nat).run Desk.handle desk =
      match desk.library.showMarked ⟨"✗", "bold red"⟩ text with
      | .ok shown =>
          (((applyEntries rest).run Desk.handle (printed shown desk)).1.map (· + 1),
            ((applyEntries rest).run Desk.handle (printed shown desk)).2)
      | .error failure => (.error failure, desk) := by
  change ((Console.tell ⟨"✗", "bold red"⟩ text).bind fun _ =>
    (applyEntries rest).bind fun count => .done (count + 1)).run Desk.handle desk = _
  rw [run_bind, run_tell]
  cases desk.library.showMarked ⟨"✗", "bold red"⟩ text with
  | error failure => rfl
  | ok shown =>
      dsimp only
      rw [run_bind]
      obtain ⟨count, last⟩ := (applyEntries rest).run Desk.handle (printed shown desk)
      cases count <;> rfl

theorem run_acceptance (text : String) (desk : Desk) :
    (do saySuccess text; applyEntries rest : Console Nat).run Desk.handle desk =
      match desk.library.showMarked ⟨"✓", "bold green"⟩ text with
      | .ok shown => (applyEntries rest).run Desk.handle (printed shown desk)
      | .error failure => (.error failure, desk) := by
  change ((Console.tell ⟨"✓", "bold green"⟩ text).bind fun _ => applyEntries rest).run Desk.handle
    desk = _
  rw [run_bind, run_tell]
  cases desk.library.showMarked ⟨"✓", "bold green"⟩ text <;> rfl

theorem run_record (here : desk.IsLocal) :
    (applyEntries (.record row :: rest)).run Desk.handle desk =
      match desk.stage.tables.enter row with
      | .ok (d, tables) =>
          (do saySuccess (d.checkId ++ " applied"); applyEntries rest : Console Nat).run Desk.handle
            (desk.withTables tables)
      | .error failure =>
          Program.run Desk.handle
            (if failure.isEntryFault then do
              sayError ((← .ofExcept (entryName row)) ++ ": " ++ failure.message)
              return (← applyEntries rest) + 1
            else .fail failure) desk := by
  change ((applyEntry row).attempt.bind _).run Desk.handle desk = _
  rw [run_bind, run_attempt, run_applyEntry here]
  cases desk.stage.tables.enter row with
  | ok written => rfl
  | error failure => rfl

theorem applyEntries_other (noRecord : ∀ row, entry ≠ .record row) :
    applyEntries (entry :: rest) = (do
      sayError ((← .ofExcept entry.shown) ++ ": not a check definition mapping")
      return (← applyEntries rest) + 1) := by
  cases entry with
  | record row => exact absurd rfl (noRecord row)
  | _ => rfl

theorem run_applyEntries_of_ok {d : Definition} {after : Tables} (here : desk.IsLocal)
    (outcome : Turn.outcome ⟨desk.stage.tables, entry⟩ = .ok (d, after)) :
    (applyEntries (entry :: rest)).run Desk.handle desk =
      (do saySuccess (d.checkId ++ " applied"); applyEntries rest : Console Nat).run Desk.handle
        (desk.withTables after) := by
  have isRecord : ∃ row, entry = .record row := by
    by_contra none
    rw [not_exists] at none
    rw [Turn.outcome_other none] at outcome
    cases outcome
  obtain ⟨row, rfl⟩ := isRecord
  rw [Turn.outcome_record] at outcome
  cases entered : desk.stage.tables.enter row with
  | error failure =>
      rw [entered] at outcome
      cases outcome
  | ok stored =>
      rw [entered] at outcome
      cases outcome
      rw [run_record here, entered]

theorem run_applyEntries_of_error {complaint : String} (here : desk.IsLocal)
    (steady : ¬ Turn.Stops ⟨desk.stage.tables, entry⟩)
    (outcome : Turn.outcome ⟨desk.stage.tables, entry⟩ = .error complaint) :
    (applyEntries (entry :: rest)).run Desk.handle desk =
      (do sayError complaint; return (← applyEntries rest) + 1 : Console Nat).run Desk.handle desk := by
  by_cases isRecord : ∃ row, entry = .record row
  · obtain ⟨row, rfl⟩ := isRecord
    rw [Turn.stops_record_iff, not_or] at steady
    obtain ⟨blamed, short⟩ := steady
    rw [run_record here]
    rw [Turn.outcome_record] at outcome
    cases entered : desk.stage.tables.enter row with
    | ok stored =>
        rw [entered] at outcome
        cases outcome
    | error failure =>
        rw [entered] at outcome blamed
        cases outcome
        rw [escapes_error, Bool.not_eq_false] at blamed
        simp only [if_pos blamed, entryName_of_short short]
        rfl
  · rw [not_exists] at isRecord
    rw [Turn.stops_other_iff isRecord, Bool.not_eq_true] at steady
    rw [Turn.outcome_other isRecord] at outcome
    cases outcome
    rw [applyEntries_other isRecord, Value.shown, steady]
    rfl

theorem run_applyEntries_of_stops (here : desk.IsLocal)
    (stops : Turn.Stops ⟨desk.stage.tables, entry⟩) :
    ∃ failure, (applyEntries (entry :: rest)).run Desk.handle desk = (.error failure, desk) := by
  by_cases isRecord : ∃ row, entry = .record row
  · obtain ⟨row, rfl⟩ := isRecord
    rw [run_record here]
    rcases Turn.stops_record_iff.mp stops with ⟨failure, entered, escapes⟩ | ⟨cell, named, long⟩
    · refine ⟨failure, ?_⟩
      rw [entered]
      simp only [escapes]
      rfl
    · obtain ⟨unnamed, entered⟩ := unnamed_of_long named long
      refine ⟨.rule .tooManyDigits, ?_⟩
      rw [entered]
      simp only [Failure.isEntryFault_rule, if_true, unnamed]
      rfl
  · rw [not_exists] at isRecord
    rw [Turn.stops_other_iff isRecord] at stops
    refine ⟨.rule .tooManyDigits, ?_⟩
    rw [applyEntries_other isRecord, Value.shown, if_pos stops]
    rfl

/-- A turn that does not halt is told of, and the rest of the file follows. -/
theorem run_applyEntries_cons (here : desk.IsLocal)
    (steady : ¬ Turn.Halts desk.library ⟨desk.stage.tables, entry⟩) :
    (applyEntries (entry :: rest)).run Desk.handle desk =
      (((applyEntries rest).run Desk.handle (took desk entry)).1.map
          (· + if Turn.rejected ⟨desk.stage.tables, entry⟩ then 1 else 0),
        ((applyEntries rest).run Desk.handle (took desk entry)).2) := by
  have told : ∃ shown, Turn.report desk.library ⟨desk.stage.tables, entry⟩ = .ok shown := by
    cases report : Turn.report desk.library ⟨desk.stage.tables, entry⟩ with
    | ok shown => exact ⟨shown, rfl⟩
    | error failure => exact absurd (.untold failure report) steady
  obtain ⟨shown, report⟩ := told
  have after_turn : took desk entry =
      printed shown (desk.withTables (Turn.after ⟨desk.stage.tables, entry⟩)) := by
    rw [took, Turn.shown, report]
    rfl
  rw [after_turn, Turn.after, Turn.rejected]
  unfold Turn.report at report
  cases outcome : Turn.outcome ⟨desk.stage.tables, entry⟩ with
  | ok written =>
      simp only [outcome] at report
      rw [run_applyEntries_of_ok here outcome, run_acceptance]
      have shows : (desk.withTables written.2).library = desk.library := rfl
      rw [shows, report]
      dsimp only
      generalize (applyEntries rest).run Desk.handle (printed shown (desk.withTables written.2)) = ran
      obtain ⟨count, last⟩ := ran
      cases count <;> rfl
  | error complaint =>
      simp only [outcome] at report
      rw [run_applyEntries_of_error here (fun stops => steady (.stopped stops)) outcome,
        run_rejection, report]
      rfl

theorem run_applyEntries_of_halts (here : desk.IsLocal)
    (halts : Turn.Halts desk.library ⟨desk.stage.tables, entry⟩) :
    ∃ failure last, (applyEntries (entry :: rest)).run Desk.handle desk = (.error failure, last) := by
  by_cases stops : Turn.Stops ⟨desk.stage.tables, entry⟩
  · obtain ⟨failure, stopped⟩ : ∃ failure,
        (applyEntries (entry :: rest)).run Desk.handle desk = (.error failure, desk) :=
      run_applyEntries_of_stops here stops
    exact ⟨failure, desk, stopped⟩
  cases halts with
  | stopped stopped => exact absurd stopped stops
  | untold failure report =>
      unfold Turn.report at report
      cases outcome : Turn.outcome ⟨desk.stage.tables, entry⟩ with
      | ok written =>
          simp only [outcome] at report
          rw [run_applyEntries_of_ok here outcome, run_acceptance]
          have shows : (desk.withTables written.2).library = desk.library := rfl
          rw [shows, report]
          exact ⟨failure, _, rfl⟩
      | error complaint =>
          simp only [outcome] at report
          rw [run_applyEntries_of_error here stops outcome, run_rejection, report]
          exact ⟨failure, _, rfl⟩

theorem isLocal_took (here : desk.IsLocal) (entry : Value) : (took desk entry).IsLocal :=
  ⟨here.remote, here.faults⟩

/-- The desk after a file: the accepted entries are written, and of each there is a report. -/
def finished (desk : Desk) (entries : List Value) : Desk :=
  { desk with
    stage := desk.stage.withTables (applied desk.stage.tables entries)
    output := desk.output ++
      String.join ((turns desk.stage.tables entries).map (Turn.shown desk.library)) }

theorem finished_cons : finished desk (entry :: rest) = finished (took desk entry) rest := by
  simp only [finished, turns, List.map_cons, String.join_cons, ← String.append_assoc]
  rfl

theorem run_applyEntries (here : desk.IsLocal)
    (steady : ∀ turn ∈ turns desk.stage.tables entries, ¬ turn.Halts desk.library) :
    (applyEntries entries).run Desk.handle desk =
      (.ok ((turns desk.stage.tables entries).countP Turn.rejected), finished desk entries) := by
  induction entries generalizing desk with
  | nil =>
      have kept : finished desk [] = desk := by
        change { desk with output := desk.output ++ "" } = desk
        rw [String.append_empty]
      rw [kept]
      rfl
  | cons entry rest ih =>
      obtain ⟨first, later⟩ := List.forall_mem_cons.mp steady
      rw [run_applyEntries_cons here first, ih (isLocal_took here entry) later, finished_cons, turns,
        List.countP_cons]
      rfl

theorem run_applyEntries_halted (here : desk.IsLocal)
    (halts : ∃ turn ∈ turns desk.stage.tables entries, turn.Halts desk.library) :
    ∃ failure last, (applyEntries entries).run Desk.handle desk = (.error failure, last) := by
  induction entries generalizing desk with
  | nil =>
      obtain ⟨_, none, -⟩ := halts
      cases none
  | cons entry rest ih =>
      by_cases first : Turn.Halts desk.library ⟨desk.stage.tables, entry⟩
      · exact run_applyEntries_of_halts here first
      · obtain ⟨turn, member, halted⟩ := halts
        have later : turn ∈ turns (took desk entry).stage.tables rest := by
          rcases List.mem_cons.mp member with rfl | later
          · exact absurd halted first
          · exact later
        obtain ⟨failure, last, stopped⟩ := ih (isLocal_took here entry) ⟨turn, later, halted⟩
        rw [run_applyEntries_cons here first, stopped]
        exact ⟨failure, last, rfl⟩

theorem run_isConnected (here : desk.IsLocal) :
    Console.isConnected.run Desk.handle desk = (.ok true, desk) := by
  have connected : desk.isConnected = true := by
    rw [Desk.isConnected, here.remote]
    rfl
  exact (run_perform Desk.handle _ desk).trans (congrArg (Except.ok ·, desk) connected)

theorem run_applyChecks {spec : CommandSpec} {context : Context} {file content : String} {data : Value}
    (here : desk.IsLocal) (held : desk.files.read (Path.read file) = .ok content)
    (parsed : desk.library.readYaml (.text content.toList) content = .ok data)
    (holds : Holds data entries) :
    (applyChecks spec context file).run Desk.handle desk =
      (((applyEntries entries).run Desk.handle desk).1.map fun bad => if bad = 0 then 0 else 1,
        ((applyEntries entries).run Desk.handle desk).2) := by
  have handed : (Console.readFile (Path.read file)).run Desk.handle desk = (.ok content, desk) :=
    (run_perform Desk.handle _ desk).trans (congrArg (·, desk) held)
  have understood : (Console.readYaml (.text content.toList) content).run Desk.handle desk =
      (.ok data, desk) :=
    (run_perform Desk.handle _ desk).trans (congrArg (·, desk) parsed)
  unfold applyChecks
  change ((Console.readFile (Path.read file)).bind _).run Desk.handle desk = _
  rw [run_bind, handed]
  change ((Console.readYaml (.text content.toList) content).bind _).run Desk.handle desk = _
  rw [run_bind, understood]
  simp only [holds.entriesOf]
  change (Console.isConnected.bind _).run Desk.handle desk = _
  rw [run_bind, run_isConnected here]
  simp only [if_true]
  change ((applyEntries entries).bind _).run Desk.handle desk = _
  rw [run_bind]
  obtain ⟨count, last⟩ := (applyEntries entries).run Desk.handle desk
  cases count <;> rfl

/-- A library that reads one value from whatever text, and shows every message on a line. -/
def reading (data : Value) : Shell.Library where
  readYaml _ _ := .ok data
  showMarked mark message := .ok (mark.sign ++ " " ++ message ++ "\n")

/-- A desk with one file on it, of which it is known what it is read as. -/
def deskWith (content : String) (data : Value) : Desk :=
  { Desk.start (.start .earliest true ⟨.text "dq.results", none⟩) none
      ⟨[(Path.read "checks.yaml", content)], []⟩ [] "/" with
    library := reading data }

/-- The second entry has no id. -/
def nameless : String :=
  "- check_id: a\n- schedule: daily\n- check_id: b\n"

def namelessEntries : List Value :=
  [.ofFields [("check_id", .text "a")], .ofFields [("schedule", .text "daily")],
    .ofFields [("check_id", .text "b")]]

/-- The first entry has minutes without end. -/
def endless : String :=
  "- check_id: a\n  sla_minutes: .inf\n- check_id: b\n"

def endlessEntries : List Value :=
  [.ofFields [("check_id", .text "a"), ("sla_minutes", .float (Number.ofCode false Number.infinityCode))],
    .ofFields [("check_id", .text "b")]]

end Cli

end CheckKeeper
