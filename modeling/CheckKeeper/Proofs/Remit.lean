import CheckKeeper.Proofs.Calls
import CheckKeeper.Proofs.Verdict
import CheckKeeper.Sync.Reconciler

namespace CheckKeeper.Sync

open Program

/-! What the action of an id may call, whatever stands behind the collaborators. -/

/-- What an action is given and may touch: the rows that it may be given as that of its id,
the jobs that it may store, and the names of the jobs that it may remove. -/
structure Remit where
  owns : Definition → Prop
  stores : Job → Prop
  removes : String → Prop

namespace Remit

/-- An action reads and deletes the row of its id, looks for the job of its id, and stores
and removes jobs within its remit. -/
def permits (remit : Remit) (checkId : String) : Service.Call → Prop
  | .getDefinition about => about = checkId
  | .deleteDefinition about => about = checkId
  | .findJob about => about = checkId
  | .putJob job => remit.stores job
  | .deleteJob name => remit.removes name
  | .loop (.note _ _) => True
  | _ => False

/-- The rows and the names that an action is told lie within its remit. -/
def informs (remit : Remit) : (c : Service.Call) → Except Failure (Service.Answer c) → Prop
  | .getDefinition _, answer => ∀ row, answer = .ok (some row) → remit.owns row
  | .findJob _, answer => ∀ name, answer = .ok (some name) → remit.removes name
  | _, _ => True

/-- The jobs of the checks that its rows make lie within the remit. -/
def Covers (remit : Remit) (resultsTable : Value) : Prop :=
  ∀ row check message, remit.owns row →
    Compile.compile row resultsTable = .ok (.valid check message) → remit.stores check.toJob

def unlimited : Remit :=
  ⟨fun _ => True, fun _ => True, fun _ => True⟩

theorem covers_unlimited (resultsTable : Value) : unlimited.Covers resultsTable :=
  fun _ _ _ _ _ => trivial

/-- The remit of an action of an id: its row, the job that it asks for, and some jobs to remove. -/
def ofId (checkId : String) (removes : String → Prop) : Remit where
  owns row := row.checkId = checkId
  stores job := job.checkId = checkId ∧ job.name = Job.nameOf checkId
  removes := removes

theorem covers_ofId (checkId : String) (removes : String → Prop) (resultsTable : Value) :
    (ofId checkId removes).Covers resultsTable := by
  intro row check message own compiled
  obtain ⟨bound, named⟩ := Compile.isOf_compile compiled
  exact ⟨bound.trans own, named.trans (congrArg Job.nameOf own)⟩

theorem informs_unlimited (c : Service.Call) (answer : Except Failure (Service.Answer c)) :
    unlimited.informs c answer := by
  cases c <;> simp [informs, unlimited]

theorem informs_error {remit : Remit} (c : Service.Call) (failure : Failure) :
    remit.informs c (.error failure) := by
  cases c <;> simp [informs]

end Remit

variable {remit : Remit} {checkId : String} {settings : Settings} {resultsTable : Value}
  {action : ChangeAction} {β : Type} {last : β → Prop}

/-- The outcome of an action is about its id, and tells of no failure. -/
def TellsOf (checkId : String) (outcome : Outcome) : Prop :=
  outcome.checkId = checkId ∧ outcome.failed = false

theorem note_behaves {level : LogLevel} {text : String} {next : Unit → Work β}
    (rest : (next ()).Behaves (remit.permits checkId) remit.informs last) :
    (Work.note level text >>= next).Behaves (remit.permits checkId) remit.informs last :=
  behaves_call trivial fun _ _ => rest

theorem removes_of_givenName {name : Option String} {given : String}
    (told : ∀ given, name = some given → remit.removes given) (found : givenName name = some given) :
    remit.removes given :=
  told given (Option.filter_eq_some_iff.mp found).1

theorem deleteBoundJob_behaves {name : Option String}
    (told : ∀ given, name = some given → remit.removes given) :
    (deleteBoundJob name).Behaves (remit.permits checkId) remit.informs fun _ => True := by
  unfold deleteBoundJob
  split
  · rename_i given found
    have permitted := removes_of_givenName told found
    exact behaves_perform (I := Service.interface) (c := .deleteJob given) permitted fun _ _ => trivial
  · trivial

theorem told_of_informs {name : Option String}
    (met : remit.informs (.findJob checkId) (.ok name)) :
    ∀ given, name = some given → remit.removes given :=
  fun given found => met given (congrArg Except.ok found)

theorem drop_behaves (remit : Remit) (checkId : String) :
    (drop checkId).Behaves (remit.permits checkId) remit.informs (TellsOf checkId) := by
  refine behaves_call rfl fun name met => ?_
  refine behaves_bind (deleteBoundJob_behaves (told_of_informs met)) fun deleted _ => ?_
  refine behaves_call rfl fun row_deleted _ => ?_
  split
  · exact note_behaves ⟨rfl, rfl⟩
  · exact note_behaves ⟨rfl, rfl⟩

/-- What is read is the row of the id, with the verdict of the compiler on it. -/
theorem dispatch_behaves (remit : Remit) (resultsTable : Value) (checkId : String) :
    (dispatch resultsTable checkId).Behaves (remit.permits checkId) remit.informs fun read =>
      remit.owns read.definition ∧ Compile.compile read.definition resultsTable = .ok read.verdict := by
  refine behaves_call rfl fun found met => ?_
  cases found with
  | none => trivial
  | some row =>
      refine behaves_bind (behaves_ofExcept fun verdict compiled => compiled) fun verdict compiled => ?_
      refine behaves_bind (behaves_ofExcept fun kind _ => trivial) fun kind _ => ?_
      exact ⟨met row rfl, compiled⟩

theorem applyInvalid_behaves (remit : Remit) (checkId : String) (reason : InvalidReason)
    (message : String) :
    (applyInvalid checkId reason message).Behaves (remit.permits checkId) remit.informs
      (TellsOf checkId) := by
  unfold applyInvalid
  split
  · exact note_behaves ⟨rfl, rfl⟩
  · apply note_behaves
    exact behaves_bind (drop_behaves remit checkId) fun dropped _ => ⟨rfl, rfl⟩

theorem deactivate_behaves {existing : Option String}
    (told : ∀ given, existing = some given → remit.removes given) :
    (deactivate checkId existing).Behaves (remit.permits checkId) remit.informs
      (TellsOf checkId) := by
  refine behaves_bind (deleteBoundJob_behaves told) fun deleted _ => ?_
  exact note_behaves ⟨rfl, rfl⟩

theorem supersede_behaves {existing : Option String} {jobName : String}
    (told : ∀ given, existing = some given → remit.removes given) :
    (supersede checkId existing jobName).Behaves (remit.permits checkId) remit.informs
      fun _ => True := by
  unfold supersede
  split
  · trivial
  · rename_i old found
    split
    · trivial
    · refine behaves_call (removes_of_givenName told found) fun deleted _ => ?_
      exact note_behaves trivial

theorem schedule_behaves {check : CompiledCheck} {existing : Option String}
    (stored : remit.stores check.toJob)
    (told : ∀ given, existing = some given → remit.removes given) :
    (schedule checkId check existing).Behaves (remit.permits checkId) remit.informs
      (TellsOf checkId) := by
  refine behaves_call stored fun replaced _ => ?_
  refine behaves_bind (supersede_behaves told) fun superseded _ => ?_
  apply note_behaves
  refine ⟨rfl, ?_⟩
  simp only [Outcome.failed]
  split <;> rfl

theorem createOrReplace_behaves (covers : remit.Covers resultsTable) (checkId : String) :
    (createOrReplace resultsTable checkId).Behaves (remit.permits checkId) remit.informs
      (TellsOf checkId) := by
  refine behaves_bind (dispatch_behaves remit resultsTable checkId) fun read own => ?_
  obtain ⟨row, kind, verdict⟩ := read
  obtain ⟨owned, compiled⟩ := own
  cases verdict with
  | invalid about reason message => exact applyInvalid_behaves remit checkId reason message
  | valid check message =>
      refine behaves_call rfl fun existing met => ?_
      have told := told_of_informs met
      dsimp only
      split
      · exact schedule_behaves (covers row check message owned compiled) told
      · exact deactivate_behaves told

theorem act_behaves (covers : remit.Covers settings.resultsTable) (checkId : String)
    (action : ChangeAction) :
    (act settings checkId action).Behaves (remit.permits checkId) remit.informs
      (TellsOf checkId) := by
  cases action with
  | delete => exact drop_behaves remit checkId
  | insert => exact createOrReplace_behaves covers checkId
  | update => exact createOrReplace_behaves covers checkId

theorem apply_behaves (covers : remit.Covers settings.resultsTable) (checkId : String)
    (action : ChangeAction) :
    (apply settings checkId action).Behaves (remit.permits checkId) remit.informs
      fun outcome => outcome.checkId = checkId := by
  refine behaves_bind (behaves_attempt (act_behaves covers checkId action)) fun found tells => ?_
  cases found with
  | ok outcome => exact (tells outcome rfl).1
  | error failure =>
      dsimp only
      split
      · trivial
      · exact note_behaves rfl

end CheckKeeper.Sync
