import CheckKeeper.Proofs.Mishap
import CheckKeeper.Proofs.Verdict
import CheckKeeper.Sync.Synchronizer

namespace CheckKeeper.Sync

open Memory Program

/-! What dropping an id and bringing it in step come to, whatever befalls the calls. -/

variable {α β : Type} {befalls : Service.Call → Failure → Prop} {ids chosen : List String}
  {resultsTable : Value} {checkId : String} {before middle s after : State} {row : Definition}
  {check : CompiledCheck} {called_for : List Job}

/-- What actions on some ids leave of a state: the tables change on their behalf, and the
loop only makes notes. -/
structure Acted (chosen : List String) (before after : State) : Prop where
  course : Tables.Course chosen before.tables after.tables
  phase : after.loop.phase = before.loop.phase
  inPass : after.loop.inPass = before.loop.inPass

def Befallen (befalls : Service.Call → Failure → Prop) (failure : Failure) : Prop :=
  ∃ c, befalls c failure

/-- The loop is never in the way. -/
def Quiet (befalls : Service.Call → Failure → Prop) : Prop :=
  ∀ c failure, ¬ befalls (.loop c) failure

/-- The jobs that a definition asks for, when it makes this check. -/
def wanted (row : Definition) (check : CompiledCheck) : List Job :=
  if row.active then [check.toJob] else []

structure Absent (tables : Tables) (checkId : String) : Prop where
  row : tables.row? checkId = none
  jobs : tables.jobsOf checkId = []

/-- An id has a row that makes a check, and the jobs that the row asks for. -/
def InStep (resultsTable : Value) (tables : Tables) (checkId : String) : Prop :=
  ∃ row check message, tables.row? checkId = some row ∧
    Compile.compile row resultsTable = .ok (.valid check message) ∧
    (tables.jobsOf checkId).map Job.content = wanted row check

/-- There is nothing to do for an id. -/
def Settled (resultsTable : Value) (tables : Tables) (checkId : String) : Prop :=
  Absent tables checkId ∨ InStep resultsTable tables checkId

theorem quiet_nothing : Quiet nothing :=
  fun _ _ fails => fails

theorem quiet_fate (fate : Fate) : Quiet fate.befalls := by
  intro c failure fails
  have shut := fails.1
  simp [exposed] at shut

theorem Acted.refl (chosen : List String) (s : State) : Acted chosen s s :=
  ⟨.refl, rfl, rfl⟩

theorem Acted.trans (first : Acted chosen before middle) (second : Acted chosen middle after) :
    Acted chosen before after :=
  ⟨first.course.trans second.course, second.phase.trans first.phase,
    second.inPass.trans first.inPass⟩

theorem Acted.edit {tables : Tables} (acted : Acted [checkId] before s)
    (edit : Tables.Edit checkId s.tables tables) : Acted [checkId] before (s.withTables tables) :=
  ⟨acted.course.tail ⟨checkId, List.mem_singleton_self _, edit⟩, acted.phase, acted.inPass⟩

def noted (s : State) (level : LogLevel) (text : String) : State :=
  { s with loop := { s.loop with journal := s.loop.journal ++ [⟨level, text⟩] } }

theorem Acted.noted (acted : Acted chosen before s) (level : LogLevel) (text : String) :
    Acted chosen before (noted s level text) :=
  ⟨acted.course, acted.phase, acted.inPass⟩

theorem ends_note {level : LogLevel} {text : String} {next : Unit → Work β}
    {post : Except Failure β → State → Prop} (quiet : Quiet befalls)
    (rest : (next ()).Ends (Turn befalls) post (noted s level text)) :
    (Work.note level text >>= next).Ends (Turn befalls) post s :=
  ends_call (fun failure fails => absurd fails (quiet _ failure))
    (fun failure fails => absurd fails (quiet _ failure)) rest

theorem handle_deleteDefinition (checkId : String) (s : State) :
    Memory.handle (.deleteDefinition checkId) s =
      (.ok (some (s.tables.row? checkId).isSome), s.withTables (s.tables.deleteRow checkId)) := by
  simp only [Memory.handle, Tables.deleteRow]
  cases (s.tables.row? checkId).isSome <;> rfl

theorem nameOf_ne_empty (checkId : String) : Job.nameOf checkId ≠ "" := by
  intro empty
  have none_long := congrArg String.length empty
  unfold Job.nameOf Job.nameWith at none_long
  dsimp only at none_long
  split at none_long <;> simp [Job.namePrefix, String.length_append] at none_long

theorem givenName_jobNameOf (tidy : s.tables.Tidy ids) (checkId : String) :
    givenName (s.tables.jobNameOf checkId) = s.tables.jobNameOf checkId := by
  cases found : s.tables.jobNameOf checkId with
  | none => rfl
  | some name =>
      have named := (tidy.jobNameOf found).1
      simp [givenName, named, nameOf_ne_empty]

theorem deleteBoundJob_ends (tidy : s.tables.Tidy ids) :
    (deleteBoundJob (s.tables.jobNameOf checkId)).Ends (Turn befalls)
      (fun found after => Acted [checkId] s after ∧
        after.tables.rows = s.tables.rows ∧
        (after.tables.jobsOf checkId = s.tables.jobsOf checkId ∨
          after.tables.jobsOf checkId = []) ∧
        match found with
        | .ok _ => after.tables.jobsOf checkId = []
        | .error failure => Befallen befalls failure) s := by
  unfold deleteBoundJob
  rw [givenName_jobNameOf tidy]
  cases found : s.tables.jobNameOf checkId with
  | none =>
      exact ⟨Acted.refl _ s, rfl, Or.inl rfl, (s.tables.jobNameOf_eq_none checkId).mp found⟩
  | some name =>
      obtain ⟨job, member, rfl, bound⟩ := Tables.jobNameOf_eq_some found
      have gone : (s.tables.removeJob job.name).jobsOf checkId = [] := by
        rw [tidy.named job member, bound]
        exact tidy.jobsOf_removeJob_self checkId
      have removed : Acted [checkId] s (s.withTables (s.tables.removeJob job.name)) :=
        (Acted.refl _ s).edit (.removeJob member bound)
      apply ends_perform
      intro answer after turn
      cases turn with
      | carried => exact ⟨removed, rfl, Or.inr gone, gone⟩
      | early _ fails => exact ⟨Acted.refl _ s, rfl, Or.inl rfl, _, fails⟩
      | late _ fails => exact ⟨removed, rfl, Or.inr gone, _, fails⟩

/-- How far dropping an id has come: its jobs are as they were, or gone. -/
structure Dropping (checkId : String) (before after : State) : Prop extends
    Acted [checkId] before after where
  jobs : after.tables.jobsOf checkId = before.tables.jobsOf checkId ∨
    after.tables.jobsOf checkId = []

/-- Where dropping an id ends: neither row nor job is left, or a call has failed. -/
theorem drop_ends (quiet : Quiet befalls) (tidy : s.tables.Tidy ids) :
    (drop checkId).Ends (Turn befalls)
      (fun found after => Dropping checkId s after ∧
        match found with
        | .ok outcome => outcome.checkId = checkId ∧ outcome.failed = false ∧
            Absent after.tables checkId
        | .error failure => Befallen befalls failure) s := by
  have begun : Dropping checkId s s := ⟨Acted.refl _ s, Or.inl rfl⟩
  refine ends_call (fun failure fails => ⟨begun, _, fails⟩) (fun failure fails => ⟨begun, _, fails⟩) ?_
  apply ends_bind
  refine (deleteBoundJob_ends tidy).mono ?_
  rintro found middle ⟨acted, rows, jobs, ended⟩
  cases found with
  | error failure => exact ⟨⟨acted, jobs⟩, ended⟩
  | ok deleted =>
      have row_gone : Acted [checkId] s (middle.withTables (middle.tables.deleteRow checkId)) :=
        acted.edit (.deleteRow _)
      have no_jobs : (middle.tables.deleteRow checkId).jobsOf checkId = [] := by
        simpa only [Tables.jobsOf, Tables.jobs_deleteRow] using ended
      have no_row : (middle.tables.deleteRow checkId).row? checkId = none :=
        middle.tables.row?_deleteRow_self checkId
      refine ends_call (fun failure fails => ⟨⟨acted, jobs⟩, _, fails⟩) ?_ ?_
      · intro failure fails
        rw [handle_deleteDefinition]
        exact ⟨⟨row_gone, Or.inr no_jobs⟩, _, fails⟩
      · rw [handle_deleteDefinition]
        simp only [Continues]
        split
        · exact ends_note quiet ⟨⟨row_gone.noted _ _, Or.inr no_jobs⟩, rfl, rfl, ⟨no_row, no_jobs⟩⟩
        · exact ends_note quiet ⟨⟨row_gone.noted _ _, Or.inr no_jobs⟩, rfl, rfl, ⟨no_row, no_jobs⟩⟩

/-- Why there is nothing to bring in step: no row is there, or it cannot be compiled. -/
def Refused (resultsTable : Value) (tables : Tables) (checkId : String) (failure : Failure) : Prop :=
  (tables.row? checkId = none ∧ failure = .notFound checkId) ∨
    ∃ row, tables.row? checkId = some row ∧ Compile.compile row resultsTable = .error failure

theorem dispatch_ends :
    (dispatch resultsTable checkId).Ends (Turn befalls)
      (fun found after => after = s ∧
        match found with
        | .ok read => s.tables.row? checkId = some read.definition ∧
            Compile.compile read.definition resultsTable = .ok read.verdict
        | .error failure => Befallen befalls failure ∨
            Refused resultsTable s.tables checkId failure) s := by
  refine ends_call (fun failure fails => ⟨rfl, Or.inl ⟨_, fails⟩⟩)
    (fun failure fails => ⟨rfl, Or.inl ⟨_, fails⟩⟩) ?_
  simp only [Memory.handle, Continues]
  cases found : s.tables.row? checkId with
  | none => exact ⟨rfl, Or.inr (Or.inl ⟨found, rfl⟩)⟩
  | some row =>
      apply ends_bind
      apply ends_ofExcept
      cases compiled : Compile.compile row resultsTable with
      | error failure => exact ⟨rfl, Or.inr (Or.inr ⟨row, found, compiled⟩)⟩
      | ok verdict =>
          obtain ⟨kind, parsed⟩ := Compile.kind_of_compile compiled
          apply ends_bind
          apply ends_ofExcept
          rw [parsed]
          exact ⟨rfl, rfl, compiled⟩

/-- What is done for a row that makes no check leaves nothing, unless its kind is
unsupported. -/
theorem applyInvalid_ends (quiet : Quiet befalls) (tidy : s.tables.Tidy ids)
    (reason : InvalidReason) (message : String) :
    (applyInvalid checkId reason message).Ends (Turn befalls)
      (fun found after => Acted [checkId] s after ∧
        match found with
        | .ok outcome => outcome.checkId = checkId ∧ outcome.failed = false ∧
            (reason ≠ .unsupportedCheckType → Absent after.tables checkId)
        | .error failure => Befallen befalls failure) s := by
  unfold applyInvalid
  split
  · rename_i unsupported
    exact ends_note quiet
      ⟨(Acted.refl _ s).noted _ _, rfl, rfl, fun supported => absurd unsupported supported⟩
  · apply ends_note quiet
    apply ends_bind
    refine (drop_ends (s := noted s _ _) quiet tidy).mono ?_
    rintro found after ⟨dropping, ended⟩
    have acted : Acted [checkId] s after := ((Acted.refl _ s).noted _ _).trans dropping.toActed
    cases found with
    | error failure => exact ⟨acted, ended⟩
    | ok outcome => exact ⟨acted, rfl, rfl, fun _ => ended.2.2⟩

/-- How far the jobs of an id have come: the rows stay, and its jobs are as they were, or
those that are called for. -/
structure Scheduling (checkId : String) (called_for : List Job) (before after : State) : Prop extends
    Acted [checkId] before after where
  rows : after.tables.rows = before.tables.rows
  jobs : after.tables.jobsOf checkId = before.tables.jobsOf checkId ∨
    (after.tables.jobsOf checkId).map Job.content = called_for

theorem deactivate_ends (quiet : Quiet befalls) (tidy : s.tables.Tidy ids) :
    (deactivate checkId (s.tables.jobNameOf checkId)).Ends (Turn befalls)
      (fun found after => Scheduling checkId [] s after ∧
        match found with
        | .ok outcome => outcome.checkId = checkId ∧ outcome.failed = false ∧
            (after.tables.jobsOf checkId).map Job.content = []
        | .error failure => Befallen befalls failure) s := by
  apply ends_bind
  refine (deleteBoundJob_ends tidy).mono ?_
  rintro found after ⟨acted, rows, jobs, ended⟩
  have come : Scheduling checkId [] s after :=
    ⟨acted, rows, jobs.imp_right fun none_left => by rw [none_left]; rfl⟩
  cases found with
  | error failure => exact ⟨come, ended⟩
  | ok deleted =>
      have none_left : (after.tables.jobsOf checkId).map Job.content = [] := by
        rw [ended]
        rfl
      exact ends_note quiet ⟨⟨acted.noted _ _, rows, Or.inr none_left⟩, rfl, rfl, none_left⟩

/-- A job that is already there has the name of the new one, so none is removed. -/
theorem supersede_eq (tidy : s.tables.Tidy ids) (named : check.jobName = Job.nameOf checkId) :
    supersede checkId (s.tables.jobNameOf checkId) check.jobName = .done false := by
  unfold supersede
  rw [givenName_jobNameOf tidy]
  cases found : s.tables.jobNameOf checkId with
  | none => rfl
  | some old =>
      have same : old = check.jobName := (tidy.jobNameOf found).1.trans named.symm
      simp only [same, if_true]
      rfl

theorem content_stored (tables : Tables) (check : CompiledCheck) :
    Job.content (tables.stored check.toJob) = check.toJob :=
  rfl

theorem schedule_ends (quiet : Quiet befalls) (tidy : s.tables.Tidy ids)
    (found : s.tables.row? checkId = some row) (called_for : Tables.CallsFor row check.toJob)
    (bound : check.checkId = checkId) (named : check.jobName = Job.nameOf checkId) :
    (schedule checkId check (s.tables.jobNameOf checkId)).Ends (Turn befalls)
      (fun found after => Scheduling checkId [check.toJob] s after ∧
        match found with
        | .ok outcome => outcome.checkId = checkId ∧ outcome.failed = false ∧
            (after.tables.jobsOf checkId).map Job.content = [check.toJob]
        | .error failure => Befallen befalls failure) s := by
  have put : Acted [checkId] s (s.withTables (s.tables.setJob check.toJob)) :=
    (Acted.refl _ s).edit (.setJob found called_for bound named)
  have jobs : ((s.tables.setJob check.toJob).jobsOf checkId).map Job.content = [check.toJob] := by
    subst bound
    have alone : (s.tables.setJob check.toJob).jobsOf check.checkId =
        [s.tables.stored check.toJob] := tidy.jobsOf_setJob_self named
    rw [alone]
    simp only [List.map_cons, List.map_nil, content_stored]
  have come : Scheduling checkId [check.toJob] s (s.withTables (s.tables.setJob check.toJob)) :=
    ⟨put, rfl, Or.inr jobs⟩
  refine ends_call (fun failure fails => ⟨⟨Acted.refl _ s, rfl, Or.inl rfl⟩, _, fails⟩)
    (fun failure fails => ⟨come, _, fails⟩) ?_
  simp only [Memory.handle, Continues, supersede_eq tidy named]
  apply ends_note quiet
  refine ⟨⟨put.noted _ _, rfl, Or.inr jobs⟩, rfl, ?_, jobs⟩
  simp only [Outcome.failed]
  split <;> rfl

/-- What is done for a row that makes a check leaves the jobs that the row asks for. -/
theorem scheduleWanted_ends (quiet : Quiet befalls) (tidy : s.tables.Tidy ids)
    (found : s.tables.row? checkId = some row) (kind : row.kind = .ok check.kind)
    (bound : check.checkId = checkId) (named : check.jobName = Job.nameOf checkId) :
    (if row.active then schedule checkId check (s.tables.jobNameOf checkId)
      else deactivate checkId (s.tables.jobNameOf checkId)).Ends (Turn befalls)
      (fun found after => Scheduling checkId (wanted row check) s after ∧
        match found with
        | .ok outcome => outcome.checkId = checkId ∧ outcome.failed = false ∧
            (after.tables.jobsOf checkId).map Job.content = wanted row check
        | .error failure => Befallen befalls failure) s := by
  unfold wanted
  split
  · rename_i active
    exact schedule_ends quiet tidy found ⟨active, kind⟩ bound named
  · exact deactivate_ends quiet tidy

/-- A row that makes a check is still there, and the jobs of its id are as they were, or
those that the row asks for. -/
def Kept (resultsTable : Value) (checkId : String) (before after : Tables) : Prop :=
  ∀ row check message, before.row? checkId = some row →
    Compile.compile row resultsTable = .ok (.valid check message) →
    after.row? checkId = some row ∧
      (after.jobsOf checkId = before.jobsOf checkId ∨
        (after.jobsOf checkId).map Job.content = wanted row check)

/-- How far bringing an id in step has come. -/
structure Bringing (resultsTable : Value) (checkId : String) (before after : State) : Prop extends
    Acted [checkId] before after where
  kept : Kept resultsTable checkId before.tables after.tables

theorem Bringing.refl (resultsTable : Value) (checkId : String) (s : State) :
    Bringing resultsTable checkId s s :=
  ⟨Acted.refl _ s, fun _ _ _ found _ => ⟨found, Or.inl rfl⟩⟩

theorem Bringing.of_invalid {reason : InvalidReason} {message : String} {about : String}
    (acted : Acted [checkId] s after) (found : s.tables.row? checkId = some row)
    (compiled : Compile.compile row resultsTable = .ok (.invalid about reason message)) :
    Bringing resultsTable checkId s after := by
  refine ⟨acted, fun row' check message found' compiled' => ?_⟩
  rw [found, Option.some.injEq] at found'
  subst row'
  rw [compiled] at compiled'
  cases compiled'

theorem Scheduling.row? (scheduling : Scheduling checkId called_for s after) (other : String) :
    after.tables.row? other = s.tables.row? other := by
  simp only [Tables.row?, scheduling.rows]

theorem Scheduling.bringing {message : String}
    (scheduling : Scheduling checkId (wanted row check) s after)
    (found : s.tables.row? checkId = some row)
    (compiled : Compile.compile row resultsTable = .ok (.valid check message)) :
    Bringing resultsTable checkId s after := by
  refine ⟨scheduling.toActed, fun row' check' message' found' compiled' => ?_⟩
  rw [found, Option.some.injEq] at found'
  subst row'
  rw [compiled] at compiled'
  cases compiled'
  exact ⟨(scheduling.row? checkId).trans found, scheduling.jobs⟩

/-- Where bringing an id in step ends: its row makes a check whose job is in step, or it
makes none and nothing is left of it, or there was nothing to bring in step, or a call
has failed. -/
theorem createOrReplace_ends (quiet : Quiet befalls) (tidy : s.tables.Tidy ids) :
    (createOrReplace resultsTable checkId).Ends (Turn befalls)
      (fun found after => Bringing resultsTable checkId s after ∧
        match found with
        | .ok outcome => outcome.checkId = checkId ∧ outcome.failed = false ∧
            ∃ row verdict, s.tables.row? checkId = some row ∧
              Compile.compile row resultsTable = .ok verdict ∧
              (verdict.isUnsupported = false → Settled resultsTable after.tables checkId)
        | .error failure => Befallen befalls failure ∨
            Refused resultsTable s.tables checkId failure) s := by
  apply ends_bind
  refine dispatch_ends.mono ?_
  rintro found middle ⟨rfl, ended⟩
  cases found with
  | error failure => exact ⟨Bringing.refl _ _ _, ended⟩
  | ok read =>
      obtain ⟨row, kind, verdict⟩ := read
      obtain ⟨found, compiled⟩ := ended
      cases verdict with
      | invalid about reason message =>
          refine (applyInvalid_ends quiet tidy reason message).mono ?_
          rintro answer after ⟨acted, ended⟩
          refine ⟨Bringing.of_invalid acted found compiled, ?_⟩
          cases answer with
          | error failure => exact Or.inl ended
          | ok outcome =>
              obtain ⟨same, well, absent⟩ := ended
              refine ⟨same, well, row, _, found, compiled, fun supported => Or.inl (absent ?_)⟩
              simpa [Verdict.isUnsupported, Verdict.reason?] using supported
      | valid check message =>
          obtain ⟨bound, named⟩ := Compile.isOf_compile compiled
          have same := Tables.row?_checkId found
          rw [same] at bound named
          have unread : Bringing resultsTable checkId middle middle := Bringing.refl _ _ _
          refine ends_call (fun failure fails => ⟨unread, Or.inl ⟨_, fails⟩⟩)
            (fun failure fails => ⟨unread, Or.inl ⟨_, fails⟩⟩) ?_
          refine (scheduleWanted_ends quiet tidy found (Compile.kind_of_valid compiled) bound named).mono ?_
          rintro answer after ⟨scheduling, ended⟩
          refine ⟨scheduling.bringing found compiled, ?_⟩
          cases answer with
          | error failure => exact Or.inl ended
          | ok outcome =>
              obtain ⟨same, well, jobs⟩ := ended
              have in_step : InStep resultsTable after.tables checkId :=
                ⟨row, check, message, (scheduling.row? checkId).trans found, compiled, jobs⟩
              exact ⟨same, well, row, _, found, compiled, fun _ => Or.inr in_step⟩

end CheckKeeper.Sync
