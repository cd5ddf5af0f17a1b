import CheckKeeper.Proofs.Independence
import CheckKeeper.Proofs.Replacement

namespace CheckKeeper.Sync

open Calendar Memory Program

/-! What one call for an id does, and what it answers.

The row of an id, and what the compiler says of it, call for one of four changes.  Each is told
here exactly, for the rows and the jobs of all ids, so that what a call leaves alone and what a
second call does are read off.  Time may pass between any two calls of a collaborator.
-/

variable {β : Type} {resultsTable : Value} {checkId : String}
  {tables before between after : Tables} {s : State} {row : Definition} {check : CompiledCheck}
  {job : Job}

/-- What the row of an id calls for. -/
inductive Plan where
  | leave
  | remove
  | unschedule
  | schedule (check : CompiledCheck)

def planFor (row : Definition) : Verdict → Plan
  | .valid check _ => if row.active then .schedule check else .unschedule
  | .invalid _ reason _ => if reason = .unsupportedCheckType then .leave else .remove

def planOf (resultsTable : Value) (tables : Tables) (checkId : String) : Plan :=
  match tables.row? checkId with
  | none => .leave
  | some row =>
      match Compile.compile row resultsTable with
      | .ok verdict => planFor row verdict
      | .error _ => .leave

def Untouched (before after : Tables) : Prop :=
  ∃ now, after = { before with clock := now }

/-- The rows and the jobs that are left. -/
structure Has (rows : List Definition) (jobs : List Job) (tables : Tables) : Prop where
  rows : tables.rows = rows
  jobs : tables.jobs = jobs

/-- The job of a check as it is stored at some time. -/
def storedAt (check : CompiledCheck) (now : Moment) : Job :=
  { check.toJob with updatedAt := some now }

def Plan.Leaves (checkId : String) (before after : Tables) : Plan → Prop
  | .leave => Untouched before after
  | .remove =>
      Has (before.rows.filter (·.checkId != checkId)) (withoutJobs checkId before.jobs) after
  | .unschedule => Has before.rows (withoutJobs checkId before.jobs) after
  | .schedule check => ∃ now, Has before.rows (replacing (storedAt check now) before.jobs) after

def Answered (found : Except Failure Outcome) (action : OutcomeAction)
    (reason : Option InvalidReason) : Prop :=
  ∃ outcome, found = .ok outcome ∧ outcome.action = action ∧ outcome.reason = reason

/-- How an action on a compiled row is called. -/
def actionOf (tables : Tables) (row : Definition) : Verdict → OutcomeAction
  | .invalid _ reason _ => if reason = .unsupportedCheckType then .unsupported else .invalidated
  | .valid _ _ =>
      if row.active then (if tables.jobsOf row.checkId = [] then .created else .replaced)
      else .deactivated

variable {plan : Plan} {verdict : Verdict}

theorem planOf_of_absent (absent : tables.row? checkId = none) :
    planOf resultsTable tables checkId = .leave := by
  rw [planOf, absent]

theorem planOf_of_compile (there : tables.row? checkId = some row)
    (compiled : Compile.compile row resultsTable = .ok verdict) :
    planOf resultsTable tables checkId = planFor row verdict := by
  simp only [planOf, there, compiled]

theorem planOf_of_row? (same : after.row? checkId = before.row? checkId) :
    planOf resultsTable after checkId = planOf resultsTable before checkId := by
  rw [planOf, same, planOf]

theorem Plan.Leaves.of_untouched (untouched : Untouched before between)
    (leaves : plan.Leaves checkId between after) : plan.Leaves checkId before after := by
  obtain ⟨now, rfl⟩ := untouched
  cases plan with
  | leave =>
      obtain ⟨later, rfl⟩ := leaves
      exact ⟨later, rfl⟩
  | remove => exact ⟨leaves.rows, leaves.jobs⟩
  | unschedule => exact ⟨leaves.rows, leaves.jobs⟩
  | schedule check =>
      obtain ⟨stored, left⟩ := leaves
      exact ⟨stored, left.rows, left.jobs⟩

/-- A call turns out as it does at some time. -/
def Passing : Turns Service.interface State := fun c s answer after =>
  ∃ now, Memory.handle c (s.at now) = (answer, after)

theorem passing_timed (c : Service.Call) (t : Timed) :
    Passing c t.base (Timed.handle c t).1 (Timed.handle c t).2.base :=
  ⟨t.clock 0, rfl⟩

theorem ends_passing {c : Service.Call} {next : Service.Answer c → Work β}
    {post : Except Failure β → State → Prop}
    (rest : ∀ now, Continues Passing post next (Memory.handle c (s.at now)).1
      (Memory.handle c (s.at now)).2) :
    (Program.perform (I := Service.interface) c >>= next).Ends Passing post s := by
  apply ends_bind
  apply ends_perform
  intro answer after ⟨now, turned⟩
  have carried := rest now
  rw [turned] at carried
  exact carried

theorem Sole.at (sole : Sole checkId s.tables) (now : Moment) :
    Sole checkId (s.at now).tables :=
  ⟨sole.distinct, sole.single, sole.named, sole.own⟩

theorem givenName_jobNameOf_of_sole (sole : Sole checkId tables) :
    givenName (tables.jobNameOf checkId) = tables.jobNameOf checkId := by
  cases found : tables.jobNameOf checkId with
  | none => rfl
  | some name =>
      obtain ⟨job, member, rfl, bound⟩ := Tables.jobNameOf_eq_some found
      have filled := sole.named job (Tables.mem_jobsOf.mpr ⟨member, bound⟩)
      simp [givenName, filled]

theorem deleteBoundJob_changes (sole : Sole checkId s.tables) :
    (deleteBoundJob (s.tables.jobNameOf checkId)).Ends Passing
      (fun found after => (∃ deleted, found = .ok deleted) ∧
        Plan.unschedule.Leaves checkId s.tables after.tables) s := by
  unfold deleteBoundJob
  rw [givenName_jobNameOf_of_sole sole]
  cases found : s.tables.jobNameOf checkId with
  | none =>
      have unbound := (s.tables.jobNameOf_eq_none checkId).mp found
      exact ⟨⟨_, rfl⟩, rfl, (withoutJobs_of_none unbound).symm⟩
  | some name =>
      obtain ⟨job, member, rfl, bound⟩ := Tables.jobNameOf_eq_some found
      apply ends_perform
      intro answer after ⟨now, turned⟩
      cases turned
      exact ⟨⟨_, rfl⟩, rfl, sole.removeJob member bound⟩

theorem drop_changes (sole : Sole checkId s.tables) :
    (drop checkId).Ends Passing
      (fun found after => Answered found .dropped none ∧
        Plan.remove.Leaves checkId s.tables after.tables) s := by
  apply ends_passing
  intro now
  apply ends_bind
  refine (deleteBoundJob_changes (sole.at now)).mono fun found middle left => ?_
  obtain ⟨⟨deleted, rfl⟩, rows, jobs⟩ := left
  apply ends_passing
  intro now
  rw [handle_deleteDefinition]
  have removed : Plan.remove.Leaves checkId s.tables
      ((middle.at now).tables.deleteRow checkId) := by
    constructor
    · rw [Tables.rows_deleteRow]
      exact congrArg _ rows
    · rw [Tables.jobs_deleteRow]
      exact jobs
  simp only [Continues]
  split
  · exact ends_passing fun now => ⟨⟨_, rfl, rfl, rfl⟩, removed.rows, removed.jobs⟩
  · exact ends_passing fun now => ⟨⟨_, rfl, rfl, rfl⟩, removed.rows, removed.jobs⟩

/-- When the new job is stored, one that the id had under another name is removed. -/
theorem supersede_has (job : Job) (sole : Sole checkId tables)
    (bound : job.checkId = checkId) (stored : s.tables.jobs = Keyed.put (·.name) job tables.jobs) :
    (supersede checkId (tables.jobNameOf checkId) job.name).Ends Passing
      (fun found after => found = .ok ((tables.jobNameOf checkId).any (· != job.name)) ∧
        Has s.tables.rows (replacing job tables.jobs) after.tables) s := by
  unfold supersede
  rw [givenName_jobNameOf_of_sole sole]
  cases found : tables.jobNameOf checkId with
  | none =>
      have put_only := replacing_eq_put sole bound fun name told => by
        rw [found] at told
        cases told
      exact ⟨rfl, rfl, stored.trans put_only.symm⟩
  | some old =>
      by_cases same : old = job.name
      · have put_only := replacing_eq_put sole bound fun name told => by
          rw [found, Option.some.injEq] at told
          rw [← told, same]
        simp only [same, if_true]
        exact ⟨by simp, rfl, stored.trans put_only.symm⟩
      · have removed := replacing_eq_filter sole bound found same
        simp only [same, if_false]
        apply ends_passing
        intro now
        refine ends_passing fun later => ⟨by simp [same], rfl, ?_⟩
        rw [removed, ← stored]
        rfl

theorem schedule_changes (sole : Sole checkId s.tables) (bound : check.checkId = checkId)
    (named : check.jobName = Job.nameOf checkId) :
    (schedule checkId check (s.tables.jobNameOf checkId)).Ends Passing
      (fun found after =>
        Answered found (if s.tables.jobsOf checkId = [] then .created else .replaced) none ∧
        (Plan.schedule check).Leaves checkId s.tables after.tables) s := by
  apply ends_passing
  intro now
  apply ends_bind
  have superseded := supersede_has (storedAt check now)
    (s := (s.at now).withTables ((s.at now).tables.setJob check.toJob)) sole bound rfl
  refine superseded.mono fun found after left => ?_
  obtain ⟨rfl, has⟩ := left
  refine ends_passing fun later => ⟨⟨_, rfl, ?_, rfl⟩, now, has.rows, has.jobs⟩
  have replaced := sole.replaced_iff
  rw [← named] at replaced
  by_cases none_bound : s.tables.jobsOf checkId = []
  · rw [if_pos none_bound]
    exact if_neg fun taken => replaced.mp taken none_bound
  · rw [if_neg none_bound]
    exact if_pos (replaced.mpr none_bound)

theorem deactivate_changes (sole : Sole checkId s.tables) :
    (deactivate checkId (s.tables.jobNameOf checkId)).Ends Passing
      (fun found after => Answered found .deactivated none ∧
        Plan.unschedule.Leaves checkId s.tables after.tables) s := by
  apply ends_bind
  refine (deleteBoundJob_changes sole).mono fun found after left => ?_
  obtain ⟨⟨deleted, rfl⟩, has⟩ := left
  exact ends_passing fun now => ⟨⟨_, rfl, rfl, rfl⟩, has.rows, has.jobs⟩

theorem applyInvalid_changes (sole : Sole checkId s.tables) (row : Definition)
    (about : String) (reason : InvalidReason) (message : String) :
    (applyInvalid checkId reason message).Ends Passing
      (fun found after =>
        Answered found (actionOf s.tables row (.invalid about reason message)) (some reason) ∧
        (planFor row (.invalid about reason message)).Leaves checkId s.tables after.tables) s := by
  unfold applyInvalid actionOf planFor
  by_cases unsupported : reason = .unsupportedCheckType
  · simp only [if_pos unsupported]
    exact ends_passing fun now => ⟨⟨_, rfl, rfl, rfl⟩, now, rfl⟩
  · simp only [if_neg unsupported]
    apply ends_passing
    intro now
    apply ends_bind
    apply (drop_changes (s := noted (s.at now) _ _) (sole.at now)).mono
    intro found after left
    obtain ⟨⟨outcome, rfl, _⟩, has⟩ := left
    exact ⟨⟨_, rfl, rfl, rfl⟩, has.rows, has.jobs⟩

/-- A row is read and compiled, if it is there and can be. -/
theorem dispatch_changes (there : s.tables.row? checkId = some row)
    (compiled : Compile.compile row resultsTable = .ok verdict) :
    (dispatch resultsTable checkId).Ends Passing
      (fun found after => (∃ kind, found = .ok ⟨row, kind, verdict⟩) ∧
        Untouched s.tables after.tables) s := by
  apply ends_passing
  intro now
  have read : (s.at now).tables.row? checkId = some row := there
  simp only [Memory.handle, Continues, read]
  obtain ⟨kind, parsed⟩ := Compile.kind_of_compile compiled
  rw [compiled, parsed]
  exact ⟨⟨kind, rfl⟩, now, rfl⟩

theorem createOrReplace_absent (absent : s.tables.row? checkId = none) :
    (createOrReplace resultsTable checkId).Ends Passing
      (fun found after => found = .error (.notFound checkId) ∧
        Untouched s.tables after.tables) s := by
  apply ends_bind
  apply ends_passing
  intro now
  have read : (s.at now).tables.row? checkId = none := absent
  simp only [Memory.handle, Continues, read]
  exact ⟨rfl, now, rfl⟩

/-- The change that the row calls for is made, and the answer goes with it. -/
theorem createOrReplace_compiled (sole : Sole checkId s.tables)
    (there : s.tables.row? checkId = some row)
    (compiled : Compile.compile row resultsTable = .ok verdict) :
    (createOrReplace resultsTable checkId).Ends Passing
      (fun found after => Answered found (actionOf s.tables row verdict) verdict.reason? ∧
        (planFor row verdict).Leaves checkId s.tables after.tables) s := by
  apply ends_bind
  refine (dispatch_changes there compiled).mono fun answer middle read => ?_
  obtain ⟨⟨kind, rfl⟩, untouched⟩ := read
  have ⟨now, same⟩ := untouched
  have still_sole : Sole checkId middle.tables := by
    rw [same]
    exact sole.at now
  have actions : actionOf middle.tables row verdict = actionOf s.tables row verdict := by
    rw [same]
    rfl
  simp only [← actions, Continues]
  cases verdict with
  | invalid about reason message =>
      have applied := applyInvalid_changes still_sole row about reason message
      refine applied.mono fun answer after left => ?_
      exact ⟨left.1, left.2.of_untouched untouched⟩
  | valid check message =>
      obtain ⟨bound, named⟩ := Compile.isOf_compile compiled
      have about := Tables.row?_checkId there
      rw [about] at bound named
      apply ends_passing
      intro later
      simp only [Memory.handle, Continues, planFor, actionOf, about]
      split
      · refine (schedule_changes (still_sole.at later) bound named).mono fun answer after left => ?_
        exact ⟨left.1, left.2.of_untouched untouched⟩
      · refine (deactivate_changes (still_sole.at later)).mono fun answer after left => ?_
        exact ⟨left.1, left.2.of_untouched untouched⟩

structure SparesOthers (checkId : String) (before after : Tables) : Prop where
  rows : after.rows.filter (·.checkId != checkId) = before.rows.filter (·.checkId != checkId)
  jobs : withoutJobs checkId after.jobs = withoutJobs checkId before.jobs

/-- A job that is called for is that of the id. -/
def Plan.IsFor (checkId : String) : Plan → Prop
  | .schedule check => check.checkId = checkId ∧ check.jobName = Job.nameOf checkId
  | _ => True

theorem planFor_isFor (there : tables.row? checkId = some row)
    (compiled : Compile.compile row resultsTable = .ok verdict) :
    (planFor row verdict).IsFor checkId := by
  cases verdict with
  | valid check message =>
      have isOf := Compile.isOf_compile compiled
      rw [Compile.IsOf, Tables.row?_checkId there] at isOf
      simp only [planFor]
      split
      · exact isOf
      · trivial
  | invalid about reason message =>
      simp only [planFor]
      split <;> trivial

theorem planOf_isFor (resultsTable : Value) (tables : Tables) (checkId : String) :
    (planOf resultsTable tables checkId).IsFor checkId := by
  unfold planOf
  split
  · trivial
  · rename_i row there
    split
    · exact planFor_isFor there ‹_›
    · trivial

theorem Plan.Leaves.spares (leaves : plan.Leaves checkId before after)
    (sole : Sole checkId before) (isFor : plan.IsFor checkId) :
    SparesOthers checkId before after := by
  cases plan with
  | leave =>
      obtain ⟨now, rfl⟩ := leaves
      exact ⟨rfl, rfl⟩
  | remove => exact ⟨by simp [leaves.rows], by rw [leaves.jobs, withoutJobs_twice]⟩
  | unschedule => exact ⟨by rw [leaves.rows], by rw [leaves.jobs, withoutJobs_twice]⟩
  | schedule check =>
      obtain ⟨now, has⟩ := leaves
      exact ⟨by rw [has.rows], by rw [has.jobs, withoutJobs_replacing sole isFor.1 isFor.2]⟩

theorem Plan.Leaves.sole (leaves : plan.Leaves checkId before after)
    (sole : Sole checkId before) (isFor : plan.IsFor checkId) : Sole checkId after := by
  cases plan with
  | leave =>
      obtain ⟨now, rfl⟩ := leaves
      exact sole.congr rfl
  | remove => exact sole.of_withoutJobs leaves.jobs
  | unschedule => exact sole.of_withoutJobs leaves.jobs
  | schedule check =>
      obtain ⟨now, has⟩ := leaves
      exact sole.of_replacing (storedAt check now) isFor.1 isFor.2 has.jobs

theorem row?_of_rows (same : after.rows = before.rows) (checkId : String) :
    after.row? checkId = before.row? checkId := by
  rw [Tables.row?, same, Tables.row?]

theorem row?_of_removed (leaves : Plan.remove.Leaves checkId before after) :
    after.row? checkId = none := by
  simp [Tables.row?, leaves.rows]

theorem Plan.Leaves.row?_eq (leaves : plan.Leaves checkId before after) (kept : plan ≠ .remove) :
    after.row? checkId = before.row? checkId := by
  cases plan with
  | leave =>
      obtain ⟨now, rfl⟩ := leaves
      rfl
  | remove => exact absurd rfl kept
  | unschedule => exact row?_of_rows leaves.rows checkId
  | schedule check =>
      obtain ⟨now, has⟩ := leaves
      exact row?_of_rows has.rows checkId

theorem Plan.Leaves.row?_of_some (leaves : plan.Leaves checkId before after)
    (there : after.row? checkId = some row) : before.row? checkId = some row := by
  by_cases removed : plan = .remove
  · subst removed
    rw [row?_of_removed leaves] at there
    cases there
  · exact (leaves.row?_eq removed).symm.trans there

/-- Rows and jobs are the same, but for when a job was stored. -/
structure Still (before after : Tables) : Prop where
  rows : after.rows = before.rows
  jobs : after.jobs.map Job.content = before.jobs.map Job.content

theorem Untouched.still (untouched : Untouched before after) : Still before after := by
  obtain ⟨now, rfl⟩ := untouched
  exact ⟨rfl, rfl⟩

theorem Plan.Leaves.twice (first : plan.Leaves checkId before between)
    (sole : Sole checkId before) (second : plan.Leaves checkId between after) :
    Still between after := by
  cases plan with
  | leave => exact Untouched.still second
  | remove =>
      refine ⟨?_, ?_⟩
      · rw [second.rows, first.rows, List.filter_filter]
        simp
      · rw [second.jobs, first.jobs, withoutJobs_twice]
  | unschedule => exact ⟨second.rows, by rw [second.jobs, first.jobs, withoutJobs_twice]⟩
  | schedule check =>
      obtain ⟨now, has⟩ := first
      obtain ⟨later, has_again⟩ := second
      have distinct : ((before.jobs.map Job.content).map (·.name)).Nodup := by
        rw [List.map_map]
        exact sole.distinct
      have same (now : Moment) : (storedAt check now).content = check.toJob := rfl
      refine ⟨has_again.rows, ?_⟩
      simp only [has_again.jobs, has.jobs, map_content_replacing, same,
        replacing_of_replaced distinct]

/-- What is left calls for no other change. -/
theorem Plan.Leaves.again
    (first : (planOf resultsTable before checkId).Leaves checkId before between)
    (sole : Sole checkId before)
    (second : (planOf resultsTable between checkId).Leaves checkId between after) :
    Still between after := by
  -- A row that is removed is not found again; any other calls for the same change.
  by_cases removed : planOf resultsTable before checkId = .remove
  · rw [removed] at first
    rw [planOf_of_absent (row?_of_removed first)] at second
    exact Untouched.still second
  · rw [planOf_of_row? (first.row?_eq removed)] at second
    exact first.twice sole second

/-- What bringing an id in step answers and leaves, told by its row. -/
structure Fulfils (resultsTable : Value) (checkId : String) (before : Tables)
    (found : Except Failure Outcome) (after : Tables) : Prop where
  absent : before.row? checkId = none →
    found = .error (.notFound checkId) ∧ Untouched before after
  unsupported : ∀ row, before.row? checkId = some row → row.kind = .ok .unsupported →
    Answered found .unsupported (some .unsupportedCheckType) ∧ Untouched before after
  invalid : ∀ row about reason message, before.row? checkId = some row →
    row.kind ≠ .ok .unsupported →
    Compile.compile row resultsTable = .ok (.invalid about reason message) →
    Answered found .invalidated (some reason) ∧ Absent after checkId
  inactive : ∀ row check message, before.row? checkId = some row → row.active = false →
    Compile.compile row resultsTable = .ok (.valid check message) →
    Answered found .deactivated none ∧ after.row? checkId = some row ∧ after.jobsOf checkId = []
  active : ∀ row check message, before.row? checkId = some row → row.active = true →
    Compile.compile row resultsTable = .ok (.valid check message) →
    Answered found (if before.jobsOf checkId = [] then .created else .replaced) none ∧
      after.row? checkId = some row ∧ (after.jobsOf checkId).map Job.content = [check.toJob]
  spares : SparesOthers checkId before after

theorem reason_of_unsupported {verdict : Verdict} (kind : row.kind = .ok .unsupported)
    (compiled : Compile.compile row resultsTable = .ok verdict) :
    ∃ about message, verdict = .invalid about .unsupportedCheckType message := by
  obtain ⟨results, scheduled, parsed, _, _, same, rest⟩ := Compile.compile_eq_ok compiled
  rw [kind, Except.ok.injEq] at same
  subst same
  simp only [Compile.ofKind, Compile.unsupported, Compile.toVerdict, bne_self_eq_false,
    Bool.and_false, Bool.false_eq_true, if_false, Except.ok.injEq] at rest
  exact ⟨_, _, rest.symm⟩

theorem absent_of_removed (leaves : Plan.remove.Leaves checkId before after) :
    Absent after checkId :=
  ⟨row?_of_removed leaves, by rw [Tables.jobsOf, leaves.jobs, bound_withoutJobs]⟩

/-- What is answered for an id: that its row is absent, or what was done and why. -/
def Replies (resultsTable : Value) (tables : Tables) (checkId : String)
    (found : Except Failure Outcome) : Prop :=
  match tables.row? checkId with
  | none => found = .error (.notFound checkId)
  | some row => ∀ verdict, Compile.compile row resultsTable = .ok verdict →
      Answered found (actionOf tables row verdict) verdict.reason?

theorem createOrReplace_replies (resultsTable : Value) (sole : Sole checkId s.tables)
    (compiles : ∀ row, s.tables.row? checkId = some row →
      ∃ verdict, Compile.compile row resultsTable = .ok verdict) :
    (createOrReplace resultsTable checkId).Ends Passing
      (fun found after => Replies resultsTable s.tables checkId found ∧
        (planOf resultsTable s.tables checkId).Leaves checkId s.tables after.tables) s := by
  unfold Replies
  cases there : s.tables.row? checkId with
  | none =>
      rw [planOf_of_absent there]
      exact createOrReplace_absent there
  | some row =>
      obtain ⟨verdict, compiled⟩ := compiles row there
      rw [planOf_of_compile there compiled]
      refine (createOrReplace_compiled sole there compiled).mono fun found after left => ?_
      refine ⟨fun other same => ?_, left.2⟩
      rw [compiled, Except.ok.injEq] at same
      exact same ▸ left.1

theorem Plan.Leaves.fulfils {found : Except Failure Outcome}
    (leaves : (planOf resultsTable before checkId).Leaves checkId before after)
    (sole : Sole checkId before) (replies : Replies resultsTable before checkId found)
    (compiles : ∀ row, before.row? checkId = some row →
      ∃ verdict, Compile.compile row resultsTable = .ok verdict) :
    Fulfils resultsTable checkId before found after where
  absent absent := by
    rw [planOf_of_absent absent] at leaves
    rw [Replies, absent] at replies
    exact ⟨replies, leaves⟩
  unsupported row there kind := by
    obtain ⟨verdict, compiled⟩ := compiles row there
    obtain ⟨about, message, rfl⟩ := reason_of_unsupported kind compiled
    rw [planOf_of_compile there compiled] at leaves
    rw [Replies, there] at replies
    exact ⟨replies _ compiled, leaves⟩
  invalid row about reason message there supported compiled := by
    obtain ⟨kind, parsed⟩ := Compile.kind_of_compile compiled
    have known := Compile.supported_of_compile compiled parsed fun same =>
      supported (by rw [parsed, same])
    simp only [planOf_of_compile there compiled, planFor, if_neg known] at leaves
    rw [Replies, there] at replies
    have answered := replies _ compiled
    simp only [actionOf, if_neg known] at answered
    exact ⟨answered, absent_of_removed leaves⟩
  inactive row check message there inactive compiled := by
    have off : ¬ row.active = true := by simp [inactive]
    simp only [planOf_of_compile there compiled, planFor, if_neg off] at leaves
    rw [Replies, there] at replies
    have answered := replies _ compiled
    simp only [actionOf, if_neg off] at answered
    refine ⟨answered, (row?_of_rows leaves.rows checkId).trans there, ?_⟩
    rw [Tables.jobsOf, leaves.jobs, bound_withoutJobs]
  active row check message there active compiled := by
    have about := Tables.row?_checkId there
    have isOf := Compile.isOf_compile compiled
    rw [Compile.IsOf, about] at isOf
    simp only [planOf_of_compile there compiled, planFor, if_pos active] at leaves
    obtain ⟨now, has⟩ := leaves
    rw [Replies, there] at replies
    have answered := replies _ compiled
    simp only [actionOf, if_pos active, about] at answered
    refine ⟨answered, (row?_of_rows has.rows checkId).trans there, ?_⟩
    have alone := bound_replacing (storedAt check now) sole.distinct isOf.1
    rw [Tables.jobsOf, has.jobs, alone]
    rfl
  spares := leaves.spares sole (planOf_isFor _ _ _)

end CheckKeeper.Sync
