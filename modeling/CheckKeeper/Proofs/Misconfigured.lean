import CheckKeeper.Proofs.FilterFaults
import CheckKeeper.Proofs.Pass
import CheckKeeper.Proofs.Staleness

namespace CheckKeeper.Sync

open Memory Program

/-! A table of results whose path is rejected.

That no definition can be compiled for it is no fault of any definition.  So bringing an id
in step fails before anything is touched.  In a pass, ids lose their rows and jobs only if
they are to be deleted, and the events of all others wait for another table.
-/

variable {befalls : Service.Call → Failure → Prop} {settings : Settings} {resultsTable : Value}
  {reason : Failure} {checkId other : String} {action : ChangeAction} {s : State}
  {tables before middle after : Tables} {actions : List (String × ChangeAction)}
  {drained : List (Nat × ChangeEvent)}

/-- What is wrong with a path is never that a row is absent, nor that the program is to end. -/
def FaultOfPath : Failure → Prop
  | .identifier _ | .noMember _ _ => True
  | _ => False

theorem pathOf_fault (rejected : Sql.pathOf resultsTable = .error reason) : FaultOfPath reason := by
  unfold Sql.pathOf at rejected
  split at rejected
  · split at rejected
    · have fault := Sql.path_faults _ reason rejected
      cases reason with
      | identifier => trivial
      | _ => exact fault.elim
    · cases rejected
      trivial
  · cases rejected
    trivial

theorem compile_rejected (rejected : Sql.pathOf resultsTable = .error reason) (row : Definition) :
    Compile.compile row resultsTable = .error reason := by
  unfold Compile.compile
  rw [rejected]
  rfl

theorem createOrReplace_rejected (rejected : Sql.pathOf resultsTable = .error reason)
    (there : (s.tables.row? checkId).isSome = true) :
    (createOrReplace resultsTable checkId).run Memory.handle s = (.error reason, s) := by
  obtain ⟨row, found⟩ := Option.isSome_iff_exists.mp there
  change Program.run Memory.handle (Program.bind (Program.bind _ _) _) s = _
  rw [run_bind, run_bind]
  simp only [Work.getDefinition, Program.perform, Program.run, Memory.handle, found,
    Program.ofExcept, compile_rejected rejected]
  rfl

theorem reconcileOne_rejected (rejected : Sql.pathOf settings.resultsTable = .error reason)
    (there : (s.tables.row? checkId).isSome = true) :
    (reconcileOne settings checkId).run Memory.handle s = (.error reason, s) := by
  have fails := createOrReplace_rejected rejected there
  have fault := pathOf_fault rejected
  obtain ⟨row, found⟩ := Option.isSome_iff_exists.mp there
  change Program.run Memory.handle (Program.bind _ _) s = _
  rw [run_bind]
  simp only [Work.getDefinition, Program.perform, Program.run, Memory.handle, found,
    Program.ofExcept]
  change Program.run Memory.handle (Program.bind _ _) s = _
  rw [run_bind, run_attempt, fails]
  cases reason with
  | notFound => exact fault.elim
  | _ => rfl

/-- Jobs are told by their names, and events by their positions. -/
structure Indexed (tables : Tables) : Prop where
  jobs : (tables.jobs.map (·.name)).Nodup
  positions : (tables.feed.entries.map (·.1)).Nodup

/-- What is done for other ids leaves the row and the jobs of an id, and what is pending. -/
structure Spared (checkId : String) (before after : Tables) : Prop where
  names : (before.jobs.map (·.name)).Nodup → (after.jobs.map (·.name)).Nodup
  row : after.row? checkId = before.row? checkId
  jobs : (before.jobs.map (·.name)).Nodup → after.jobsOf checkId = before.jobsOf checkId
  waiting : before.feed.pending ⊆ after.feed.pending

/-- An id has its row and its jobs, and all its drained events are pending. -/
structure Unharmed (drained : List (Nat × ChangeEvent)) (checkId : String) (before after : Tables) :
    Prop where
  row : after.row? checkId = before.row? checkId
  jobs : after.jobsOf checkId = before.jobsOf checkId
  waiting : ∀ entry ∈ drained, entry.2.checkId = checkId → entry ∈ after.feed.pending

/-- An outcome is about the id of its action, and has failed unless the id was to be deleted. -/
def Accounts (asked : String × ChangeAction) (outcome : Outcome) : Prop :=
  outcome.checkId = asked.1 ∧ (asked.2 ≠ .delete → outcome.failed = true)

def Accounted (befalls : Service.Call → Failure → Prop) (asked : String × ChangeAction) :
    Except Failure Outcome → Prop
  | .ok outcome => Accounts asked outcome
  | .error failure => Befallen befalls failure

/-- How a pass ends when no id can be brought in step. -/
structure Refuses (befalls : Service.Call → Failure → Prop) (drained : List (Nat × ChangeEvent))
    (before after : Tables) (found : Except Failure (List Outcome)) : Prop where
  answers : match found with
    | .ok outcomes => List.Forall₂ Accounts (asked drained) outcomes
    | .error failure => Befallen befalls failure
  unharmed : ∀ checkId action, (checkId, action) ∈ asked drained → action ≠ .delete →
    Unharmed drained checkId before after

theorem Spared.refl (checkId : String) (tables : Tables) : Spared checkId tables tables :=
  ⟨id, rfl, fun _ => rfl, List.Subset.refl _⟩

theorem Spared.trans (first : Spared checkId before middle) (second : Spared checkId middle after) :
    Spared checkId before after where
  names distinct := second.names (first.names distinct)
  row := second.row.trans first.row
  jobs distinct := (second.jobs (first.names distinct)).trans (first.jobs distinct)
  waiting := List.Subset.trans first.waiting second.waiting

theorem pending_subset_capture (tables : Tables) (action : ChangeAction) (checkId : String) :
    tables.feed.pending ⊆ (tables.capture action checkId).feed.pending := by
  unfold Tables.capture
  split
  · intro entry waiting
    obtain ⟨inside, unacknowledged⟩ := List.mem_filter.mp waiting
    exact List.mem_filter.mpr ⟨List.mem_append_left _ inside, unacknowledged⟩
  · exact List.Subset.refl _

theorem spared_deleteRow (different : checkId ≠ other) :
    Spared checkId tables (tables.deleteRow other) where
  names distinct := by rwa [Tables.jobs_deleteRow]
  row := Tables.row?_deleteRow_other different
  jobs _ := by simp only [Tables.jobsOf, Tables.jobs_deleteRow]
  waiting := by
    unfold Tables.deleteRow
    split
    · exact pending_subset_capture (tables.removeRow other) .delete other
    · exact List.Subset.refl _

theorem spared_removeJob {job : Job} (member : job ∈ tables.jobs) (different : checkId ≠ job.checkId) :
    Spared checkId tables (tables.removeJob job.name) where
  names distinct := distinct.sublist (List.filter_sublist.map _)
  row := rfl
  jobs distinct := Tables.jobsOf_removeJob_other distinct member different
  waiting := List.Subset.refl _

theorem deleteBoundJob_spares :
    (deleteBoundJob (s.tables.jobNameOf other)).Ends (Turn befalls)
      (fun found after => (∀ checkId, checkId ≠ other → Spared checkId s.tables after.tables) ∧
        ∀ failure, found = .error failure → Befallen befalls failure) s := by
  have untouched : ∀ checkId, checkId ≠ other → Spared checkId s.tables s.tables :=
    fun checkId _ => .refl checkId s.tables
  unfold deleteBoundJob
  cases given : givenName (s.tables.jobNameOf other) with
  | none => exact ⟨untouched, fun failure same => by cases same⟩
  | some name =>
      obtain ⟨job, member, rfl, rfl⟩ :=
        Tables.jobNameOf_eq_some (Option.filter_eq_some_iff.mp given).1
      have removed : ∀ checkId, checkId ≠ job.checkId →
          Spared checkId s.tables (s.tables.removeJob job.name) :=
        fun checkId different => spared_removeJob member different
      apply ends_perform
      intro answer after turn
      cases turn with
      | carried => exact ⟨removed, fun failure same => by cases same⟩
      | early _ fails => exact ⟨untouched, fun failure same => by cases same; exact ⟨_, fails⟩⟩
      | late _ fails => exact ⟨removed, fun failure same => by cases same; exact ⟨_, fails⟩⟩

theorem drop_spares (quiet : Quiet befalls) :
    (drop other).Ends (Turn befalls)
      (fun found after => (∀ checkId, checkId ≠ other → Spared checkId s.tables after.tables) ∧
        Accounted befalls (other, .delete) found) s := by
  have untouched : ∀ checkId, checkId ≠ other → Spared checkId s.tables s.tables :=
    fun checkId _ => .refl checkId s.tables
  refine ends_call (fun failure fails => ⟨untouched, _, fails⟩)
    (fun failure fails => ⟨untouched, _, fails⟩) ?_
  apply ends_bind
  refine deleteBoundJob_spares.mono ?_
  rintro found middle ⟨spared, broken⟩
  cases found with
  | error failure => exact ⟨spared, broken failure rfl⟩
  | ok deleted =>
      have row_gone : ∀ checkId, checkId ≠ other →
          Spared checkId s.tables (middle.tables.deleteRow other) :=
        fun checkId different => (spared checkId different).trans (spared_deleteRow different)
      have dropped : ∀ message jobName, Accounts (other, .delete)
          { checkId := other, action := .dropped, message, jobName } :=
        fun _ _ => ⟨rfl, fun kept => absurd rfl kept⟩
      refine ends_call (fun failure fails => ⟨spared, _, fails⟩) ?_ ?_
      · intro failure fails
        rw [handle_deleteDefinition]
        exact ⟨row_gone, _, fails⟩
      · rw [handle_deleteDefinition]
        simp only [Continues]
        split
        · exact ends_note quiet ⟨row_gone, dropped _ _⟩
        · exact ends_note quiet ⟨row_gone, dropped _ _⟩

/-- Whatever befalls its calls, bringing an id in step fails and touches nothing. -/
theorem createOrReplace_refuses (rejected : Sql.pathOf resultsTable = .error reason) :
    (createOrReplace resultsTable checkId).Ends (Turn befalls)
      (fun found after => after = s ∧ ∃ failure, found = .error failure ∧
        (failure.isInterrupt = true → Befallen befalls failure)) s := by
  apply ends_bind
  refine dispatch_ends.mono ?_
  rintro found after ⟨rfl, ended⟩
  cases found with
  | ok read =>
      have compiled := ended.2
      rw [compile_rejected rejected] at compiled
      cases compiled
  | error failure =>
      refine ⟨rfl, failure, rfl, fun interrupt => ?_⟩
      rcases ended with befallen | ⟨_, rfl⟩ | ⟨row, _, failed⟩
      · exact befallen
      · cases interrupt
      · obtain rfl : reason = failure := by simpa [compile_rejected rejected] using failed
        have fault := pathOf_fault rejected
        cases reason with
        | other => exact fault.elim
        | _ => cases interrupt

theorem act_refuses (quiet : Quiet befalls)
    (rejected : Sql.pathOf settings.resultsTable = .error reason) :
    (act settings other action).Ends (Turn befalls)
      (fun found after => (∀ checkId, (checkId, ChangeAction.delete) ≠ (other, action) →
          Spared checkId s.tables after.tables) ∧
        match found with
        | .ok outcome => Accounts (other, action) outcome
        | .error failure => failure.isInterrupt = true → Befallen befalls failure) s := by
  by_cases deleted : action = .delete
  · subst deleted
    refine (drop_spares quiet).mono ?_
    rintro found after ⟨spared, answered⟩
    refine ⟨fun checkId different => spared checkId fun same => different (by rw [same]), ?_⟩
    cases found with
    | ok outcome => exact answered
    | error failure => exact fun _ => answered
  · have bringing : act settings other action = createOrReplace settings.resultsTable other := by
      cases action with
      | delete => exact absurd rfl deleted
      | insert => rfl
      | update => rfl
    rw [bringing]
    refine (createOrReplace_refuses rejected).mono ?_
    rintro found after ⟨rfl, failure, rfl, broken⟩
    exact ⟨fun checkId _ => .refl checkId after.tables, broken⟩

theorem apply_refuses (quiet : Quiet befalls)
    (rejected : Sql.pathOf settings.resultsTable = .error reason) :
    (apply settings other action).Ends (Turn befalls)
      (fun found after => (∀ checkId, (checkId, ChangeAction.delete) ≠ (other, action) →
          Spared checkId s.tables after.tables) ∧
        Accounted befalls (other, action) found) s := by
  apply ends_bind
  apply ends_attempt
  refine (act_refuses quiet rejected).mono ?_
  rintro found after ⟨spared, ended⟩
  cases found with
  | ok outcome => exact ⟨spared, ended⟩
  | error failure =>
      simp only [Continues]
      split
      · rename_i interrupt
        exact ⟨spared, ended interrupt⟩
      · exact ends_note quiet ⟨spared, rfl, fun _ => rfl⟩

theorem applyEach_refuses (quiet : Quiet befalls)
    (rejected : Sql.pathOf settings.resultsTable = .error reason) :
    (applyEach settings actions).Ends (Turn befalls)
      (fun found after => (∀ checkId, (checkId, .delete) ∉ actions →
          Spared checkId s.tables after.tables) ∧
        ∃ results, found = .ok results ∧ List.Forall₂ (Accounted befalls) actions results) s := by
  induction actions generalizing s with
  | nil => exact ⟨fun checkId _ => .refl checkId s.tables, [], rfl, .nil⟩
  | cons pair rest ih =>
      apply ends_bind
      apply ends_attempt
      refine (apply_refuses quiet rejected).mono ?_
      rintro found middle ⟨spared, answered⟩
      apply ends_bind
      refine ih.mono ?_
      rintro _ after ⟨later_spared, results, rfl, later_answered⟩
      refine ⟨fun checkId kept => ?_, found :: results, rfl, .cons answered later_answered⟩
      rw [List.mem_cons, not_or] at kept
      exact (spared checkId kept.1).trans (later_spared checkId kept.2)

theorem applyAll_refuses (quiet : Quiet befalls)
    (rejected : Sql.pathOf settings.resultsTable = .error reason) :
    (applyAll settings actions).Ends (Turn befalls)
      (fun found after => (∀ checkId, (checkId, .delete) ∉ actions →
          Spared checkId s.tables after.tables) ∧
        match found with
        | .ok outcomes => List.Forall₂ Accounts actions outcomes
        | .error failure => Befallen befalls failure) s := by
  apply ends_bind
  refine (applyEach_refuses quiet rejected).mono ?_
  rintro _ after ⟨spared, results, rfl, answered⟩
  apply ends_ofExcept
  refine ⟨spared, ?_⟩
  cases all : results.mapM id with
  | ok outcomes =>
      rw [mapM_id_eq_ok all, List.forall₂_map_right_iff] at answered
      exact answered
  | error failure =>
      obtain ⟨pair, _, befallen⟩ := exists_left answered (mem_of_mapM_id_eq_error all)
      exact befallen

theorem mem_failedIds (accounts : List.Forall₂ Accounts actions outcomes)
    (member : (checkId, action) ∈ actions) (kept : action ≠ .delete) :
    checkId ∈ failedIds outcomes := by
  obtain ⟨outcome, inside, about, failed⟩ := exists_right accounts member
  exact List.mem_map.mpr ⟨outcome, List.mem_filter.mpr ⟨inside, failed kept⟩, about⟩

/-- The events of ids that have failed are not among those that are acknowledged. -/
theorem waiting_acknowledged {outcomes : List Outcome}
    (positions : (drained.map (·.1)).Nodup) (failed : checkId ∈ failedIds outcomes)
    {entry : Nat × ChangeEvent} (inside : entry ∈ drained) (about : entry.2.checkId = checkId)
    (waiting : entry ∈ tables.feed.pending) :
    entry ∈ (acknowledged tables drained outcomes).feed.pending := by
  simp only [acknowledged, Feed.pending_acknowledge]
  refine List.mem_filter.mpr ⟨waiting, ?_⟩
  rw [Bool.not_eq_true', Bool.eq_false_iff]
  intro committed
  obtain ⟨other, other_inside, well, same⟩ :=
    (Feed.contains_positions_excluding drained _ entry.1).mp committed
  obtain rfl : other = entry := List.inj_on_of_nodup_map positions other_inside inside same
  exact well (about ▸ failed)

theorem settle_refuses (quiet : Quiet befalls)
    (rejected : Sql.pathOf settings.resultsTable = .error reason)
    (indexed : Indexed s.tables) (pending : drained ⊆ s.tables.feed.pending)
    (positions : (drained.map (·.1)).Nodup) :
    (settle settings (Feed.batchOf drained)).Ends (Turn befalls)
      (fun found after => Refuses befalls drained s.tables after.tables found) s := by
  have unharmed {tables : Tables}
      (spared : ∀ checkId, (checkId, .delete) ∉ asked drained → Spared checkId s.tables tables)
      {checkId : String} {action : ChangeAction} (member : (checkId, action) ∈ asked drained)
      (kept : action ≠ .delete) : Unharmed drained checkId s.tables tables := by
    have spared := spared checkId fun deleted =>
      kept (ChangeEvent.action_unique member deleted)
    exact ⟨spared.row, spared.jobs indexed.jobs,
      fun entry inside _ => spared.waiting (pending inside)⟩
  apply ends_note quiet
  apply ends_setPhase quiet
  apply ends_bind
  refine (applyAll_refuses quiet rejected).mono ?_
  rintro found middle ⟨spared, answered⟩
  cases found with
  | error failure => exact ⟨answered, fun _ _ member kept => unharmed spared member kept⟩
  | ok outcomes =>
      have left : ∀ checkId action, (checkId, action) ∈ asked drained → action ≠ .delete →
          Unharmed drained checkId s.tables (acknowledged middle.tables drained outcomes) := by
        intro checkId action member kept
        have there := unharmed spared member kept
        exact ⟨there.row, there.jobs, fun entry inside about =>
          waiting_acknowledged positions (mem_failedIds answered member kept) inside about
            (there.waiting entry inside about)⟩
      refine ends_call (fun failure fails => ⟨⟨_, fails⟩, fun _ _ member kept =>
        unharmed spared member kept⟩) (fun failure fails => ⟨⟨_, fails⟩, left⟩) ?_
      simp only [Memory.handle, Continues]
      -- Whether some ids are left pending only matters to what is noted.
      split
      · apply ends_note quiet
        apply ends_note quiet
        exact ⟨answered, left⟩
      · apply ends_note quiet
        exact ⟨answered, left⟩

theorem pass_refuses (quiet : Quiet befalls)
    (rejected : Sql.pathOf settings.resultsTable = .error reason) (indexed : Indexed s.tables) :
    (pass settings).Ends (Turn befalls)
      (fun found after => Refuses befalls (s.tables.feed.drainable settings.batchLimit)
        s.tables after.tables found) s := by
  have indexed' : ∀ loop, Indexed (State.mk s.tables loop).tables := fun _ => indexed
  have pending := (s.tables.feed.drainable_prefix settings.batchLimit).sublist
  have positions : ((s.tables.feed.drainable settings.batchLimit).map (·.1)).Nodup :=
    indexed.positions.sublist ((pending.trans s.tables.feed.pending_sublist).map _)
  have unread : ∀ checkId action, (checkId, action) ∈ asked (s.tables.feed.drainable settings.batchLimit) →
      action ≠ .delete →
      Unharmed (s.tables.feed.drainable settings.batchLimit) checkId s.tables s.tables :=
    fun _ _ _ _ => ⟨rfl, rfl, fun entry inside _ => pending.subset inside⟩
  apply ends_setPhase quiet
  refine ends_call (fun failure fails => ⟨⟨_, fails⟩, unread⟩)
    (fun failure fails => ⟨⟨_, fails⟩, unread⟩) ?_
  simp only [Memory.handle, Continues, Feed.drain_eq]
  split
  · rename_i nothing_drained
    have none_drained : s.tables.feed.drainable settings.batchLimit = [] := by
      simpa [Batch.isEmpty] using nothing_drained
    rw [none_drained] at unread ⊢
    apply ends_note quiet
    refine ⟨?_, unread⟩
    rw [asked_nil]
    exact List.Forall₂.nil
  · exact settle_refuses quiet rejected (indexed' _) pending.subset positions

theorem reconcileBatch_refuses (quiet : Quiet befalls)
    (rejected : Sql.pathOf settings.resultsTable = .error reason) (indexed : Indexed s.tables)
    (at_rest : s.loop.inPass = false) :
    (reconcileBatch settings).Ends (Turn befalls)
      (fun found after => Refuses befalls (s.tables.feed.drainable settings.batchLimit)
        s.tables after.tables found) s := by
  have indexed' : ∀ loop, Indexed (State.mk s.tables loop).tables := fun _ => indexed
  refine ends_call (fun failure fails => absurd fails (quiet _ failure))
    (fun failure fails => absurd fails (quiet _ failure)) ?_
  simp only [Memory.handle, Loop.handle, Continues, at_rest, Bool.not_false, if_true]
  apply ends_ensuring
  refine (pass_refuses quiet rejected (indexed' _)).mono ?_
  intro found middle refused
  apply ends_perform
  intro answer after turn
  cases turn with
  | carried => exact ⟨rfl, refused⟩
  | early _ fails => exact absurd fails (quiet _ _)
  | late _ fails => exact absurd fails (quiet _ _)

/-- A path that is rejected destroys nothing.  A call for an id with a row fails and leaves
all as it was.  A pass, whatever befalls its calls, answers unless one of them has failed;
the outcomes of ids that are not to be deleted tell of failures, and these ids have their
rows and their jobs, and all their events are pending. -/
theorem misconfigured_unharmed (rejected : Sql.pathOf settings.resultsTable = .error reason) :
    (∀ (s : State) checkId, (s.tables.row? checkId).isSome = true →
      (createOrReplace settings.resultsTable checkId).run Memory.handle s = (.error reason, s) ∧
      (reconcileOne settings checkId).run Memory.handle s = (.error reason, s)) ∧
    ∀ trial : Trial, Indexed trial.base.tables → trial.base.loop.inPass = false →
      let drained := trial.base.tables.feed.drainable settings.batchLimit
      let ended := (reconcileBatch settings).run Trial.handle trial
      Refuses trial.fate.befalls drained trial.base.tables ended.2.base.tables ended.1 := by
  refine ⟨fun s checkId there => ⟨createOrReplace_rejected rejected there,
    reconcileOne_rejected rejected there⟩, ?_⟩
  intro trial indexed at_rest
  exact trial.run_of_ends (reconcileBatch_refuses (quiet_fate _) rejected indexed at_rest)

/-- Two rows and the job of the first; the first has changed, and the second is to go. -/
def changeAndDelete : Trial where
  base.tables :=
    { Tables.empty .earliest true with
      rows := [sample, otherSample]
      feed := (Feed.empty.publish ⟨.update, "a", none, .null⟩).publish ⟨.delete, "b", none, .null⟩
      jobs := [⟨"job", "a", .consistency, .null, .null, [], none⟩] }
  base.loop := .start
  fate := []

theorem misconfigured_changeAndDelete :
    let settings : Settings := ⟨.text "no table", none⟩
    let before := changeAndDelete.base.tables
    let ended := (reconcileBatch settings).run Trial.handle changeAndDelete
    Sql.pathOf settings.resultsTable = .error (.identifier (.namePart "no table")) ∧
      Indexed before ∧ (before.row? "a").isSome = true ∧
      (reconcileOne settings "a").run Memory.handle changeAndDelete.base =
        (.error (.identifier (.namePart "no table")), changeAndDelete.base) ∧
      ("a", .update) ∈ asked (before.feed.drainable none) ∧
      Unharmed (before.feed.drainable none) "a" before ended.2.base.tables ∧
      ∃ outcomes, ended.1 = .ok outcomes ∧ failedIds outcomes = ["a"] := by
  intro settings before ended
  have rejected : Sql.pathOf settings.resultsTable = .error (.identifier (.namePart "no table")) :=
    rfl
  have indexed : Indexed before := ⟨by decide, by decide⟩
  obtain ⟨one, passes⟩ := misconfigured_unharmed rejected
  have there : (before.row? "a").isSome = true := rfl
  have wanted : ("a", .update) ∈ asked (before.feed.drainable none) := by decide +kernel
  have refused := passes changeAndDelete indexed rfl
  have failed : ended.1.toOption.map failedIds = some ["a"] := by decide +kernel
  have unharmed := refused.unharmed "a" .update wanted (by decide)
  have run_eq : (reconcileBatch settings).run Trial.handle changeAndDelete = ended := rfl
  rw [run_eq] at unharmed
  refine ⟨rejected, indexed, there, (one _ "a" there).2, wanted, unharmed, ?_⟩
  cases answered : ended.1 with
  | ok outcomes => exact ⟨outcomes, rfl, by simpa [answered, Except.toOption] using failed⟩
  | error failure => simp [answered, Except.toOption] at failed

end CheckKeeper.Sync
