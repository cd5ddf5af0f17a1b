import CheckKeeper.Proofs.Staleness
import CheckKeeper.Proofs.Steady

namespace CheckKeeper.Sync

open Memory Program

/-! No job without a row behind it.

Once nothing is pending about an id, each of its jobs has a row that calls for it.  Rows of
unsupported kinds are the exception: a job that such a row finds is left alone.  No deed and no
mishap breaks this, whatever a pass drains, and also where the names of jobs collide.
-/

variable {ids chosen : List String} {resultsTable : Value} {checkId : String}
  {action : ChangeAction} {s after : State} {tables before middle last : Tables}
  {drained rest news : List (Nat × ChangeEvent)} {outcomes : List Outcome} {trial : Trial}
  {deed : Deed} {deeds : List (Deed × Fate)} {befalls : Service.Call → Failure → Prop}

/-- A row calls for a job, or it is of an unsupported kind and leaves the job alone. -/
def Backs (row : Definition) (job : Job) : Prop :=
  row.kind = .ok .unsupported ∨ Tables.CallsFor row job

/-- All jobs of an id are backed by its row. -/
def Backed (tables : Tables) (checkId : String) : Prop :=
  ∀ job ∈ tables.jobs, job.checkId = checkId →
    ∃ row, tables.row? checkId = some row ∧ Backs row job

theorem Backed.alike {before after : Tables} (backed : Backed before checkId)
    (alike : Tables.Alike ids checkId before after) : Backed after checkId := by
  intro job member bound
  rw [alike.row]
  exact backed job (alike.fewer job member bound) bound

theorem Settled.backed (settled : Settled resultsTable tables checkId) : Backed tables checkId := by
  intro job member bound
  have own : job ∈ tables.jobsOf checkId := List.mem_filter.mpr ⟨member, by simp [bound]⟩
  rcases settled with absent | ⟨row, check, message, there, valid, jobs⟩
  · rw [absent.jobs] at own
    cases own
  · have content : job.content ∈ wanted row check := by
      rw [← jobs]
      exact List.mem_map_of_mem own
    unfold wanted at content
    split at content
    · rename_i active
      have same : job.kind = check.kind := congrArg Job.kind (List.mem_singleton.mp content)
      refine ⟨row, there, Or.inr ⟨active, ?_⟩⟩
      rw [same]
      exact Compile.kind_of_valid valid
    · cases content

/-- An action that did not fail leaves its jobs backed, as long as it leaves the row. -/
theorem Done.backed (done : Done resultsTable checkId action before last)
    (same : last.row? checkId = before.row? checkId) : Backed last checkId := by
  by_cases deleted : action = .delete
  · have settled : Settled resultsTable last checkId := Or.inl (done.dropped deleted)
    exact settled.backed
  · obtain ⟨row, verdict, there, compiled, settles⟩ := done.brought deleted
    cases unsupported : verdict.isUnsupported with
    | false => exact (settles unsupported).backed
    | true =>
        have kind := Compile.kind_of_isUnsupported compiled unsupported
        exact fun job _ _ => ⟨row, same.trans there, Or.inl kind⟩

/-- The invariant of all histories: what nothing pending is about is backed. -/
structure Backing (ids : List String) (s : State) : Prop extends
    Orderly ids (fun _ => True) s where
  backed : ∀ checkId, lastPending s.tables checkId = none → Backed s.tables checkId

theorem backing_start (clock : Calendar.Moment) (ids : List String) :
    Backing ids (.start clock true) where
  toOrderly := orderly_start clock ids _
  backed := by simp [Backed, State.start, Tables.empty]

/-- Actions on any ids keep a state backed: a row that they remove is told of, and they store
no job but one that the row calls for. -/
theorem Backing.course (backing : Backing ids s)
    (course : Tables.Course chosen s.tables after.tables) (at_rest : after.loop.inPass = false) :
    Backing ids after := by
  obtain ⟨news, pending, told⟩ := course.told backing.tidy
  refine { backing.toOrderly.course course at_rest with backed := ?_ }
  intro checkId last job member bound
  subst bound
  rw [lastPending_append pending, Option.or_eq_none_iff] at last
  obtain ⟨none_new, none_before⟩ := last
  rcases lastAction_of_told (told job.checkId) with ⟨row, _⟩ | ⟨_, deleted⟩
  · rw [row]
    rcases course.jobs backing.tidy member with old | ⟨stored_for, there, called_for⟩
    · exact backing.backed _ none_before job old rfl
    · exact ⟨stored_for, there, Or.inr called_for⟩
  · rw [deleted] at none_new
    cases none_new

theorem Backing.tick (backing : Backing ids s) (now : Calendar.Moment) :
    Backing ids (s.withTables { s.tables with clock := now }) where
  tidy := { backing.tidy with }
  at_rest := backing.at_rest
  rows := backing.rows
  backed := backing.backed

theorem Backing.published (backing : Backing ids s) (event : ChangeEvent) :
    Backing ids (s.withTables { s.tables with feed := s.tables.feed.publish event }) where
  tidy := { backing.tidy with feed := backing.tidy.feed.publish event }
  at_rest := backing.at_rest
  rows := backing.rows
  backed := by
    intro checkId last
    have pending := Feed.pending_publish backing.tidy.feed event
    rw [State.withTables, lastPending_append pending, Option.or_eq_none_iff] at last
    exact backing.backed checkId last.2

theorem Backing.upserted (backing : Backing ids s) {d : Definition} (known : d.checkId ∈ ids)
    (action : ChangeAction) :
    Backing ids (s.withTables ((s.tables.setRow d).capture action d.checkId)) := by
  refine { backing.toOrderly.upserted known trivial action with backed := ?_ }
  intro checkId last job member bound
  simp only [State.withTables] at last member ⊢
  rw [lastPending_capture (backing.tidy.setRow known)] at last
  split at last
  · cases last
  · rename_i different
    rw [Tables.jobs_capture] at member
    rw [Tables.row?_capture, Tables.row?_setRow, if_neg different]
    exact backing.backed checkId last job member bound

/-- Acknowledging what did not fail keeps a state backed, if all that is not told of again is
backed. -/
theorem Backing.acknowledged (backing : Backing ids s)
    (split : s.tables.feed.pending = drained ++ rest)
    (backs : ∀ checkId, ChangeEvent.lastAction checkId (drained.map (·.2)) ≠ none →
      checkId ∉ failedIds outcomes → ChangeEvent.lastAction checkId (rest.map (·.2)) = none →
      Backed s.tables checkId) :
    Backing ids (s.withTables (Sync.acknowledged s.tables drained outcomes)) := by
  refine {
    tidy := acknowledged_tidy backing.tidy split outcomes, at_rest := backing.at_rest
    rows := backing.rows, backed := ?_ }
  intro checkId last
  rw [State.withTables, lastPending_append (acknowledged_pending backing.tidy split outcomes),
    lastAction_kept, Option.or_eq_none_iff] at last
  obtain ⟨none_behind, none_kept⟩ := last
  have backed : Backed s.tables checkId := by
    by_cases none_drained : ChangeEvent.lastAction checkId (drained.map (·.2)) = none
    · apply backing.backed
      rw [lastPending_append split, none_behind, none_drained]
      rfl
    · refine backs checkId none_drained (fun failed => none_drained ?_) none_behind
      rwa [if_pos failed] at none_kept
  exact backed

theorem Backing.passed {found : Except Failure (List Outcome)} (backing : Backing ids s)
    (split : s.tables.feed.pending = drained ++ rest)
    (passed : Passed befalls resultsTable ids drained s.tables after.tables found)
    (at_rest : after.loop.inPass = false) : Backing ids after := by
  obtain ⟨tables, loop⟩ := after
  cases passed with
  | unread =>
      have still : Tables.Course [] s.tables s.tables := .refl
      exact backing.course still at_rest
  | interrupted applied => exact backing.course applied.course at_rest
  | @completed middle outcomes _ applied =>
      have backing' : Backing ids ⟨middle, loop⟩ := backing.course applied.course at_rest
      obtain ⟨news, pending, told⟩ := applied.pending backing.tidy split
      apply backing'.acknowledged pending
      intro checkId waiting well none_behind
      obtain ⟨action, asked_for⟩ := asked_of_lastAction waiting
      obtain ⟨first, last, same, alike, _, ended⟩ :=
        applied.outcome (ChangeEvent.nodup_collapse _) asked_for
      rw [if_neg well] at ended
      rw [List.map_append, ChangeEvent.lastAction_append, Option.or_eq_none_iff] at none_behind
      rcases lastAction_of_told (told checkId) with ⟨row, _⟩ | ⟨_, deleted⟩
      · have row_left : last.row? checkId = first.row? checkId :=
          alike.row.symm.trans (row.trans same.row.symm)
        exact (ended.backed row_left).alike alike
      · rw [deleted] at none_behind
        cases none_behind.1

theorem Backing.carryOut (backing : Backing ids trial.base)
    (brings : ∀ d, deed.row? = some d → d.checkId ∈ ids) :
    Backing ids (deed.carryOut resultsTable trial) := by
  cases deed with
  | tick now => exact backing.tick now
  | publish event => exact backing.published event
  | upsert d =>
      rcases carryOut_upsert d trial with refused | ⟨createdAt, updatedAt, action, _, stored⟩
      · rw [refused]
        exact backing
      · have known : ({ d with createdAt, updatedAt } : Definition).checkId ∈ ids := brings d rfl
        rw [stored]
        exact backing.upserted known action
  | delete checkId =>
      rcases carryOut_delete checkId trial with unheard | deleted
      · rw [unheard]
        exact backing
      · rw [deleted]
        exact backing.course ((Acted.refl [checkId] trial.base).edit (.deleteRow _)).course
          backing.at_rest
  | reconcileOne checkId =>
      have acted := trial.run_of_ends
        (reconcileOne_acted ⟨resultsTable, none⟩ checkId (quiet_fate _) backing.tidy)
      exact backing.course acted.course (acted.inPass.trans backing.at_rest)
  | reconcileBatch limit =>
      obtain ⟨at_rest, passed⟩ := trial.run_of_ends
        (reconcileBatch_ends ⟨resultsTable, limit⟩ (quiet_fate _) backing.tidy backing.at_rest)
      obtain ⟨rest, split⟩ := Feed.drainable_prefix trial.base.tables.feed limit
      exact backing.passed split.symm passed at_rest

theorem Backing.history (backing : Backing ids s) (brings : ∀ d ∈ upserts deeds, d.checkId ∈ ids) :
    Backing ids (history resultsTable s deeds) := by
  induction deeds generalizing s with
  | nil => exact backing
  | cons deed later ih =>
      apply ih
      · exact backing.carryOut fun d brought => brings d (by simp [upserts, brought])
      · exact fun d member => brings d (upserts_subset_cons deed later member)

/-- Whatever has happened, a job that nothing pending is about has a row, and unless the kind of
that row is unsupported, the row is active and of the kind of the job. -/
theorem history_backs (resultsTable : Value) (clock : Calendar.Moment)
    (deeds : List (Deed × Fate)) :
    let tables := (history resultsTable (.start clock true) deeds).tables
    ∀ job ∈ tables.jobs, (∀ entry ∈ tables.feed.pending, entry.2.checkId ≠ job.checkId) →
      ∃ row ∈ tables.rows, row.checkId = job.checkId ∧
        (row.kind = .ok .unsupported ∨ (row.active = true ∧ row.kind = .ok job.kind)) := by
  intro tables job member none_about
  have backing : Backing (upsertedIds deeds) (history resultsTable (.start clock true) deeds) :=
    (backing_start clock _).history fun d brought => List.mem_map_of_mem brought
  have none_pending : lastPending tables job.checkId = none := by
    apply ChangeEvent.lastAction_eq_none.mpr
    intro event inside
    obtain ⟨entry, waiting, rfl⟩ := List.mem_map.mp inside
    exact none_about entry waiting
  obtain ⟨row, there, backs⟩ := backing.backed _ none_pending job member rfl
  exact ⟨row, Tables.mem_of_row? there, Tables.row?_checkId there, backs⟩

def scheduled : List (Deed × Fate) :=
  [(.upsert sample, []), (.reconcileBatch none, [])]

theorem scheduled_backed :
    let tables := (history (.text "results") (.start .earliest true) scheduled).tables
    tables.jobs.length = 1 ∧ ∀ job ∈ tables.jobs, ∃ row ∈ tables.rows, row.checkId = job.checkId ∧
      (row.kind = .ok .unsupported ∨ (row.active = true ∧ row.kind = .ok job.kind)) := by
  have now : (history (.text "results") (.start .earliest true) scheduled).tables.jobs.length = 1 ∧
      (history (.text "results") (.start .earliest true) scheduled).tables.feed.pending.length =
        0 := by decide +kernel
  obtain ⟨one, none_pending⟩ := now
  refine ⟨one, fun job member =>
    history_backs (.text "results") .earliest scheduled job member fun entry waiting => ?_⟩
  have some_pending := List.length_pos_of_mem waiting
  exact absurd none_pending (Nat.ne_of_gt some_pending)

/-- A row with a job is deleted, and written again with a type that no check has. -/
def retyped : List (Deed × Fate) :=
  [(.upsert sample, []), (.reconcileBatch none, []), (.delete "a", []),
    (.upsert { sample with checkType := .text "VOLUME" }, [])]

/-- The pass takes both changes for one, and leaves the job to a row of another kind. -/
theorem retyped_left :
    let before := history (.text "results") (.start .earliest true) retyped
    let after := (calmPass (.text "results") none before).2.tables
    after.feed.hasPending = false ∧ ∃ job ∈ after.jobs, ∀ row ∈ after.rows,
      row.checkId = job.checkId → row.kind.toOption ≠ some job.kind := by
  have now : (history (.text "results") (.start .earliest true) retyped).loop.inPass = false ∧
      ((history (.text "results") (.start .earliest true) retyped).tables.feed.drain none).isEmpty =
        false ∧
      ((history (.text "results") (.start .earliest true) retyped).tables.feed.drain
        none).events.Pairwise fun a b => a.seq.getD 0 ≤ b.seq.getD 0 := by decide +kernel
  obtain ⟨at_rest, some_drained, numbered⟩ := now
  -- The events come in their own order, so the kernel need not sort them.
  simp only [calmPass_eq at_rest some_drained, settle, ChangeEvent.collapse,
    ChangeEvent.inOrder_of_numbered numbered]
  decide +kernel

end CheckKeeper.Sync
