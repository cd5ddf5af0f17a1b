import CheckKeeper.Memory.Tables
import CheckKeeper.Proofs.Feed
import CheckKeeper.Proofs.Keyed

namespace CheckKeeper.Memory.Tables

/-! Rows and jobs of the tables, id by id. -/

variable {tables : Tables} {ids : List String} {checkId other name : String} {d : Definition}
  {job : Job}

def jobsOf (tables : Tables) (checkId : String) : List Job :=
  tables.jobs.filter (·.checkId == checkId)

/-- The tables without the row of an id; if there is one, the feed tells of it. -/
def deleteRow (tables : Tables) (checkId : String) : Tables :=
  if (tables.row? checkId).isSome then (tables.removeRow checkId).capture .delete checkId
  else tables

/-- Ids whose jobs have names of their own. -/
def Apart (ids : List String) : Prop :=
  ∀ a ∈ ids, ∀ b ∈ ids, Job.nameOf a = Job.nameOf b → a = b

/-- Tables as they come about from changes of rows with the given ids: every row and
every job name stands once, and each job has the name that its id gives it. -/
structure Tidy (ids : List String) (tables : Tables) : Prop where
  rows : (tables.rows.map (·.checkId)).Nodup
  declared : ∀ row ∈ tables.rows, row.checkId ∈ ids
  names : (tables.jobs.map (·.name)).Nodup
  named : ∀ job ∈ tables.jobs, job.name = Job.nameOf job.checkId
  bound : ∀ job ∈ tables.jobs, job.checkId ∈ ids
  feed : tables.feed.WellFormed
  captures : tables.captures = true

theorem tidy_empty (clock : Calendar.Moment) (ids : List String) :
    (empty clock true).Tidy ids where
  rows := List.nodup_nil
  declared := by simp [empty]
  names := List.nodup_nil
  named := by simp [empty]
  bound := by simp [empty]
  feed := Feed.wellFormed_empty
  captures := rfl

theorem setRow_rows (tables : Tables) (d : Definition) :
    (tables.setRow d).rows = Keyed.put (·.checkId) d tables.rows :=
  rfl

theorem row?_setRow (tables : Tables) (d : Definition) (checkId : String) :
    (tables.setRow d).row? checkId = if d.checkId = checkId then some d else tables.row? checkId := by
  unfold row?
  rw [setRow_rows]
  exact Keyed.find?_put

/-- A definition that is accepted is set as a row, with its times. -/
theorem eq_setRow_of_putRow {after : Tables} {action : ChangeAction}
    (stored : tables.putRow d = .ok (action, after)) :
    ∃ existing, after = tables.setRow (tables.stamped existing d) := by
  unfold putRow at stored
  cases found : tables.row? d.checkId with
  | none =>
      rw [found] at stored
      cases stored
      exact ⟨none, rfl⟩
  | some old =>
      rw [found] at stored
      cases allowed : old.checkKind d with
      | error failure => simp [allowed, bind, Except.bind] at stored
      | ok _ =>
          simp only [allowed, bind, Except.bind, pure, Except.pure, Except.ok.injEq] at stored
          cases stored
          exact ⟨some old, rfl⟩

@[simp] theorem row?_removeRow_self (tables : Tables) (checkId : String) :
    (tables.removeRow checkId).row? checkId = none := by
  simp [row?, removeRow]

theorem row?_removeRow_other (different : other ≠ checkId) :
    (tables.removeRow checkId).row? other = tables.row? other := by
  simp only [row?, removeRow, List.find?_filter]
  congr 1
  funext row
  by_cases hit : row.checkId = other <;> simp [hit, different]

theorem Tidy.row?_of_mem (tidy : tables.Tidy ids) {row : Definition} (member : row ∈ tables.rows) :
    tables.row? row.checkId = some row :=
  Keyed.find?_of_mem tidy.rows member

theorem row?_checkId {row : Definition} (found : tables.row? checkId = some row) :
    row.checkId = checkId := by
  simpa using List.find?_some found

theorem mem_of_row? {row : Definition} (found : tables.row? checkId = some row) :
    row ∈ tables.rows :=
  List.mem_of_find?_eq_some found

theorem Tidy.id_of_row? (tidy : tables.Tidy ids) (there : (tables.row? checkId).isSome = true) :
    checkId ∈ ids := by
  obtain ⟨row, found⟩ := Option.isSome_iff_exists.mp there
  have declared := tidy.declared row (mem_of_row? found)
  rwa [row?_checkId found] at declared

@[simp] theorem row?_capture (tables : Tables) (action : ChangeAction) (changed checkId : String) :
    (tables.capture action changed).row? checkId = tables.row? checkId := by
  unfold capture
  split <;> rfl

@[simp] theorem rows_capture (tables : Tables) (action : ChangeAction) (changed : String) :
    (tables.capture action changed).rows = tables.rows := by
  unfold capture
  split <;> rfl

@[simp] theorem jobs_capture (tables : Tables) (action : ChangeAction) (changed : String) :
    (tables.capture action changed).jobs = tables.jobs := by
  unfold capture
  split <;> rfl

@[simp] theorem results_capture (tables : Tables) (action : ChangeAction) (changed : String) :
    (tables.capture action changed).results = tables.results := by
  unfold capture
  split <;> rfl

theorem Tidy.capture (tidy : tables.Tidy ids) (action : ChangeAction) (checkId : String) :
    (tables.capture action checkId).Tidy ids := by
  unfold Tables.capture
  rw [if_pos tidy.captures]
  exact { tidy with feed := tidy.feed.publish _ }

theorem Tidy.capture_pending (tidy : tables.Tidy ids) (action : ChangeAction) (checkId : String) :
    (tables.capture action checkId).feed.pending = tables.feed.pending ++
      [(tables.feed.nextPosition, tables.feed.captured tables.clock action checkId)] := by
  unfold Tables.capture
  rw [if_pos tidy.captures]
  exact Feed.pending_publish tidy.feed _

theorem Tidy.setRow (tidy : tables.Tidy ids) (known : d.checkId ∈ ids) :
    (tables.setRow d).Tidy ids :=
  { tidy with
    rows := by
      rw [setRow_rows]
      exact Keyed.nodup_put tidy.rows
    declared := by
      intro row member
      rw [setRow_rows] at member
      rcases Keyed.mem_put member with rfl | old
      · exact known
      · exact tidy.declared row old }

theorem Tidy.removeRow (tidy : tables.Tidy ids) (checkId : String) :
    (tables.removeRow checkId).Tidy ids :=
  { tidy with
    rows := tidy.rows.sublist (List.filter_sublist.map _)
    declared := fun row member => tidy.declared row (List.mem_of_mem_filter member) }

theorem Tidy.deleteRow (tidy : tables.Tidy ids) (checkId : String) :
    (tables.deleteRow checkId).Tidy ids := by
  unfold Tables.deleteRow
  split
  · exact (tidy.removeRow checkId).capture .delete checkId
  · exact tidy

theorem deleteRow_of_none (absent : tables.row? checkId = none) :
    tables.deleteRow checkId = tables := by
  simp [Tables.deleteRow, absent]

theorem Tidy.deleteRow_pending (tidy : tables.Tidy ids)
    (there : (tables.row? checkId).isSome = true) :
    (tables.deleteRow checkId).feed.pending = tables.feed.pending ++
      [(tables.feed.nextPosition, tables.feed.captured tables.clock .delete checkId)] := by
  unfold Tables.deleteRow
  rw [if_pos there]
  exact (tidy.removeRow checkId).capture_pending .delete checkId

@[simp] theorem row?_deleteRow_self (tables : Tables) (checkId : String) :
    (tables.deleteRow checkId).row? checkId = none := by
  unfold deleteRow
  split
  · simp
  · rename_i absent
    simpa using absent

theorem row?_deleteRow_other (different : other ≠ checkId) :
    (tables.deleteRow checkId).row? other = tables.row? other := by
  unfold deleteRow
  split
  · rw [row?_capture, row?_removeRow_other different]
  · rfl

@[simp] theorem jobs_deleteRow (tables : Tables) (checkId : String) :
    (tables.deleteRow checkId).jobs = tables.jobs := by
  unfold deleteRow
  split
  · rw [jobs_capture]
    rfl
  · rfl

theorem rows_deleteRow (tables : Tables) (checkId : String) :
    (tables.deleteRow checkId).rows = tables.rows.filter (·.checkId != checkId) := by
  cases found : tables.row? checkId with
  | none =>
      have others := List.find?_eq_none.mp found
      rw [deleteRow_of_none found, eq_comm, List.filter_eq_self]
      intro row member
      simpa using others row member
  | some row =>
      simp only [deleteRow, found, Option.isSome_some, if_true, rows_capture]
      rfl

theorem rows_deleteRow_subset (tables : Tables) (checkId : String) :
    (tables.deleteRow checkId).rows ⊆ tables.rows := by
  rw [rows_deleteRow]
  exact List.filter_sublist.subset

theorem mem_jobsOf : job ∈ tables.jobsOf checkId ↔ job ∈ tables.jobs ∧ job.checkId = checkId := by
  simp [jobsOf]

def stored (tables : Tables) (job : Job) : Job :=
  { job with updatedAt := some tables.clock }

theorem setJob_jobs (tables : Tables) (job : Job) :
    (tables.setJob job).jobs = Keyed.put (·.name) (tables.stored job) tables.jobs :=
  rfl

theorem Tidy.setJob (tidy : tables.Tidy ids) (known : job.checkId ∈ ids)
    (named : job.name = Job.nameOf job.checkId) : (tables.setJob job).Tidy ids :=
  { tidy with
    names := by
      rw [setJob_jobs]
      exact Keyed.nodup_put tidy.names
    named := by
      intro found member
      rw [setJob_jobs] at member
      rcases Keyed.mem_put member with rfl | old
      · exact named
      · exact tidy.named found old
    bound := by
      intro found member
      rw [setJob_jobs] at member
      rcases Keyed.mem_put member with rfl | old
      · exact known
      · exact tidy.bound found old }

theorem Tidy.removeJob (tidy : tables.Tidy ids) (name : String) :
    (tables.removeJob name).Tidy ids :=
  { tidy with
    names := tidy.names.sublist (List.filter_sublist.map _)
    named := fun job member => tidy.named job (List.mem_of_mem_filter member)
    bound := fun job member => tidy.bound job (List.mem_of_mem_filter member) }

theorem Tidy.jobsOf_setJob_self (tidy : tables.Tidy ids)
    (named : job.name = Job.nameOf job.checkId) :
    (tables.setJob job).jobsOf job.checkId = [tables.stored job] := by
  unfold jobsOf
  rw [setJob_jobs]
  apply Keyed.filter_put_of_own tidy.names
  · simp [stored]
  · intro old member bound
    have same : old.checkId = job.checkId := by simpa using bound
    rw [tidy.named old member, same, ← named]
    rfl

theorem Tidy.jobsOf_setJob_other (tidy : tables.Tidy ids) (apart : Apart ids)
    (known : job.checkId ∈ ids) (named : job.name = Job.nameOf job.checkId)
    (different : other ≠ job.checkId) :
    (tables.setJob job).jobsOf other = tables.jobsOf other := by
  unfold jobsOf
  rw [setJob_jobs]
  apply Keyed.filter_put_of_unseen
  · simpa [stored] using different.symm
  · intro old member same
    have collides : Job.nameOf old.checkId = Job.nameOf job.checkId := by
      rw [← tidy.named old member, ← named]
      exact same
    have equal := apart _ (tidy.bound old member) _ known collides
    simpa [equal] using different.symm

/-- All jobs of an id have its name, so none is left when that is removed. -/
theorem Tidy.jobsOf_removeJob_self (tidy : tables.Tidy ids) (checkId : String) :
    (tables.removeJob (Job.nameOf checkId)).jobsOf checkId = [] := by
  unfold jobsOf
  rw [List.filter_eq_nil_iff]
  intro job member bound
  obtain ⟨inside, kept⟩ := List.mem_filter.mp member
  have same : job.checkId = checkId := by simpa using bound
  have named := tidy.named job inside
  rw [same] at named
  simp [named] at kept

/-- Where no two jobs have one name, to remove the job of one id leaves those of others. -/
theorem jobsOf_removeJob_other (names : (tables.jobs.map (·.name)).Nodup)
    (member : job ∈ tables.jobs) (different : other ≠ job.checkId) :
    (tables.removeJob job.name).jobsOf other = tables.jobsOf other := by
  simp only [jobsOf, Tables.removeJob, List.filter_filter]
  apply List.filter_congr
  intro old inside
  by_cases bound : old.checkId = other
  · have distinct : old.name ≠ job.name := fun same => by
      have equal := List.inj_on_of_nodup_map names inside member same
      rw [equal] at bound
      exact different bound.symm
    simp [distinct]
  · simp [bound]

theorem Tidy.jobsOf_removeJob_other (tidy : tables.Tidy ids) (member : job ∈ tables.jobs)
    (different : other ≠ job.checkId) :
    (tables.removeJob job.name).jobsOf other = tables.jobsOf other :=
  Tables.jobsOf_removeJob_other tidy.names member different

theorem jobNameOf_eq_none (tables : Tables) (checkId : String) :
    tables.jobNameOf checkId = none ↔ tables.jobsOf checkId = [] := by
  simp [jobNameOf, jobsOf, List.find?_eq_none, List.filter_eq_nil_iff]

theorem jobNameOf_eq_some (found : tables.jobNameOf checkId = some name) :
    ∃ job ∈ tables.jobs, job.name = name ∧ job.checkId = checkId := by
  obtain ⟨job, first, rfl⟩ := Option.map_eq_some_iff.mp found
  exact ⟨job, List.mem_of_find?_eq_some first, rfl, by simpa using List.find?_some first⟩

theorem Tidy.jobNameOf (tidy : tables.Tidy ids) (found : tables.jobNameOf checkId = some name) :
    name = Job.nameOf checkId ∧ checkId ∈ ids := by
  obtain ⟨job, member, rfl, rfl⟩ := jobNameOf_eq_some found
  exact ⟨tidy.named job member, tidy.bound job member⟩

end CheckKeeper.Memory.Tables
