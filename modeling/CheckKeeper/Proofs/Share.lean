import CheckKeeper.Proofs.Remit
import CheckKeeper.Proofs.Synchronizer
import CheckKeeper.Proofs.Tables

namespace CheckKeeper.Memory

open Calendar Program

/-! The share that an id has in the tables: its row, and the jobs of some names.

What an action of an id reads and changes lies within its share.  Time may pass between
any two calls, and only shows in the time stamps.
-/

/-- Tables and loop, with the time that each call to come finds on the clock. -/
structure Timed where
  base : State
  clock : Nat → Moment

def State.at (s : State) (now : Moment) : State :=
  s.withTables { s.tables with clock := now }

def Timed.handle : Handler Service.interface Timed := fun c t =>
  let (answer, after) := Memory.handle c (t.base.at (t.clock 0))
  (answer, ⟨after, fun n => t.clock (n + 1)⟩)

namespace Tables

variable {tables s t : Tables} {checkId name : String} {names : List String} {job : Job}

/-- The jobs of some names, in their order, without the time of their last change. -/
def share (names : List String) (tables : Tables) : List Job :=
  (tables.jobs.filter fun job => names.contains job.name).map Job.content

def Held (checkId : String) (names : List String) (tables : Tables) : Prop :=
  ∀ job ∈ tables.jobs, job.checkId = checkId → job.name ∈ names

theorem share_setJob_own (own : job.name ∈ names) :
    share names (tables.setJob job) = Keyed.put (·.name) job.content (share names tables) := by
  unfold share
  rw [setJob_jobs, Keyed.filter_put_of_seen]
  · exact Keyed.map_put fun _ => rfl
  · simpa [stored] using own
  · intro old _ same
    have named : old.name = job.name := same
    simpa [named] using own

theorem share_setJob_other (other : job.name ∉ names) :
    share names (tables.setJob job) = share names tables := by
  unfold share
  rw [setJob_jobs, Keyed.filter_put_of_unseen]
  · simpa [stored] using other
  · intro old _ same
    have named : old.name = job.name := same
    simpa [named] using other

theorem share_removeJob (names : List String) (tables : Tables) (name : String) :
    share names (tables.removeJob name) = (share names tables).filter (·.name != name) := by
  simp only [share, removeJob, List.filter_map, List.filter_filter]
  congr 1
  apply List.filter_congr
  intro job _
  exact Bool.and_comm _ _

theorem share_removeJob_other (other : name ∉ names) :
    share names (tables.removeJob name) = share names tables := by
  rw [share_removeJob, List.filter_eq_self]
  intro job member
  obtain ⟨old, inside, rfl⟩ := List.mem_map.mp member
  have named : old.name ∈ names := by simpa using (List.mem_filter.mp inside).2
  have differs : old.name ≠ name := fun same => other (same ▸ named)
  simpa [Job.content] using differs

theorem hasJob_eq (own : name ∈ names) :
    tables.hasJob name = (share names tables).any (·.name == name) := by
  unfold hasJob share
  rw [List.any_map, List.any_filter]
  apply congrArg fun p => tables.jobs.any p
  funext job
  by_cases same : job.name = name <;> simp [same, own, Job.content]

theorem job?_eq (own : name ∈ names) :
    (tables.job? name).map Job.content = (share names tables).find? (·.name == name) := by
  unfold job? share
  rw [List.find?_map, List.find?_filter]
  congr 2
  funext job
  by_cases same : job.name = name <;> simp [same, own, Job.content]

theorem jobNameOf_eq (held : Held checkId names tables) :
    tables.jobNameOf checkId =
      ((share names tables).find? (·.checkId == checkId)).map (·.name) := by
  have same : tables.jobs.filter (·.checkId == checkId) =
      (tables.jobs.filter fun job => names.contains job.name).filter (·.checkId == checkId) := by
    rw [List.filter_filter]
    apply List.filter_congr
    intro job member
    by_cases bound : job.checkId = checkId
    · simp [bound, held job member bound]
    · simp [bound]
  unfold jobNameOf share
  rw [List.find?_map, Option.map_map, ← List.head?_filter, ← List.head?_filter, same]
  rfl

/-- An id has one share in two tables, with all its jobs in it. -/
structure Agree (checkId : String) (names : List String) (s t : Tables) : Prop where
  row : s.row? checkId = t.row? checkId
  share : s.share names = t.share names
  left : Held checkId names s
  right : Held checkId names t

/-- What changes on behalf of some ids leave as it was: the rows of other ids, the jobs of
other names, and which jobs other ids have. -/
structure Frame (ids names : List String) (before after : Tables) : Prop where
  rows : ∀ other, other ∉ ids → after.row? other = before.row? other
  share : ∀ free, (∀ name ∈ free, name ∉ names) → after.share free = before.share free
  bound : ∀ job ∈ after.jobs, job.checkId ∉ ids → job ∈ before.jobs

theorem Frame.refl (ids names : List String) (tables : Tables) : Frame ids names tables tables :=
  ⟨fun _ _ => rfl, fun _ _ => rfl, fun _ member _ => member⟩

theorem Frame.trans {ids : List String} {before middle after : Tables}
    (first : Frame ids names before middle) (second : Frame ids names middle after) :
    Frame ids names before after where
  rows other free := (second.rows other free).trans (first.rows other free)
  share free apart := (second.share free apart).trans (first.share free apart)
  bound job member free := first.bound job (second.bound job member free) free

theorem Frame.mono {ids more wider : List String} {before after : Tables}
    (frame : Frame ids names before after) (ids_within : ids ⊆ more) (names_within : names ⊆ wider) :
    Frame more wider before after where
  rows other free := frame.rows other fun member => free (ids_within member)
  share free apart := frame.share free fun name member own => apart name member (names_within own)
  bound job member free := frame.bound job member fun own => free (ids_within own)

/-- Changes on behalf of other ids leave the share of an id as it was. -/
theorem Agree.frame {ids others : List String} {before middle after : Tables}
    (agree : Agree checkId names before middle) (frame : Frame ids others middle after)
    (other : checkId ∉ ids) (apart : ∀ name ∈ names, name ∉ others) :
    Agree checkId names before after where
  row := agree.row.trans (frame.rows checkId other).symm
  share := agree.share.trans (frame.share names apart).symm
  left := agree.left
  right job member bound := agree.right job (frame.bound job member (bound ▸ other)) bound

/-- The rows of some ids are gone, and if changes are captured, news says so. -/
structure Gone (before after : Tables) (gone : List String) : Prop where
  distinct : gone.Nodup
  there : ∀ checkId ∈ gone, (before.row? checkId).isSome = true
  rows : after.rows = before.rows.filter fun row => !gone.contains row.checkId
  captures : after.captures = before.captures
  told : ∃ news, after.feed.entries = before.feed.entries ++ news ∧
    news.map (fun entry => (entry.2.action, entry.2.checkId)) =
      if before.captures then gone.map fun checkId => (.delete, checkId) else []

theorem Gone.refl (tables : Tables) : Gone tables tables [] where
  distinct := List.nodup_nil
  there := by simp
  rows := by simp
  captures := rfl
  told := ⟨[], by simp⟩

theorem Gone.row? {before after : Tables} {gone : List String} (lost : Gone before after gone)
    (checkId : String) :
    after.row? checkId = if checkId ∈ gone then none else before.row? checkId := by
  unfold Tables.row?
  rw [lost.rows, ← List.head?_filter, List.filter_filter, ← List.head?_filter]
  split
  · rename_i left_out
    rw [List.head?_eq_none_iff, List.filter_eq_nil_iff]
    intro row _ both
    rw [Bool.and_eq_true, beq_iff_eq] at both
    obtain ⟨own, kept⟩ := both
    simp [own, left_out] at kept
  · rename_i kept
    congr 1
    apply List.filter_congr
    intro row _
    by_cases own : row.checkId = checkId
    · simp [own, kept]
    · simp [own]

theorem Gone.deleteRow {before after : Tables} {gone : List String} (lost : Gone before after gone)
    (checkId : String) : ∃ more, Gone before (after.deleteRow checkId) more := by
  unfold Tables.deleteRow
  split
  · rename_i there
    have fresh : checkId ∉ gone := fun member => by simp [lost.row?, member] at there
    obtain ⟨news, entries, told⟩ := lost.told
    refine ⟨gone ++ [checkId], ?_, ?_, ?_, ?_, ?_⟩
    · exact lost.distinct.append (List.nodup_singleton _) (List.disjoint_singleton.mpr fresh)
    · intro other member
      rcases List.mem_append.mp member with earlier | last
      · exact lost.there other earlier
      · rw [List.mem_singleton] at last
        subst other
        rwa [lost.row?, if_neg fresh] at there
    · rw [rows_capture, removeRow]
      simp only [lost.rows, List.filter_filter]
      apply List.filter_congr
      intro row _
      by_cases own : row.checkId = checkId <;> simp [own]
    · rw [← lost.captures]
      unfold capture
      split <;> rfl
    · unfold capture
      have same : (after.removeRow checkId).captures = before.captures := lost.captures
      rw [same]
      split
      · rename_i captures
        rw [if_pos captures] at told
        refine ⟨news ++ [(after.feed.nextPosition,
          after.feed.captured after.clock .delete checkId)], ?_, ?_⟩
        · simp only [Feed.record, Feed.publish, removeRow, entries, List.append_assoc]
        · simp [told, Feed.captured]
      · rename_i silent
        rw [if_neg silent] at told
        exact ⟨news, entries, told⟩
  · exact ⟨gone, lost⟩

/-- When the same rows are gone, the news is the same but for its order. -/
theorem Gone.alike {before after other : Tables} {gone lost : List String}
    (first : Gone before after gone) (second : Gone before other lost)
    (same : ∀ checkId, after.row? checkId = other.row? checkId) :
    after.rows = other.rows ∧ gone.Perm lost := by
  have members : ∀ checkId, checkId ∈ gone ↔ checkId ∈ lost := by
    intro checkId
    have row := same checkId
    rw [first.row?, second.row?] at row
    have there := first.there checkId
    have there' := second.there checkId
    by_cases left_out : checkId ∈ gone <;> by_cases left_out' : checkId ∈ lost
    · exact iff_of_true left_out left_out'
    · rw [if_pos left_out, if_neg left_out'] at row
      simp [← row] at there
      exact absurd left_out there
    · rw [if_neg left_out, if_pos left_out'] at row
      simp [row] at there'
      exact absurd left_out' there'
    · exact iff_of_false left_out left_out'
  refine ⟨?_, (List.perm_ext_iff_of_nodup first.distinct second.distinct).mpr members⟩
  rw [first.rows, second.rows]
  apply List.filter_congr
  intro row _
  rw [Bool.eq_iff_iff]
  simp [members]

end Tables

end CheckKeeper.Memory
