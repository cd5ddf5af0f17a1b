import Mathlib.Logic.Relation
import CheckKeeper.Proofs.Tables

namespace CheckKeeper.Memory.Tables

/-! What actions on some ids may do to the tables, and what they leave alone. -/

variable {before middle after : Tables} {ids chosen : List String} {checkId other : String}

/-- A row calls for jobs of its kind, as long as it is active. -/
def CallsFor (row : Definition) (job : Job) : Prop :=
  row.active = true ∧ row.kind = .ok job.kind

/-- One change of the tables on behalf of an id: its row goes, a job that is bound to
it goes, or a job that its row calls for is stored. -/
inductive Edit (checkId : String) : Tables → Tables → Prop
  | deleteRow (tables : Tables) : Edit checkId tables (tables.deleteRow checkId)
  | removeJob {tables : Tables} {job : Job} (member : job ∈ tables.jobs)
      (bound : job.checkId = checkId) : Edit checkId tables (tables.removeJob job.name)
  | setJob {tables : Tables} {job : Job} {row : Definition} (there : tables.row? checkId = some row)
      (called_for : CallsFor row job) (bound : job.checkId = checkId) (named : job.name = Job.nameOf checkId) :
      Edit checkId tables (tables.setJob job)

/-- Changes on behalf of some ids, one after another. -/
abbrev Course (chosen : List String) : Tables → Tables → Prop :=
  Relation.ReflTransGen fun before after => ∃ checkId ∈ chosen, Edit checkId before after

/-- An id has the same row and no other jobs than before; where jobs have names of their
own, it has the same jobs. -/
structure Alike (ids : List String) (checkId : String) (before after : Tables) : Prop where
  row : after.row? checkId = before.row? checkId
  fewer : ∀ job ∈ after.jobs, job.checkId = checkId → job ∈ before.jobs
  jobs : Apart ids → after.jobsOf checkId = before.jobsOf checkId

def about (checkId : String) (entries : List (Nat × ChangeEvent)) : List (Nat × ChangeEvent) :=
  entries.filter (·.2.checkId == checkId)

/-- The row of an id is there as before and no news is about it, or it is gone and one
piece of news is about it, which says so. -/
def ToldOf (before after : Tables) (news : List (Nat × ChangeEvent)) (checkId : String) : Prop :=
  (after.row? checkId = before.row? checkId ∧ about checkId news = []) ∨
    ((before.row? checkId).isSome = true ∧ after.row? checkId = none ∧
      ∃ entry, about checkId news = [entry] ∧ entry.2.action = .delete)

/-- What is pending has only got news behind it, and these tell which rows are gone. -/
def Told (before after : Tables) : Prop :=
  ∃ news, after.feed.pending = before.feed.pending ++ news ∧ ∀ checkId, ToldOf before after news checkId

/-- Every event carries its position as its number. -/
def Sequenced (tables : Tables) : Prop :=
  ∀ entry ∈ tables.feed.entries, entry.2.seq = some (entry.1 : Int)

theorem Sequenced.capture {tables : Tables} (sequenced : tables.Sequenced) (action : ChangeAction)
    (checkId : String) : (tables.capture action checkId).Sequenced := by
  unfold Tables.capture
  split
  · intro entry member
    rcases List.mem_append.mp member with earlier | last
    · exact sequenced entry earlier
    · rw [List.mem_singleton] at last
      subst entry
      rfl
  · exact sequenced

theorem Edit.tidy (edit : Edit checkId before after) (tidy : before.Tidy ids) :
    after.Tidy ids := by
  cases edit with
  | deleteRow => exact tidy.deleteRow checkId
  | removeJob => exact tidy.removeJob _
  | setJob there _ bound named =>
      exact tidy.setJob (bound ▸ tidy.id_of_row? (by rw [there]; rfl)) (bound ▸ named)

theorem Alike.refl (ids : List String) (checkId : String) (tables : Tables) :
    Alike ids checkId tables tables :=
  ⟨rfl, fun _ member _ => member, fun _ => rfl⟩

theorem Alike.trans (first : Alike ids checkId before middle) (second : Alike ids checkId middle after) :
    Alike ids checkId before after :=
  ⟨second.row.trans first.row,
    fun job member bound => first.fewer job (second.fewer job member bound) bound,
    fun apart => (second.jobs apart).trans (first.jobs apart)⟩

theorem Edit.rows_subset (edit : Edit checkId before after) : after.rows ⊆ before.rows := by
  cases edit with
  | deleteRow => exact rows_deleteRow_subset before checkId
  | removeJob => exact List.Subset.refl _
  | setJob => exact List.Subset.refl _

theorem Edit.alike (edit : Edit checkId before after) (tidy : before.Tidy ids)
    (different : other ≠ checkId) : Alike ids other before after := by
  cases edit with
  | deleteRow =>
      exact ⟨row?_deleteRow_other different, fun job member _ => by rwa [jobs_deleteRow] at member,
        fun _ => by simp only [jobsOf, jobs_deleteRow]⟩
  | removeJob member bound =>
      subst bound
      exact ⟨rfl, fun job member _ => List.mem_of_mem_filter member,
        fun _ => tidy.jobsOf_removeJob_other member different⟩
  | setJob there _ bound named =>
      subst bound
      refine ⟨rfl, fun job member other_bound => ?_, fun apart =>
        tidy.jobsOf_setJob_other apart (tidy.id_of_row? (by rw [there]; rfl)) named different⟩
      rw [setJob_jobs] at member
      rcases Keyed.mem_put member with rfl | old
      · exact absurd other_bound.symm different
      · exact old

theorem Told.refl (tables : Tables) : Told tables tables :=
  ⟨[], (List.append_nil _).symm, fun _ => Or.inl ⟨rfl, rfl⟩⟩

theorem ToldOf.trans {news later : List (Nat × ChangeEvent)} (first : ToldOf before middle news checkId)
    (second : ToldOf middle after later checkId) : ToldOf before after (news ++ later) checkId := by
  unfold ToldOf about at *
  rw [List.filter_append]
  rcases first with ⟨row, none_new⟩ | ⟨there, gone, entry, told, deleted⟩
  · rw [row] at second
    rwa [none_new, List.nil_append]
  · rcases second with ⟨row, none_new⟩ | ⟨there', _⟩
    · exact Or.inr ⟨there, row.trans gone, entry, by rw [told, none_new]; rfl, deleted⟩
    · simp [gone] at there'

theorem Told.trans (first : Told before middle) (second : Told middle after) : Told before after := by
  obtain ⟨news, pending, told⟩ := first
  obtain ⟨later, pending', told'⟩ := second
  refine ⟨news ++ later, ?_, fun checkId => (told checkId).trans (told' checkId)⟩
  rw [pending', pending, List.append_assoc]

theorem Edit.told (edit : Edit checkId before after) (tidy : before.Tidy ids) :
    Told before after := by
  cases edit with
  | deleteRow =>
      by_cases there : (before.row? checkId).isSome = true
      · refine ⟨_, tidy.deleteRow_pending there, fun other => ?_⟩
        by_cases same : other = checkId
        · subst other
          have told : about checkId [(before.feed.nextPosition,
              before.feed.captured before.clock .delete checkId)] = [_] :=
            List.filter_cons_of_pos (by simp [Feed.captured])
          exact Or.inr ⟨there, row?_deleteRow_self before checkId, _, told, rfl⟩
        · exact Or.inl ⟨row?_deleteRow_other same, by simp [about, Feed.captured, Ne.symm same]⟩
      · rw [deleteRow_of_none (by simpa using there)]
        exact Told.refl before
  | removeJob => exact Told.refl before
  | setJob => exact Told.refl before

theorem Edit.sequenced (edit : Edit checkId before after) (sequenced : before.Sequenced) :
    after.Sequenced := by
  cases edit with
  | deleteRow =>
      unfold Tables.deleteRow
      split
      · have removed : (before.removeRow checkId).Sequenced := sequenced
        exact removed.capture .delete checkId
      · exact sequenced
  | removeJob => exact sequenced
  | setJob => exact sequenced

theorem Course.tidy (course : Course chosen before after) (tidy : before.Tidy ids) :
    after.Tidy ids := by
  induction course with
  | refl => exact tidy
  | tail _ step ih =>
      obtain ⟨checkId, _, edit⟩ := step
      exact edit.tidy ih

theorem Course.alike (course : Course chosen before after) (tidy : before.Tidy ids)
    (left_out : other ∉ chosen) : Alike ids other before after := by
  induction course with
  | refl => exact Alike.refl ids other before
  | tail earlier step ih =>
      obtain ⟨checkId, member, edit⟩ := step
      have different : other ≠ checkId := fun same => left_out (same ▸ member)
      exact ih.trans (edit.alike (Course.tidy earlier tidy) different)

theorem Course.told (course : Course chosen before after) (tidy : before.Tidy ids) :
    Told before after := by
  induction course with
  | refl => exact Told.refl before
  | tail earlier step ih =>
      obtain ⟨checkId, _, edit⟩ := step
      exact ih.trans (edit.told (Course.tidy earlier tidy))

theorem Course.row?_none (course : Course chosen before after) (tidy : before.Tidy ids)
    (gone : before.row? checkId = none) : after.row? checkId = none := by
  obtain ⟨news, _, told⟩ := course.told tidy
  rcases told checkId with ⟨row, _⟩ | ⟨_, gone', _⟩
  · exact row.trans gone
  · exact gone'

/-- A job that was not there before is one that the row of its id calls for. -/
theorem Course.jobs (course : Course chosen before after) (tidy : before.Tidy ids) {job : Job}
    (member : job ∈ after.jobs) :
    job ∈ before.jobs ∨ ∃ row, before.row? job.checkId = some row ∧ CallsFor row job := by
  induction course with
  | refl => exact Or.inl member
  | @tail middle after earlier step ih =>
      obtain ⟨checkId, _, edit⟩ := step
      cases edit with
      | deleteRow =>
          rw [jobs_deleteRow] at member
          exact ih member
      | removeJob => exact ih (List.mem_of_mem_filter member)
      | setJob there called_for bound =>
          rw [setJob_jobs] at member
          rcases Keyed.mem_put member with rfl | old
          · -- Rows only go, so the row was there from the start.
            obtain ⟨_, _, told⟩ := Course.told earlier tidy
            have from_start : before.row? checkId = middle.row? checkId := by
              rcases told checkId with ⟨same, _⟩ | ⟨_, gone, _⟩
              · exact same.symm
              · rw [gone] at there
                cases there
            exact Or.inr ⟨_, bound ▸ from_start.trans there, called_for⟩
          · exact ih old

theorem Course.sequenced (course : Course chosen before after) (sequenced : before.Sequenced) :
    after.Sequenced := by
  induction course with
  | refl => exact sequenced
  | tail _ step ih =>
      obtain ⟨checkId, _, edit⟩ := step
      exact edit.sequenced ih

theorem Course.rows_subset (course : Course chosen before after) : after.rows ⊆ before.rows := by
  induction course with
  | refl => exact List.Subset.refl _
  | tail _ step ih =>
      obtain ⟨checkId, _, edit⟩ := step
      exact List.Subset.trans edit.rows_subset ih

theorem Course.mono {more : List String} (course : Course chosen before after)
    (subset : chosen ⊆ more) : Course more before after := by
  induction course with
  | refl => exact .refl
  | tail _ step ih =>
      obtain ⟨checkId, member, edit⟩ := step
      exact ih.tail ⟨checkId, subset member, edit⟩

end CheckKeeper.Memory.Tables
