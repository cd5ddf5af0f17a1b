import CheckKeeper.Proofs.Synchronizer

namespace CheckKeeper.Sync

open Memory

/-! The job of an id in the place of any other of the id.

What follows is told of all jobs: those of other ids stay where they are, the id has the new job
and no other, and to put it there a second time changes nothing.
-/

variable {checkId name : String} {tables before after : Tables} {job old : Job} {jobs : List Job}

/-- At most one job is bound to an id, its name is not empty, and the name that the id gives is
not that of a job of another id. -/
structure Sole (checkId : String) (tables : Tables) : Prop where
  distinct : (tables.jobs.map (·.name)).Nodup
  single : (tables.jobsOf checkId).length ≤ 1
  named : ∀ job ∈ tables.jobsOf checkId, job.name ≠ ""
  own : ∀ job ∈ tables.jobs, job.name = Job.nameOf checkId → job.checkId = checkId

def withoutJobs (checkId : String) (jobs : List Job) : List Job :=
  jobs.filter (·.checkId != checkId)

/-- The jobs with this one in the place of the one of its name, or at the end, and no other of
its id. -/
def replacing (job : Job) (jobs : List Job) : List Job :=
  (Keyed.put (·.name) job jobs).filter fun old => old.checkId != job.checkId || old.name == job.name

theorem Sole.eq_of_bound (sole : Sole checkId tables) (member : job ∈ tables.jobs)
    (bound : job.checkId = checkId) (other : old ∈ tables.jobs)
    (other_bound : old.checkId = checkId) : old = job := by
  have inside := Tables.mem_jobsOf.mpr ⟨member, bound⟩
  have other_inside := Tables.mem_jobsOf.mpr ⟨other, other_bound⟩
  cases found : tables.jobsOf checkId with
  | nil => simp [found] at inside
  | cons first rest =>
      have alone : rest = [] := by
        have short := sole.single
        rw [found, List.length_cons] at short
        exact List.length_eq_zero_iff.mp (by omega)
      rw [found, alone, List.mem_singleton] at inside other_inside
      rw [inside, other_inside]

/-- The one job of an id is told from all others by its name. -/
theorem Sole.name_iff (sole : Sole checkId tables) (member : job ∈ tables.jobs)
    (bound : job.checkId = checkId) (other : old ∈ tables.jobs) :
    old.name = job.name ↔ old.checkId = checkId := by
  constructor
  · intro same
    rw [List.inj_on_of_nodup_map sole.distinct other member same]
    exact bound
  · intro other_bound
    rw [sole.eq_of_bound member bound other other_bound]

theorem Sole.jobNameOf (sole : Sole checkId tables) (member : job ∈ tables.jobs)
    (bound : job.checkId = checkId) : tables.jobNameOf checkId = some job.name := by
  cases found : tables.jobNameOf checkId with
  | none =>
      have unbound := (tables.jobNameOf_eq_none checkId).mp found
      have inside := Tables.mem_jobsOf.mpr ⟨member, bound⟩
      simp [unbound] at inside
  | some name =>
      obtain ⟨first, inside, rfl, first_bound⟩ := Tables.jobNameOf_eq_some found
      rw [sole.eq_of_bound member bound inside first_bound]

theorem Sole.hasJob (sole : Sole checkId tables) :
    tables.hasJob (Job.nameOf checkId) = true ↔
      tables.jobNameOf checkId = some (Job.nameOf checkId) := by
  simp only [Tables.hasJob, List.any_eq_true, beq_iff_eq]
  constructor
  · intro ⟨job, member, named⟩
    rw [sole.jobNameOf member (sole.own job member named), named]
  · intro found
    obtain ⟨job, member, named, _⟩ := Tables.jobNameOf_eq_some found
    exact ⟨job, member, named⟩

/-- A job was there before if its name is taken, or another one was removed. -/
theorem Sole.replaced_iff (sole : Sole checkId tables) :
    ((tables.jobNameOf checkId).any (· != Job.nameOf checkId) ||
      tables.hasJob (Job.nameOf checkId)) = true ↔ tables.jobsOf checkId ≠ [] := by
  rw [Bool.or_eq_true, sole.hasJob, ne_eq, ← Tables.jobNameOf_eq_none]
  cases tables.jobNameOf checkId with
  | none => simp
  | some old => simp [ne_or_eq]

theorem Sole.congr (sole : Sole checkId before) (same : after.jobs = before.jobs) :
    Sole checkId after := by
  obtain ⟨distinct, single, named, own⟩ := sole
  simp only [Tables.jobsOf, ← same] at distinct single named own
  exact ⟨distinct, single, named, own⟩

theorem withoutJobs_of_none (unbound : tables.jobsOf checkId = []) :
    withoutJobs checkId tables.jobs = tables.jobs := by
  rw [Tables.jobsOf, List.filter_eq_nil_iff] at unbound
  rw [withoutJobs, List.filter_eq_self]
  intro job member
  simpa using unbound job member

theorem withoutJobs_twice (checkId : String) (jobs : List Job) :
    withoutJobs checkId (withoutJobs checkId jobs) = withoutJobs checkId jobs := by
  simp [withoutJobs]

theorem bound_withoutJobs (checkId : String) (jobs : List Job) :
    (withoutJobs checkId jobs).filter (·.checkId == checkId) = [] := by
  simp [withoutJobs, List.filter_filter]

theorem Sole.removeJob (sole : Sole checkId tables) (member : job ∈ tables.jobs)
    (bound : job.checkId = checkId) :
    (tables.removeJob job.name).jobs = withoutJobs checkId tables.jobs := by
  refine List.filter_congr fun old other => ?_
  rw [Bool.eq_iff_iff]
  simp [sole.name_iff member bound other]

theorem Sole.of_withoutJobs (sole : Sole checkId before)
    (left : after.jobs = withoutJobs checkId before.jobs) : Sole checkId after := by
  have unbound : after.jobsOf checkId = [] := by rw [Tables.jobsOf, left, bound_withoutJobs]
  refine ⟨?_, by simp [unbound], by simp [unbound], fun job member named => ?_⟩
  · rw [left]
    exact sole.distinct.sublist (List.filter_sublist.map _)
  · rw [left] at member
    exact sole.own job (List.mem_of_mem_filter member) named

theorem mem_replacing_self (job : Job) (jobs : List Job) : job ∈ replacing job jobs :=
  List.mem_filter.mpr ⟨Keyed.mem_put_self, by simp⟩

theorem mem_replacing (member : old ∈ replacing job jobs) : old = job ∨ old ∈ jobs :=
  Keyed.mem_put (List.mem_of_mem_filter member)

theorem distinct_replacing (distinct : (jobs.map (·.name)).Nodup) (job : Job) :
    ((replacing job jobs).map (·.name)).Nodup :=
  (Keyed.nodup_put distinct).sublist (List.filter_sublist.map _)

theorem replacing_of_replaced (distinct : (jobs.map (·.name)).Nodup) (job : Job) :
    replacing job (replacing job jobs) = replacing job jobs := by
  have there := Keyed.put_of_mem (distinct_replacing distinct job) (mem_replacing_self job jobs)
  rw [replacing, there, replacing, List.filter_filter]
  simp

theorem map_content_replacing (job : Job) (jobs : List Job) :
    (replacing job jobs).map Job.content = replacing job.content (jobs.map Job.content) := by
  have put : (Keyed.put (·.name) job jobs).map Job.content =
      Keyed.put (·.name) job.content (jobs.map Job.content) := Keyed.map_put fun _ => rfl
  rw [replacing, replacing, ← put, List.filter_map]
  rfl

theorem replacing_eq_put (sole : Sole checkId tables) (bound : job.checkId = checkId)
    (same : ∀ name, tables.jobNameOf checkId = some name → name = job.name) :
    replacing job tables.jobs = Keyed.put (·.name) job tables.jobs := by
  rw [replacing, List.filter_eq_self]
  intro other member
  cases Keyed.mem_put member with
  | inl new => simp [new]
  | inr old =>
      by_cases own : other.checkId = checkId
      · have named := same _ (sole.jobNameOf old own)
        simp [named]
      · simp [bound, own]

theorem replacing_eq_filter (sole : Sole checkId tables) (bound : job.checkId = checkId)
    (found : tables.jobNameOf checkId = some name) (other : name ≠ job.name) :
    replacing job tables.jobs = (Keyed.put (·.name) job tables.jobs).filter (·.name != name) := by
  obtain ⟨old, inside, rfl, old_bound⟩ := Tables.jobNameOf_eq_some found
  refine List.filter_congr fun third member => ?_
  cases Keyed.mem_put member with
  | inl new => simp [new, other.symm]
  | inr kept =>
      have same := sole.name_iff inside old_bound kept
      rw [Bool.eq_iff_iff]
      simp only [bound, Bool.or_eq_true, bne_iff_ne, ne_eq, beq_iff_eq, same]
      constructor
      · intro either own
        rw [← same] at own
        cases either with
        | inl apart => exact apart (same.mp own)
        | inr named => exact other (own.symm.trans named)
      · exact Or.inl

theorem withoutJobs_replacing (sole : Sole checkId tables) (bound : job.checkId = checkId)
    (named : job.name = Job.nameOf checkId) :
    withoutJobs checkId (replacing job tables.jobs) = withoutJobs checkId tables.jobs := by
  have unseen : withoutJobs checkId (Keyed.put (·.name) job tables.jobs) =
      withoutJobs checkId tables.jobs := by
    refine Keyed.filter_put_of_unseen (by simp [bound]) fun old member same => ?_
    simp [sole.own old member (same.trans named)]
  rw [← unseen, withoutJobs, replacing, List.filter_filter]
  refine List.filter_congr fun old _ => ?_
  by_cases own : old.checkId = checkId <;> simp [own, bound]

theorem bound_replacing (job : Job) (distinct : (jobs.map (·.name)).Nodup)
    (bound : job.checkId = checkId) :
    (replacing job jobs).filter (·.checkId == checkId) = [job] := by
  have own : ((Keyed.put (·.name) job jobs).filter fun old =>
      old.checkId == checkId && old.name == job.name) = [job] :=
    Keyed.filter_put_of_own distinct (by simp [bound]) fun old _ seen =>
      beq_iff_eq.mp (Bool.and_eq_true_iff.mp seen).2
  rw [← own, replacing, List.filter_filter]
  refine List.filter_congr fun old _ => ?_
  rw [Bool.eq_iff_iff]
  simp only [bound, Bool.and_eq_true, Bool.or_eq_true, beq_iff_eq, bne_iff_ne]
  tauto

theorem Sole.of_replacing (sole : Sole checkId before) (job : Job)
    (bound : job.checkId = checkId) (named : job.name = Job.nameOf checkId)
    (left : after.jobs = replacing job before.jobs) : Sole checkId after := by
  have alone : after.jobsOf checkId = [job] := by
    rw [Tables.jobsOf, left, bound_replacing job sole.distinct bound]
  refine ⟨?_, by simp [alone], ?_, fun old member same => ?_⟩
  · rw [left]
    exact distinct_replacing sole.distinct job
  · simp [alone, named, nameOf_ne_empty]
  · rw [left] at member
    cases mem_replacing member with
    | inl new => rw [new, bound]
    | inr kept => exact sole.own old kept same

end CheckKeeper.Sync
