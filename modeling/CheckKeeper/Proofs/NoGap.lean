import CheckKeeper.Proofs.Drift
import CheckKeeper.Proofs.Effect

namespace CheckKeeper

/-! No gap while a job is replaced.

The new job is stored before the old one is removed, and it is never removed itself.  So at every
moment of the call an id that had a job has one, whichever calls fail, and whether they fail
before or after they are carried out.
-/

namespace Program

variable {I : Interface} {α σ : Type} {handle : Handler I σ} {good : I.Call → σ → Prop}
  {ending : Except Failure α → σ → Prop} {program : Program I α} {s : σ} {holds : σ → Prop}

/-- The states of a run: before each of its calls, and at its end. -/
def moments (handle : Handler I σ) (program : Program I α) (s : σ) : List σ :=
  (program.visits handle s).map (·.2) ++ [(program.run handle s).2]

theorem moments_done (value : α) : (Program.done (I := I) value).moments handle s = [s] :=
  rfl

theorem moments_fail (failure : Failure) :
    (Program.fail (I := I) (α := α) failure).moments handle s = [s] :=
  rfl

theorem moments_call {c : I.Call} {rest : Except Failure (I.Answer c) → Program I α} :
    (Program.call c rest).moments handle s =
      s :: (rest (handle c s).1).moments handle (handle c s).2 :=
  rfl

theorem Observes.moments (observes : program.Observes handle good ending s)
    (during : ∀ c s, good c s → holds s) (after : ∀ found s, ending found s → holds s) :
    ∀ moment ∈ program.moments handle s, holds moment := by
  intro moment member
  cases List.mem_append.mp member with
  | inl visited =>
      obtain ⟨visit, made, rfl⟩ := List.mem_map.mp visited
      exact during _ _ (observes.visits visit made)
  | inr last =>
      rw [List.mem_singleton.mp last]
      exact after _ _ observes.run

/-- What each call keeps holds from one moment on, once it holds. -/
theorem Observes.pairwise (holds : σ → Prop) (observes : program.Observes handle good ending s)
    (kept : ∀ c s, good c s → holds s → holds (handle c s).2) :
    (∀ moment ∈ program.moments handle s, holds s → holds moment) ∧
      (program.moments handle s).Pairwise fun earlier later => holds earlier → holds later := by
  induction program generalizing s with
  | done value => simp [moments_done]
  | fail failure => simp [moments_fail]
  | call c rest ih =>
      obtain ⟨fromNext, laterPairs⟩ := ih _ observes.2
      have step := kept c s observes.1
      have later : ∀ moment ∈ (rest (handle c s).1).moments handle (handle c s).2,
          holds s → holds moment := fun moment member now => fromNext moment member (step now)
      rw [moments_call]
      refine ⟨fun moment member now => ?_, List.pairwise_cons.mpr ⟨later, laterPairs⟩⟩
      cases List.mem_cons.mp member with
      | inl first => rwa [first]
      | inr behind => exact later moment behind now

end Program

namespace Sync

open Memory Program

variable {α β : Type} {resultsTable : Value} {checkId name : String} {tables : Tables}
  {trial : Trial} {row : Definition} {check : CompiledCheck}

theorem Trial.leaves (trial : Trial) (c : Service.Call) :
    (Trial.handle c trial).2.base = trial.base ∨
      (Trial.handle c trial).2.base = (Memory.handle c trial.base).2 := by
  have turn := trial.turn c
  generalize (Trial.handle c trial).2.base = after at turn ⊢
  generalize (Trial.handle c trial).1 = answer at turn
  cases turn with
  | carried => exact .inr rfl
  | early => exact .inl rfl
  | late => exact .inr rfl

/-- A call fails with its state as before or as after, or the program goes on. -/
theorem observes_trial {c : Service.Call} {next : Service.Answer c → Work β}
    {good : Service.Call → Trial → Prop} {left : State → Prop} (made : good c trial)
    (early : left trial.base) (late : left (Memory.handle c trial.base).2)
    (rest : ∀ value after, (Memory.handle c trial.base).1 = .ok value →
      after.base = (Memory.handle c trial.base).2 →
      (next value).Observes Trial.handle good (fun _ last => left last.base) after) :
    (Program.perform (I := Service.interface) c >>= next).Observes Trial.handle good
      (fun _ last => left last.base) trial := by
  apply observes_call made
  have turn := trial.turn c
  generalize Trial.handle c trial = ran at turn ⊢
  obtain ⟨answer, base, fate⟩ := ran
  cases turn with
  | early => exact early
  | late => exact late
  | carried =>
      cases answered : (Memory.handle c trial.base).1 with
      | error failure => exact late
      | ok value => exact rest value _ answered rfl

/-- The job of a check is there, whenever it was stored. -/
def Stands (check : CompiledCheck) (tables : Tables) : Prop :=
  ∃ job ∈ tables.jobs, job.content = check.toJob

theorem Stands.bound (stands : Stands check tables) : tables.jobsOf check.checkId ≠ [] := by
  obtain ⟨job, member, same⟩ := stands
  have about : job.checkId = check.checkId := congrArg Job.checkId same
  exact List.ne_nil_of_mem (Memory.Tables.mem_jobsOf.mpr ⟨member, about⟩)

theorem stands_setJob (check : CompiledCheck) (tables : Tables) :
    Stands check (tables.setJob check.toJob) := by
  refine ⟨tables.stored check.toJob, ?_, content_stored tables check⟩
  rw [Tables.setJob_jobs]
  exact Keyed.mem_put_self

theorem Stands.removeJob (stands : Stands check tables) (other : name ≠ check.jobName) :
    Stands check (tables.removeJob name) := by
  obtain ⟨job, member, same⟩ := stands
  have named : job.name = check.jobName := congrArg Job.name same
  refine ⟨job, List.mem_filter.mpr ⟨member, ?_⟩, same⟩
  simpa [named] using other.symm

/-- A call is made while a job is bound to the id, and spares the job that is asked for. -/
structure Safe (checkId : String) (asked : CompiledCheck → Prop) (c : Service.Call)
    (trial : Trial) : Prop where
  bound : trial.base.tables.jobsOf checkId ≠ []
  spares : ∀ check, asked check → Stands check trial.base.tables →
    Stands check (Trial.handle c trial).2.base.tables

/-- How a call for an id may be left. -/
def Bound (checkId : String) (s : State) : Prop :=
  s.tables.jobsOf checkId ≠ []

variable {asked : CompiledCheck → Prop}

theorem safe_of_kept {c : Service.Call} (bound : Bound checkId trial.base)
    (kept : ∀ check, asked check → Stands check trial.base.tables →
      Stands check (Memory.handle c trial.base).2.tables) :
    Safe checkId asked c trial := by
  refine ⟨bound, fun check asks stands => ?_⟩
  cases Trial.leaves trial c with
  | inl same => rwa [same]
  | inr done =>
      rw [done]
      exact kept check asks stands

/-- Work on an id that makes safe calls only, however they turn out, and leaves it bound. -/
def RunsSafe (checkId : String) (asked : CompiledCheck → Prop) (work : Work α) (trial : Trial) :
    Prop :=
  work.Observes Trial.handle (Safe checkId asked) (fun _ last => Bound checkId last.base) trial

theorem note_safe {level : LogLevel} {text : String} {next : Unit → Work β}
    (bound : Bound checkId trial.base)
    (rest : ∀ after, after.base.tables = trial.base.tables →
      RunsSafe checkId asked (next ()) after) :
    RunsSafe checkId asked (Work.note level text >>= next) trial :=
  observes_trial (safe_of_kept bound fun _ _ stands => stands) bound bound
    fun _ after _ same => rest after (by rw [same]; rfl)

/-- An older job is removed when the new one stands, which has another name. -/
theorem supersede_safe (about : check.checkId = checkId)
    (only : ∀ other, asked other → other = check) (stands : Stands check trial.base.tables)
    (existing : Option String) {next : Bool → Work β}
    (rest : ∀ superseded after, Stands check after.base.tables →
      RunsSafe checkId asked (next superseded) after) :
    RunsSafe checkId asked (supersede checkId existing check.jobName >>= next) trial := by
  have bound : Bound checkId trial.base := about ▸ stands.bound
  unfold supersede
  cases givenName existing with
  | none => exact rest false trial stands
  | some old =>
      by_cases same : old = check.jobName
      · simp only [same, if_true]
        exact rest false trial stands
      · simp only [same, if_false]
        have spared := stands.removeJob same
        change (Program.bind (Program.bind (Work.deleteJob old) _) next).Observes _ _ _ _
        rw [bind_bind]
        refine observes_trial (safe_of_kept bound fun other asks _ => ?_) bound
          (about ▸ spared.bound) ?_
        · rw [only other asks]
          exact spared
        · intro _ removed _ left
          have stands_now : Stands check removed.base.tables := by
            rw [left]
            exact spared
          change (Program.bind (Program.bind (Work.note _ _) _) next).Observes _ _ _ _
          rw [bind_bind]
          refine note_safe (about ▸ stands_now.bound) fun after still => ?_
          exact rest true after (by rwa [still])

theorem schedule_safe (about : check.checkId = checkId)
    (only : ∀ other, asked other → other = check) (bound : Bound checkId trial.base)
    (existing : Option String) :
    RunsSafe checkId asked (schedule checkId check existing) trial := by
  have stands := stands_setJob check trial.base.tables
  refine observes_trial (safe_of_kept bound fun other asks _ => ?_) bound (about ▸ stands.bound) ?_
  · rw [only other asks]
    exact stands
  · intro replaced stored _ same
    have stands_now : Stands check stored.base.tables := by
      rw [same]
      exact stands
    refine supersede_safe about only stands_now existing fun superseded after stands => ?_
    refine note_safe (about ▸ stands.bound) fun last still => ?_
    have kept : Stands check last.base.tables := by rwa [still]
    exact about ▸ kept.bound

/-- The row of an id asks for a job, or for nothing to be done. -/
def Retains (resultsTable : Value) (row : Definition) : Prop :=
  (row.active = true ∧ ∃ check message,
      Compile.compile row resultsTable = .ok (.valid check message)) ∨
    row.kind = .ok .unsupported

def Asked (resultsTable : Value) (row : Definition) (check : CompiledCheck) : Prop :=
  ∃ message, Compile.compile row resultsTable = .ok (.valid check message)

theorem createOrReplace_safe (bound : Bound checkId trial.base)
    (there : trial.base.tables.row? checkId = some row) (retains : Retains resultsTable row) :
    RunsSafe checkId (Asked resultsTable row) (createOrReplace resultsTable checkId) trial := by
  change (Program.bind (Program.bind (Work.getDefinition checkId) _) _).Observes _ _ _ _
  rw [bind_bind]
  refine observes_trial (safe_of_kept bound fun _ _ stands => stands) bound bound ?_
  intro found read told same
  have still : Bound checkId read.base := by
    rw [same]
    exact bound
  cases told.symm.trans (congrArg Except.ok there)
  dsimp only
  cases compiled : Compile.compile row resultsTable with
  | error failure => exact still
  | ok verdict =>
      obtain ⟨kind, parsed⟩ := Compile.kind_of_compile compiled
      rw [parsed]
      cases verdict with
      | invalid about reason message =>
          obtain ⟨_, check, message, valid⟩ | unsupported := retains
          · rw [compiled] at valid
            cases valid
          · obtain ⟨_, _, same⟩ := reason_of_unsupported unsupported compiled
            cases same
            change RunsSafe checkId _ (applyInvalid checkId .unsupportedCheckType message) read
            rw [applyInvalid, if_pos rfl]
            refine note_safe still fun after unchanged => ?_
            show after.base.tables.jobsOf checkId ≠ []
            rwa [unchanged]
      | valid check message =>
          obtain ⟨active, _⟩ | unsupported := retains
          · have about : check.checkId = checkId :=
              (Compile.isOf_compile compiled).1.trans (Tables.row?_checkId there)
            have only : ∀ other, Asked resultsTable row other → other = check := by
              intro other ⟨text, valid⟩
              rw [compiled] at valid
              cases valid
              rfl
            refine observes_trial (safe_of_kept still fun _ _ stands => stands) still still ?_
            intro existing sought _ unchanged
            have bound_now : Bound checkId sought.base := by
              rw [unchanged]
              exact still
            simp only [active, if_true]
            exact schedule_safe about only bound_now existing
          · obtain ⟨_, _, same⟩ := reason_of_unsupported unsupported compiled
            cases same

/-- At every moment of the call a job is bound to the id, and once the job of the check is there,
it stays. -/
theorem createOrReplace_no_gap (bound : trial.base.tables.jobsOf checkId ≠ [])
    (there : trial.base.tables.row? checkId = some row) (retains : Retains resultsTable row) :
    let moments := (createOrReplace resultsTable checkId).moments Trial.handle trial
    (∀ moment ∈ moments, moment.base.tables.jobsOf checkId ≠ []) ∧
      ∀ check message, Compile.compile row resultsTable = .ok (.valid check message) →
        moments.Pairwise fun earlier later =>
          Stands check earlier.base.tables → Stands check later.base.tables := by
  intro moments
  have safe := createOrReplace_safe bound there retains
  refine ⟨safe.moments (fun _ _ made => made.bound) fun _ _ left => left, ?_⟩
  intro check message compiled
  exact (safe.pairwise (fun moment => Stands check moment.base.tables)
    fun _ _ made => made.spares check ⟨message, compiled⟩).2

/-- The old job cannot be removed, so at the end there are two. -/
theorem inherited_no_gap :
    let moments := (createOrReplace (.text "results") "a").moments Trial.handle
      (inherited (failsToRemove (.scheduler "down")))
    moments.map (fun moment => (moment.base.tables.jobsOf "a").map (·.name)) =
        [["old"], ["old"], ["old"], ["old", "dq_task_a"], ["old", "dq_task_a"]] ∧
      ∀ moment ∈ moments, moment.base.tables.jobsOf "a" ≠ [] := by
  have valid : ∃ check message,
      Compile.compile sample (.text "results") = .ok (.valid check message) :=
    Compile.valid_of_check? (by decide +kernel)
  have bound : ((inherited (failsToRemove (.scheduler "down"))).base.tables.jobsOf "a") ≠ [] := by
    decide
  have there : (inherited (failsToRemove (.scheduler "down"))).base.tables.row? "a" =
      some sample := rfl
  refine ⟨by decide +kernel, ?_⟩
  exact (createOrReplace_no_gap bound there (Or.inl ⟨by decide, valid⟩)).1

end Sync

end CheckKeeper
