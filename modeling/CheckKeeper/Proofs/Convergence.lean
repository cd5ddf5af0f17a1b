import CheckKeeper.Proofs.Staleness
import CheckKeeper.Proofs.Steady

namespace CheckKeeper.Sync

open Memory Program

/-! After any history, two passes to which nothing happens bring jobs and rows together. -/

variable {ids : List String} {resultsTable : Value} {checkId : String} {s : State} {trial : Trial}
  {deed : Deed} {deeds : List (Deed × Fate)}

/-- What a history may hold: passes over all that is pending, and any deeds that meet any
fate; where an id is reconciled alone, the fate is sparing. -/
def Permitted : Deed × Fate → Prop
  | (.publish _, _) => False
  | (.reconcileOne _, fate) => fate.Sparing
  | (.reconcileBatch limit, _) => limit = none
  | _ => True

theorem Steady.carryOut (steady : Steady ids resultsTable trial.base) (apart : Tables.Apart ids)
    (brings : ∀ d, deed.row? = some d → d.checkId ∈ ids ∧ Supported resultsTable d)
    (permitted : Permitted (deed, trial.fate)) :
    Steady ids resultsTable (deed.carryOut resultsTable trial) := by
  cases deed with
  | tick now => exact steady.tick now
  | publish event => exact permitted.elim
  | upsert d =>
      obtain ⟨known, supported⟩ := brings d rfl
      rcases carryOut_upsert d trial with refused | ⟨createdAt, updatedAt, action, other, stored⟩
      · rw [refused]
        exact steady
      · have known' : ({ d with createdAt, updatedAt } : Definition).checkId ∈ ids := known
        rw [stored]
        exact steady.upserted known' (supported_unstamped _ d createdAt updatedAt supported) other
  | delete checkId =>
      rcases carryOut_delete checkId trial with unheard | deleted
      · rw [unheard]
        exact steady
      · rw [deleted]
        exact steady.deleted apart checkId
  | reconcileOne checkId => exact steady.reconcileOne apart permitted checkId
  | reconcileBatch limit =>
      cases permitted
      exact steady.reconcileBatch apart

theorem Steady.history (steady : Steady ids resultsTable s) (apart : Tables.Apart ids)
    (brings : ∀ d ∈ upserts deeds, d.checkId ∈ ids ∧ Supported resultsTable d)
    (permitted : ∀ deed ∈ deeds, Permitted deed) :
    Steady ids resultsTable (history resultsTable s deeds) := by
  induction deeds generalizing s with
  | nil => exact steady
  | cons deed later ih =>
      apply ih
      · exact steady.carryOut apart (fun d brought => brings d (by simp [upserts, brought]))
          (permitted deed List.mem_cons_self)
      · exact fun d member => brings d (upserts_subset_cons deed later member)
      · exact fun deed member => permitted deed (List.mem_cons_of_mem _ member)

theorem Steady.finalAction (steady : Steady ids resultsTable s) (checkId : String) :
    ChangeEvent.finalAction checkId (s.tables.feed.pending.map (·.2)) =
      lastPending s.tables checkId := by
  unfold ChangeEvent.finalAction lastPending
  rw [ChangeEvent.inOrder_of_numbered]
  rw [List.pairwise_map]
  refine steady.tidy.feed.pending_ordered.imp_of_mem ?_
  intro a b first second before
  rw [steady.sequenced a (s.tables.feed.pending_sublist.mem first),
    steady.sequenced b (s.tables.feed.pending_sublist.mem second)]
  simp only [Option.getD_some]
  omega

theorem Steady.not_stale (steady : Steady ids resultsTable s)
    (waiting : lastPending s.tables checkId ≠ none) :
    isStale s.tables (s.tables.feed.pending.map (·.2)) checkId = false := by
  obtain ⟨action, last⟩ := Option.ne_none_iff_exists'.mp waiting
  rw [Bool.eq_false_iff, ne_eq, isStale_iff, steady.finalAction, last]
  rintro ⟨gone, other⟩
  exact other (congrArg some ((steady.agrees checkId action last).mpr gone))

theorem lastPending_of_mem {entry : Nat × ChangeEvent} (member : entry ∈ s.tables.feed.pending) :
    lastPending s.tables entry.2.checkId ≠ none := fun none_pending =>
  ChangeEvent.lastAction_eq_none.mp none_pending entry.2 (List.mem_map_of_mem member) rfl

/-- What is pending after a calm pass is about rows that the pass has removed. -/
theorem Steady.calmPass (steady : Steady ids resultsTable s) (apart : Tables.Apart ids) :
    let after := (calmPass resultsTable none s).2
    (∃ outcomes, (Sync.calmPass resultsTable none s).1 = .ok outcomes) ∧
      Steady ids resultsTable after ∧
      ∀ entry ∈ after.tables.feed.pending, after.tables.row? entry.2.checkId = none ∧
        (s.tables.row? entry.2.checkId).isSome = true ∧
        lastPending s.tables entry.2.checkId ≠ none := by
  intro after
  have passed := calmPass_passed resultsTable none steady.toOrderly
  have at_rest := (run_of_ends_nothing
    (reconcileBatch_ends ⟨resultsTable, none⟩ quiet_nothing steady.tidy steady.at_rest)).1
  obtain ⟨outcomes, news, answered, told, _, _, _, pending⟩ := passed.answers steady.tidy
    (fun row member => (steady.rows row member).compiles) (List.append_nil _).symm
  refine ⟨⟨outcomes, answered⟩, steady.passed apart passed at_rest, ?_⟩
  have all_done : (s.tables.feed.pending.filter fun entry =>
      isStale s.tables (s.tables.feed.pending.map (·.2)) entry.2.checkId) = [] := by
    rw [List.filter_eq_nil_iff]
    intro entry member
    rw [steady.not_stale (lastPending_of_mem member)]
    exact Bool.false_ne_true
  have news_only : after.tables.feed.pending = news := by
    rw [pending]
    exact (congrArg (· ++ ([] ++ news)) all_done).trans rfl
  intro entry member
  rw [news_only] at member
  rcases told entry.2.checkId with ⟨_, none_new⟩ | ⟨there, gone, _⟩
  · have about : entry ∈ Tables.about entry.2.checkId news :=
      List.mem_filter.mpr ⟨member, beq_self_eq_true _⟩
    rw [none_new] at about
    cases about
  · refine ⟨gone, there, fun none_pending => ?_⟩
    have left_out : entry.2.checkId ∉ (asked s.tables.feed.pending).map (·.1) := fun asked_for =>
      pending_of_asked asked_for none_pending
    rw [← (passed.alike steady.tidy left_out).row, gone] at there
    cases there

theorem Settled.of_row {tables : Tables} {row : Definition}
    (settled : Settled resultsTable tables checkId) (there : tables.row? checkId = some row) :
    ∃ check message, Compile.compile row resultsTable = .ok (.valid check message) ∧
      (tables.jobsOf checkId).map Job.content = wanted row check := by
  rcases settled with absent | ⟨row', check, message, there', valid, jobs⟩
  · rw [absent.row] at there
    cases there
  · rw [there, Option.some.injEq] at there'
    subst row'
    exact ⟨check, message, valid, jobs⟩

theorem Settled.active_of_job {tables : Tables} {job : Job}
    (settled : Settled resultsTable tables job.checkId) (member : job ∈ tables.jobs) :
    ∃ row ∈ tables.rows, row.checkId = job.checkId ∧ row.active = true := by
  have bound : job ∈ tables.jobsOf job.checkId :=
    List.mem_filter.mpr ⟨member, beq_self_eq_true _⟩
  rcases settled with absent | ⟨row, check, message, there, _, jobs⟩
  · rw [absent.jobs] at bound
    cases bound
  · refine ⟨row, Tables.mem_of_row? there, Tables.row?_checkId there, ?_⟩
    by_contra inactive
    rw [wanted, if_neg inactive, List.map_eq_nil_iff] at jobs
    rw [jobs] at bound
    cases bound

theorem supported_of_kind {d : Definition} (kind : d.kind.toOption ≠ some .unsupported)
    (compiles : Compiles resultsTable d) : Supported resultsTable d := by
  cases compiled : Compile.compile d resultsTable with
  | error failure =>
      rw [Compiles, compiled] at compiles
      cases compiles
  | ok verdict =>
      obtain ⟨found, parsed⟩ := Compile.kind_of_compile compiled
      refine ⟨verdict, compiled, ?_⟩
      cases verdict with
      | valid check message => rfl
      | invalid about reason message =>
          have other : found ≠ .unsupported := fun same => kind (by rw [parsed, same]; rfl)
          simpa [Verdict.isUnsupported, Verdict.reason?] using
            Compile.supported_of_compile compiled parsed other

/-- Whatever has happened to checks of supported kinds, two calm passes leave nothing
pending, no row that makes no check, one job for each active row, and no other job. -/
theorem history_converges (resultsTable : Value) (clock : Calendar.Moment)
    (deeds : List (Deed × Fate)) (apart : Tables.Apart (upsertedIds deeds))
    (kinds : ∀ d ∈ upserts deeds, d.kind.toOption ≠ some .unsupported)
    (compiles : ∀ d ∈ upserts deeds, Compiles resultsTable d)
    (permitted : ∀ deed ∈ deeds, Permitted deed) :
    let first := calmPass resultsTable none (history resultsTable (.start clock true) deeds)
    let second := calmPass resultsTable none first.2
    let tables := second.2.tables
    ((∃ outcomes, first.1 = .ok outcomes) ∧ ∃ outcomes, second.1 = .ok outcomes) ∧
      tables.feed.pending = [] ∧
      (∀ row ∈ tables.rows, ∃ check message,
        Compile.compile row resultsTable = .ok (.valid check message) ∧
          (tables.jobsOf row.checkId).map Job.content = wanted row check) ∧
      ∀ job ∈ tables.jobs, ∃ row ∈ tables.rows, row.checkId = job.checkId ∧ row.active = true := by
  intro first second tables
  have brings : ∀ d ∈ upserts deeds, d.checkId ∈ upsertedIds deeds ∧ Supported resultsTable d :=
    fun d brought => ⟨List.mem_map_of_mem brought,
      supported_of_kind (kinds d brought) (compiles d brought)⟩
  have steady := (steady_start clock _ resultsTable).history apart brings permitted
  obtain ⟨answered, steady', removed⟩ := steady.calmPass apart
  obtain ⟨answered', steady'', removed'⟩ := steady'.calmPass apart
  have nothing_pending : tables.feed.pending = [] := by
    rw [List.eq_nil_iff_forall_not_mem]
    intro entry member
    -- What the second pass removed was pending, so the first had removed it already.
    obtain ⟨_, there, waiting⟩ := removed' entry member
    obtain ⟨_, asked_for⟩ := asked_of_pending waiting
    obtain ⟨event, inside, about⟩ :=
      ChangeEvent.mem_collapse_ids.mp (List.mem_map_of_mem asked_for)
    obtain ⟨earlier, pending, rfl⟩ := List.mem_map.mp inside
    obtain ⟨gone, _⟩ := removed earlier pending
    rw [about] at gone
    rw [gone] at there
    cases there
  have settled : ∀ checkId, Settled resultsTable tables checkId := by
    intro checkId
    apply steady''.settled
    change ChangeEvent.lastAction checkId (tables.feed.pending.map (·.2)) = none
    rw [nothing_pending]
    rfl
  refine ⟨⟨answered, answered'⟩, nothing_pending, ?_, ?_⟩
  · exact fun row member => (settled row.checkId).of_row (steady''.tidy.row?_of_mem member)
  · exact fun job member => (settled job.checkId).active_of_job member

/-- The scheduler fails when it has stored the job, the row is written anew, and the store
fails while the id is reconciled alone. -/
def troubled : List (Deed × Fate) :=
  [(.upsert sample, []),
    (.reconcileBatch none, [none, none, none, some ⟨.scheduler "down", true⟩]),
    (.delete "a", []),
    (.upsert sample, []),
    (.reconcileOne "a", [none, some ⟨.store "down", false⟩])]

theorem troubled_converges :
    let first := calmPass (.text "results") none
      (history (.text "results") (.start .earliest true) troubled)
    let tables := (calmPass (.text "results") none first.2).2.tables
    tables.feed.pending = [] ∧
      ∀ job ∈ tables.jobs, ∃ row ∈ tables.rows, row.checkId = job.checkId ∧ row.active = true := by
  obtain ⟨_, pending, _, jobs⟩ := history_converges (.text "results") .earliest troubled
    (by unfold Tables.Apart; decide +kernel) (by decide +kernel) (by decide +kernel)
    (by simp [troubled, Permitted, Fate.Sparing, Fate.mishaps])
  exact ⟨pending, jobs⟩

/-- The scheduler tells of its own accord that a row is absent, and fails when it has
removed the job. -/
def misled : List (Deed × Fate) :=
  [(.upsert sample, []),
    (.reconcileBatch none, []),
    (.reconcileOne "a",
      [none, none, none, some ⟨.notFound "a", false⟩, none, some ⟨.scheduler "down", true⟩])]

/-- Then the row is left without its job, and no pass puts that right. -/
theorem misled_stays :
    let first := calmPass (.text "results") none
      (history (.text "results") (.start .earliest true) misled)
    let tables := (calmPass (.text "results") none first.2).2.tables
    isLive (.text "results") tables "a" = true ∧ (tables.jobsOf "a").length = 0 := by
  decide +kernel

end CheckKeeper.Sync
