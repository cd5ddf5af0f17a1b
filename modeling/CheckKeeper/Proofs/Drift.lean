import CheckKeeper.Proofs.Accounting
import CheckKeeper.Proofs.Backend

namespace CheckKeeper

open Program Sync

/-! Jobs that failed calls leave behind, and what later calls make of them.

A call that fails between storing a new job and removing the old one leaves an id with two jobs.
A later call on the id finds one of the two and leaves the other alone, unless it stores a job in
its place.
-/

namespace Sync

inductive Task where
  | bring (checkId : String)
  | drop (checkId : String)

def Task.checkId : Task → String
  | .bring checkId => checkId
  | .drop checkId => checkId

def Task.work (resultsTable : Value) : Task → Work Outcome
  | .bring checkId => createOrReplace resultsTable checkId
  | .drop checkId => Sync.drop checkId

/-- The state after some tasks, of which any may have failed. -/
def afterTasks {σ : Type} (handle : Handler Service.interface σ) (resultsTable : Value) (s : σ)
    (tasks : List Task) : σ :=
  tasks.foldl (fun s task => ((task.work resultsTable).run handle s).2) s

variable {σ : Type} {handle : Handler Service.interface σ} {bindings : σ → List Binding}
  {rule : Rule} {resultsTable : Value} {s : σ}

theorem afterTasks_nil : afterTasks handle resultsTable s [] = s :=
  rfl

theorem Task.behaves (task : Task) (resultsTable : Value) :
    (task.work resultsTable).Behaves ((Remit.ofId task.checkId fun _ => True).permits task.checkId)
      (Remit.ofId task.checkId fun _ => True).informs (TellsOf task.checkId) := by
  cases task with
  | bring checkId =>
      exact createOrReplace_behaves (Remit.covers_ofId checkId _ resultsTable) checkId
  | drop checkId => exact drop_behaves _ checkId

theorem Stable.afterTasks {P : List Binding → Prop} (stable : Stable P)
    (backend : Backend handle bindings rule) (resultsTable : Value) (tasks : List Task)
    (holds : P (bindings s)) : P (bindings (afterTasks handle resultsTable s tasks)) := by
  induction tasks generalizing s with
  | nil => exact holds
  | cons task later ih =>
      apply ih
      refine (run_of_behaves (fun s => P (bindings s)) ?_ (task.behaves resultsTable) holds).2
      intro c s kept permitted
      have moves := backend.moves c s
      exact ⟨moves_informs moves task.checkId permitted, stable.moves moves permitted kept⟩

/-- A task that returns leaves of the jobs what it leaves when it has found the job that the
backend finds. -/
theorem Backend.leaves (backend : Backend handle bindings rule) (task : Task)
    (named : Named (bindings s)) {outcome : Outcome}
    (answered : ((task.work resultsTable).run handle s).1 = .ok outcome) :
    Left task.checkId (rule (bindings s) task.checkId) (bindings s)
      (bindings ((task.work resultsTable).run handle s).2) outcome.action := by
  cases task with
  | bring checkId =>
      exact run_of_ends_seen bindings backend.moves
        (createOrReplace_leaves backend.finds named resultsTable checkId) outcome answered
  | drop checkId =>
      obtain ⟨action, left⟩ := run_of_ends_seen bindings backend.moves
        (drop_leaves backend.finds named checkId) outcome answered
      rw [action]
      exact left

/-- Whatever tasks went before, a task that returns leaves its id the jobs that it is to have
exactly when each job that it had was the one that is found, or has the name that the id gives
it and is stored anew. -/
theorem task_repairs_iff (backend : Backend handle bindings rule) (resultsTable : Value) (s : σ)
    (named : Named (bindings s)) (earlier : List Task) (task : Task) :
    let before := afterTasks handle resultsTable s earlier
    let ran := (task.work resultsTable).run handle before
    ∀ outcome, ran.1 = .ok outcome → outcome.action ≠ .unsupported →
      (boundNames task.checkId (bindings ran.2) = expectedNames task.checkId outcome.action ↔
        ∀ name ∈ boundNames task.checkId (bindings before),
          rule (bindings before) task.checkId = some name ∨
            name ∈ expectedNames task.checkId outcome.action) := by
  intro before ran outcome answered supported
  have named_before : Named (bindings before) :=
    stable_named.afterTasks backend resultsTable earlier named
  exact (backend.leaves task named_before answered).expected_iff named_before supported

/-- Where all jobs have the names that their ids give them, no drift stays. -/
theorem task_repairs (backend : Backend handle bindings rule) (resultsTable : Value) (s : σ)
    (named : Named (bindings s)) (derived : Derived (bindings s)) (earlier : List Task)
    (task : Task) :
    let before := afterTasks handle resultsTable s earlier
    let ran := (task.work resultsTable).run handle before
    ∀ outcome, ran.1 = .ok outcome → outcome.action ≠ .unsupported →
      boundNames task.checkId (bindings ran.2) = expectedNames task.checkId outcome.action := by
  intro before ran outcome answered supported
  have named_before : Named (bindings before) :=
    stable_named.afterTasks backend resultsTable earlier named
  have derived_before : Derived (bindings before) :=
    stable_derived.afterTasks backend resultsTable earlier derived
  have one_name : ∀ name ∈ boundNames task.checkId (bindings before),
      name = Job.nameOf task.checkId := by
    intro name member
    obtain ⟨b, inside, rfl⟩ := List.mem_map.mp member
    obtain ⟨inside, about⟩ := List.mem_filter.mp inside
    have same : b.checkId = task.checkId := by simpa using about
    exact same ▸ derived_before b inside
  apply ((backend.leaves task named_before answered).expected_iff named_before supported).mpr
  intro name member
  left
  cases found : rule (bindings before) task.checkId with
  | none =>
      rw [backend.finds.absent _ _ found] at member
      cases member
  | some other =>
      have bound_too := backend.finds.found _ _ _ found
      rw [one_name name member, one_name other bound_too]

end Sync

namespace Warehouse

inductive Statement where
  | readRow
  | deleteRow
  | storeJob
  | deleteJob
  | findJob
deriving DecidableEq

namespace Statement

def sql (tables : Catalog) : Statement → String
  | .readRow => (Definitions.selectOne tables.definitions "").sql
  | .deleteRow => (Definitions.deleteOne tables.definitions "").sql
  | .storeJob => Jobs.mergeText tables.jobs
  | .deleteJob => (Jobs.deleteOne tables.jobs "").sql
  | .findJob => (Jobs.selectName tables.jobs "").sql

def ofSql? (tables : Catalog) (text : String) : Option Statement :=
  [readRow, deleteRow, storeJob, deleteJob, findJob].find? (·.sql tables == text)

theorem ofSql?_sql (statement : Statement) :
    ofSql? fourTables (statement.sql fourTables) = some statement := by
  cases statement <;> decide +kernel

end Statement

/-- Two tables of a warehouse, a clock, and what happens to the statements to come. -/
structure Ledger where
  definitions : List Row
  jobs : List Binding
  clock : Int
  fate : Memory.Fate
  loop : Loop.State

/-- The first of the jobs that were changed last. -/
def lastOf : List Binding → Option Binding
  | [] => none
  | b :: rest =>
    match lastOf rest with
    | none => some b
    | some other => if other.notAfter b then some b else some other

def latest : Rule :=
  fun bindings checkId => (lastOf (bound checkId bindings)).map (·.name)

namespace Ledger

def parameter (query : Query) (name : String) : String :=
  ((query.parameters.find? (·.name == name)).map (·.value.plain)).getD ""

def isOf (checkId : String) (row : Row) : Bool :=
  match row.require "check_id" with
  | .ok (.text id) => id == checkId
  | _ => false

def execute (tables : Catalog) (query : Query) (s : Ledger) : Completion × Ledger :=
  let checkId := parameter query "check_id"
  let name := parameter query "job_name"
  match Statement.ofSql? tables query.sql with
  | some .readRow => (⟨s.definitions.filter (isOf checkId), none, none⟩, s)
  | some .deleteRow =>
      (⟨[], some (s.definitions.countP (isOf checkId)), none⟩,
        { s with definitions := s.definitions.filter fun row => !isOf checkId row })
  | some .storeJob =>
      (⟨[], none, some (s.jobs.countP (·.name == name))⟩,
        { s with
          jobs := Keyed.put (·.name) ⟨name, checkId, s.clock⟩ s.jobs
          clock := s.clock + 1 })
  | some .deleteJob =>
      (⟨[], some (s.jobs.countP (·.name == name)), none⟩,
        { s with jobs := without (some name) s.jobs })
  | some .findJob =>
      (⟨(latest s.jobs checkId).toList.map fun name => [(.text "job_name", .text name)],
        none, none⟩, s)
  | none => (.silent, s)

def handle (tables : Catalog) : Handler Warehouse.interface Ledger
  | Call.query query, s =>
      let (completion, after) := execute tables query s
      match s.fate with
      | some mishap :: fate =>
          (.error mishap.failure, { if mishap.late then after else s with fate })
      | _ => (.ok completion, { after with fate := s.fate.tail })
  | Call.loop c, s =>
      let (answer, loop) := Loop.handle c s.loop
      (answer, { s with loop })

end Ledger

theorem lastOf_eq_none {s : List Binding} (none_last : lastOf s = none) : s = [] := by
  cases s with
  | nil => rfl
  | cons b rest =>
      unfold lastOf at none_last
      cases behind : lastOf rest with
      | none => simp [behind] at none_last
      | some other =>
          simp only [behind] at none_last
          split at none_last <;> cases none_last

theorem lastOf_eq_some {s : List Binding} {last : Binding} (found : lastOf s = some last) :
    last ∈ s ∧ ∀ other ∈ s, other.notAfter last = true := by
  induction s generalizing last with
  | nil => cases found
  | cons b rest ih =>
      unfold lastOf at found
      cases behind : lastOf rest with
      | none =>
          simp only [behind, Option.some.injEq] at found
          subst found
          rw [lastOf_eq_none behind]
          exact ⟨List.mem_singleton_self b, fun other member =>
            List.mem_singleton.mp member ▸ b.notAfter_refl⟩
      | some other =>
          obtain ⟨inside, highest⟩ := ih behind
          by_cases before : other.notAfter b = true
          · simp only [behind, before, if_true, Option.some.injEq] at found
            subst found
            have all_before : ∀ third ∈ rest, third.notAfter b = true :=
              fun third member => Binding.notAfter_trans (highest third member) before
            exact ⟨List.mem_cons_self, List.forall_mem_cons.mpr ⟨b.notAfter_refl, all_before⟩⟩
          · simp only [behind, before, if_false, Bool.false_eq_true, Option.some.injEq] at found
            subst found
            have own_before : b.notAfter other = true :=
              (b.notAfter_total other).resolve_right before
            exact ⟨List.mem_cons_of_mem b inside, List.forall_mem_cons.mpr ⟨own_before, highest⟩⟩

theorem lastUpdated_latest : LastUpdated latest where
  absent bindings checkId none_latest := by
    have none_bound := lastOf_eq_none (Option.map_eq_none_iff.mp none_latest)
    rw [boundNames, none_bound, List.map_nil]
  latest bindings checkId name found := by
    obtain ⟨b, last, named⟩ := Option.map_eq_some_iff.mp found
    obtain ⟨inside, highest⟩ := lastOf_eq_some last
    exact ⟨b, inside, named, highest⟩

theorem require_of_isOf {checkId : String} {row : Row} (own : Ledger.isOf checkId row = true) :
    row.require "check_id" = .ok (.text checkId) := by
  unfold Ledger.isOf at own
  split at own
  · rename_i id told
    rw [told, beq_iff_eq.mp own]
  · cases own

theorem acts_execute (query : Query) (s : Ledger) :
    Acts fourTables latest query s.jobs (.ok (Ledger.execute fourTables query s).1)
      (Ledger.execute fourTables query s).2.jobs where
  reads := by
    rintro checkId rfl
    have known : Statement.ofSql? fourTables
        (Definitions.selectOne fourTables.definitions checkId).sql = some .readRow :=
      Statement.ofSql?_sql .readRow
    simp only [Ledger.execute, known]
    refine ⟨trivial, fun completion answered row member => ?_⟩
    cases answered
    exact require_of_isOf (List.mem_filter.mp member).2
  deletes := by
    rintro checkId rfl
    have known : Statement.ofSql? fourTables
        (Definitions.deleteOne fourTables.definitions checkId).sql = some .deleteRow :=
      Statement.ofSql?_sql .deleteRow
    simp only [Ledger.execute, known]
  merges := by
    rintro job parameters rfl
    have known : Statement.ofSql? fourTables
        (Jobs.merge fourTables.jobs job parameters).sql = some .storeJob :=
      Statement.ofSql?_sql .storeJob
    refine Or.inl ⟨s.clock, ?_⟩
    simp only [Ledger.execute, known]
    rfl
  removes := by
    rintro name rfl
    have known : Statement.ofSql? fourTables
        (Jobs.deleteOne fourTables.jobs name).sql = some .deleteJob :=
      Statement.ofSql?_sql .deleteJob
    refine Or.inl ?_
    simp only [Ledger.execute, known]
    rfl
  finds := by
    rintro checkId rfl
    have known : Statement.ofSql? fourTables
        (Jobs.selectName fourTables.jobs checkId).sql = some .findJob :=
      Statement.ofSql?_sql .findJob
    simp only [Ledger.execute, known]
    refine ⟨trivial, fun completion answered => ?_⟩
    cases answered
    rfl

theorem acts_late {tables : Catalog} {rule : Rule} {query : Query} {s after : List Binding}
    {answer : Except Failure Completion} (acts : Acts tables rule query s answer after)
    (failure : Failure) : Acts tables rule query s (.error failure) after where
  reads checkId same := ⟨(acts.reads checkId same).1, fun _ answered => by cases answered⟩
  deletes := acts.deletes
  merges job parameters same :=
    (acts.merges job parameters same).imp_right fun still => ⟨still.1, rfl⟩
  removes name same := (acts.removes name same).imp_right fun still => ⟨still.1, rfl⟩
  finds checkId same := ⟨(acts.finds checkId same).1, fun _ answered => by cases answered⟩

theorem acts_early (tables : Catalog) (rule : Rule) (query : Query) (s : List Binding)
    (failure : Failure) : Acts tables rule query s (.error failure) s where
  reads _ _ := ⟨rfl, fun _ answered => by cases answered⟩
  deletes _ _ := rfl
  merges _ _ _ := Or.inr ⟨rfl, rfl⟩
  removes _ _ := Or.inr ⟨rfl, rfl⟩
  finds _ _ := ⟨rfl, fun _ answered => by cases answered⟩

theorem executes_ledger : Executes (Ledger.handle fourTables) fourTables latest (·.jobs) := by
  intro c s
  cases c with
  | query query =>
      have carried := acts_execute query s
      simp only [Ledger.handle]
      split
      · rename_i mishap fate _
        by_cases late : mishap.late = true
        · simp only [late, if_true]
          exact acts_late carried mishap.failure
        · simp only [late, if_false, Bool.false_eq_true]
          exact acts_early fourTables latest query s.jobs mishap.failure
      · exact carried
  | loop c => rfl

end Warehouse

namespace Sync

open Memory Warehouse

/-- An old job of the check `a`, under a name that its id does not give it. -/
def oldJob : Job where
  name := "old"
  checkId := "a"
  kind := .uniqueness
  schedule := .text "daily"
  statement := .text "SELECT 1"
  parameters := []
  updatedAt := none

def inherited (fate : Fate) : Trial :=
  ⟨⟨{ Tables.empty .earliest true with rows := [sample], jobs := [oldJob] }, .start⟩, fate⟩

def sampleRow : Row :=
  [(.text "check_id", .text "a"), (.text "check_type", .text "UNIQUENESS"),
    (.text "columns_key", .text "id"), (.text "target_schema", .text "s"),
    (.text "target_table", .text "t"), (.text "schedule", .text "daily")]

def inheritedLedger (fate : Fate) : Ledger :=
  ⟨[sampleRow], [⟨"old", "a", some 1⟩], 2, fate, .start⟩

/-- The call to come that removes the old job fails before it does. -/
def failsToRemove (failure : Failure) : Fate :=
  [none, none, none, some ⟨failure, false⟩]

/-- The old job outlives the call that replaces it: in memory it is found by the next call, in
the warehouse it is not. -/
def stranded : Trial :=
  afterTasks Trial.handle (.text "results") (inherited (failsToRemove (.scheduler "down")))
    [.bring "a"]

def strandedLedger : Ledger :=
  afterTasks (fourTables.served (Ledger.handle fourTables)) (.text "results")
    (inheritedLedger (failsToRemove (.service "down"))) [.bring "a"]

theorem ok_of_action {found : Except Failure Outcome} {action : OutcomeAction}
    (answered : found.toOption.map (·.action) = some action) :
    ∃ outcome, found = .ok outcome ∧ outcome.action = action := by
  cases found with
  | error failure => cases answered
  | ok outcome => exact ⟨outcome, rfl, Option.some.inj answered⟩

theorem stranded_repaired :
    let again := ((Task.bring "a").work (.text "results")).run Trial.handle stranded
    let replaced := ((Task.bring "a").work (.text "results")).run
      (fourTables.served (Ledger.handle fourTables)) (inheritedLedger [])
    boundNames "a" again.2.base.bindings = ["dq_task_a"] ∧
      boundNames "a" replaced.2.jobs = ["dq_task_a"] := by
  have expected : expectedNames "a" .replaced = ["dq_task_a"] := by decide +kernel
  have same : (Task.bring "a").checkId = "a" := rfl
  rw [← expected]
  refine ⟨?_, ?_⟩
  · have now : (((Task.bring "a").work (.text "results")).run Trial.handle
          stranded).1.toOption.map (·.action) = some .replaced ∧
        ∀ name ∈ boundNames "a" stranded.base.bindings,
          firstInserted stranded.base.bindings "a" = some name ∨
            name ∈ expectedNames "a" .replaced := by decide +kernel
    obtain ⟨answered, covered⟩ := now
    obtain ⟨outcome, answered, action⟩ := ok_of_action answered
    have supported : outcome.action ≠ .unsupported := by rw [action]; decide
    rw [← action] at covered ⊢
    unfold stranded at answered covered ⊢
    have repaired := task_repairs_iff .memory (.text "results")
      (inherited (failsToRemove (.scheduler "down"))) ⟨by decide, by decide⟩ [.bring "a"]
      (.bring "a") outcome answered supported
    rw [same] at repaired
    exact repaired.mpr covered
  · have now : (((Task.bring "a").work (.text "results")).run
          (fourTables.served (Ledger.handle fourTables)) (inheritedLedger [])).1.toOption.map
            (·.action) = some .replaced ∧
        ∀ name ∈ boundNames "a" (inheritedLedger []).jobs,
          latest (inheritedLedger []).jobs "a" = some name ∨
            name ∈ expectedNames "a" .replaced := by decide +kernel
    obtain ⟨answered, covered⟩ := now
    obtain ⟨outcome, answered, action⟩ := ok_of_action answered
    have supported : outcome.action ≠ .unsupported := by rw [action]; decide
    rw [← action] at covered ⊢
    have repaired := task_repairs_iff (.warehouse executes_ledger lastUpdated_latest)
      (.text "results") (inheritedLedger []) ⟨by decide, by decide⟩ [] (.bring "a") outcome
      answered supported
    rw [same, afterTasks_nil] at repaired
    exact repaired.mpr covered

/-- In memory the next drop finds the old job and leaves the new one; in the warehouse the next
call finds the new job and leaves the old one. -/
theorem stranded_stays :
    let dropped := (drop "a").run Trial.handle stranded
    let brought := (createOrReplace (.text "results") "a").run
      (fourTables.served (Ledger.handle fourTables)) strandedLedger
    (dropped.1.toOption.map (·.action) = some .dropped ∧
        boundNames "a" dropped.2.base.bindings = ["dq_task_a"]) ∧
      brought.1.toOption.map (·.action) = some .replaced ∧
        boundNames "a" brought.2.jobs = ["old", "dq_task_a"] := by
  decide +kernel

end Sync

end CheckKeeper
