import CheckKeeper.Proofs.Binding
import CheckKeeper.Proofs.Served

namespace CheckKeeper

open Program Sync

/-! The jobs behind the collaborators.

Tables in memory, whatever befalls their calls, and a warehouse, whatever befalls its statements,
move the jobs as calls do, each by its own rule of which job is found.
-/

def Sync.Binding.ofJob (job : Job) : Binding :=
  ⟨job.name, job.checkId, job.updatedAt.map Calendar.Moment.instant⟩

namespace Memory

variable {c : Service.Call}

def State.bindings (s : State) : List Binding :=
  s.tables.jobs.map .ofJob

theorem jobNameOf_eq_firstInserted (s : State) (checkId : String) :
    s.tables.jobNameOf checkId = firstInserted s.bindings checkId := by
  unfold Tables.jobNameOf firstInserted boundNames bound State.bindings
  rw [List.filter_map, List.map_map, List.head?_map, List.head?_filter]
  rfl

theorem moves_handle (c : Service.Call) (s : State) :
    Moves firstInserted c s.bindings (handle c s).1 (handle c s).2.bindings := by
  cases c with
  | getDefinition checkId =>
      exact ⟨rfl, fun row told => Tables.row?_checkId (Except.ok.inj told)⟩
  | findJob checkId =>
      refine ⟨rfl, fun name told => ?_⟩
      rw [← jobNameOf_eq_firstInserted]
      exact (Except.ok.inj told).symm
  | putJob job =>
      refine Or.inl ⟨(Binding.ofJob (s.tables.stored job)).updatedAt, ?_⟩
      simp only [handle, State.bindings, State.withTables, Tables.setJob_jobs]
      exact Keyed.map_put fun _ => rfl
  | deleteJob name =>
      refine Or.inl ?_
      simp only [handle, State.bindings, State.withTables, Tables.removeJob, without]
      rw [List.filter_map]
      rfl
  | deleteDefinition checkId =>
      rw [handle_deleteDefinition]
      simp only [State.bindings, State.withTables, Tables.jobs_deleteRow]
      rfl
  | loop c => rfl
  | _ => trivial

theorem moves_trial (c : Service.Call) (trial : Trial) :
    Moves firstInserted c trial.base.bindings (Trial.handle c trial).1
      (Trial.handle c trial).2.base.bindings := by
  have turn := trial.turn c
  generalize (Trial.handle c trial).1 = answer at turn
  generalize (Trial.handle c trial).2.base = after at turn
  cases turn with
  | carried => exact moves_handle c trial.base
  | early => exact moves_early firstInserted c _ _
  | late => exact moves_late (moves_handle c trial.base) _

end Memory

namespace Warehouse

variable {σ β : Type} {tables : Catalog} {rule : Rule} {s : List Binding}

/-- What the statements that tasks send may answer, and what they may leave of the jobs: a select
of a row by its id, a delete of that row, a merge and a delete of a job by its name, and a select
of the name of a job by the id that it is bound to. -/
structure Acts (tables : Catalog) (rule : Rule) (query : Query) (s : List Binding)
    (answer : Except Failure Completion) (after : List Binding) : Prop where
  reads : ∀ checkId, query = Definitions.selectOne tables.definitions checkId →
    after = s ∧ ∀ done, answer = .ok done →
      ∀ row ∈ done.rows, Row.require row "check_id" = .ok (.text checkId)
  deletes : ∀ checkId, query = Definitions.deleteOne tables.definitions checkId → after = s
  merges : ∀ job parameters, query = Jobs.merge tables.jobs job parameters →
    (∃ now, after = Keyed.put (·.name) ⟨job.name, job.checkId, now⟩ s) ∨
      (after = s ∧ answer.isOk = false)
  removes : ∀ name, query = Jobs.deleteOne tables.jobs name →
    after = without (some name) s ∨ (after = s ∧ answer.isOk = false)
  finds : ∀ checkId, query = Jobs.selectName tables.jobs checkId →
    after = s ∧ ∀ done, answer = .ok done →
      done.rows = (rule s checkId).toList.map fun name => [(.text "job_name", .text name)]

def Acting (tables : Catalog) (rule : Rule) : Turns Warehouse.interface (List Binding)
  | Call.query query, s, answer, after => Acts tables rule query s answer after
  | Call.loop _, s, _, after => after = s

/-- A client carries statements out on the jobs that stand behind it. -/
def Executes (client : Handler Warehouse.interface σ) (tables : Catalog) (rule : Rule)
    (bindings : σ → List Binding) : Prop :=
  ∀ c s, Acting tables rule c (bindings s) (client c s).1 (bindings (client c s).2)

theorem ends_execute {wrap : String → Failure} {deed : String} {query : Query}
    {next : Completion → Remote β} {post : Except Failure β → List Binding → Prop}
    (fails : ∀ failure after, Acts tables rule query s (.error failure) after →
      ∀ told, post (.error told) after)
    (answers : ∀ done after, Acts tables rule query s (.ok done) after →
      (next done).Ends (Acting tables rule) post after) :
    (Remote.execute wrap deed query >>= next).Ends (Acting tables rule) post s := by
  apply ends_bind
  apply ends_bind
  apply ends_attempt
  apply ends_perform
  intro answer after acts
  cases answer with
  | ok done => exact answers done after acts
  | error failure =>
      have failed := fails failure after acts
      cases failure <;> exact failed _

theorem id_of_ofRow {row : Row} {d : Definition} {checkId : String}
    (read : Definition.ofRow row = .ok d) (own : row.require "check_id" = .ok (.text checkId)) :
    d.checkId = checkId := by
  unfold Definition.ofRow at read
  obtain ⟨cell, told, read⟩ := Compile.bind_eq_ok read
  obtain ⟨id, written, read⟩ := Compile.bind_eq_ok read
  obtain ⟨_, _, read⟩ := Compile.bind_eq_ok read
  obtain ⟨_, _, read⟩ := Compile.bind_eq_ok read
  obtain ⟨_, _, read⟩ := Compile.bind_eq_ok read
  obtain ⟨_, _, read⟩ := Compile.bind_eq_ok read
  obtain ⟨_, _, read⟩ := Compile.bind_eq_ok read
  obtain ⟨_, _, read⟩ := Compile.bind_eq_ok read
  rw [own] at told
  cases told
  cases written
  split at read
  · cases read
    rfl
  · cases read

theorem getDefinition_moves (tables : Catalog) (rule : Rule) (checkId : String) :
    (Definitions.get tables.definitions checkId).Ends (Acting tables rule)
      (fun answer after => Moves rule (.getDefinition checkId) s answer after) s := by
  apply ends_execute
  · intro failure after acts told
    exact ⟨(acts.reads checkId rfl).1, fun _ answered => by cases answered⟩
  · intro done after acts
    obtain ⟨rfl, rows⟩ := acts.reads checkId rfl
    split
    · exact ⟨rfl, fun _ answered => by cases answered⟩
    · rename_i row others listed
      apply ends_ofExcept
      refine ⟨rfl, fun d answered => ?_⟩
      cases read : Definition.ofRow row with
      | error failure =>
          rw [read] at answered
          cases answered
      | ok found =>
          rw [read] at answered
          cases answered
          exact id_of_ofRow read (rows done rfl row (by rw [listed]; exact List.mem_cons_self))

theorem findJob_moves (tables : Catalog) (rule : Rule) (checkId : String) :
    (Jobs.find tables.jobs checkId).Ends (Acting tables rule)
      (fun answer after => Moves rule (.findJob checkId) s answer after) s := by
  apply ends_execute
  · intro failure after acts told
    exact ⟨(acts.finds checkId rfl).1, fun _ answered => by cases answered⟩
  · intro done after acts
    obtain ⟨rfl, rows⟩ := acts.finds checkId rfl
    have listed := rows done rfl
    rw [listed]
    cases found : rule after checkId with
    | none =>
        refine ⟨rfl, fun name answered => ?_⟩
        cases answered
        exact found.symm
    | some own =>
        apply ends_ofExcept
        refine ⟨rfl, fun name answered => ?_⟩
        cases answered
        exact found.symm

theorem putJob_moves (tables : Catalog) (rule : Rule) (job : Job) :
    (tables.serve (.putJob job)).Ends (Acting tables rule)
      (fun answer after => Moves rule (.putJob job) s answer after) s := by
  apply ends_bind
  apply ends_bind
  apply ends_ofExcept
  cases Json.dump .strict (.list (job.parameters.map Parameter.toRecord)) with
  | error failure => exact Or.inr ⟨rfl, rfl⟩
  | ok parameters =>
      apply ends_execute
      · intro failure after acts told
        exact (acts.merges job parameters rfl).imp_right fun still => ⟨still.1, rfl⟩
      · intro done after acts
        rcases acts.merges job parameters rfl with stored | ⟨_, failed⟩
        · exact Or.inl stored
        · cases failed

theorem deleteJob_moves (tables : Catalog) (rule : Rule) (name : String) :
    (tables.serve (.deleteJob name)).Ends (Acting tables rule)
      (fun answer after => Moves rule (.deleteJob name) s answer after) s := by
  apply ends_bind
  apply ends_execute
  · intro failure after acts told
    exact (acts.removes name rfl).imp_right fun still => ⟨still.1, rfl⟩
  · intro done after acts
    rcases acts.removes name rfl with removed | ⟨_, failed⟩
    · exact Or.inl removed
    · cases failed

theorem deleteDefinition_moves (tables : Catalog) (rule : Rule) (checkId : String) :
    (tables.serve (.deleteDefinition checkId)).Ends (Acting tables rule)
      (fun answer after => Moves rule (.deleteDefinition checkId) s answer after) s := by
  apply ends_bind
  apply ends_execute
  · exact fun failure after acts told => acts.deletes checkId rfl
  · exact fun done after acts => acts.deletes checkId rfl

theorem loop_moves (tables : Catalog) (rule : Rule) (c : Loop.Call) :
    (tables.serve (.loop c)).Ends (Acting tables rule)
      (fun answer after => Moves rule (.loop c) s answer after) s :=
  ends_perform fun _ _ acts => acts

/-- What the collaborators do in the warehouse, they do to the jobs in it. -/
theorem moves_served {client : Handler Warehouse.interface σ} {bindings : σ → List Binding}
    (executes : Executes client tables rule bindings) (c : Service.Call) (t : σ) :
    Moves rule c (bindings t) (tables.served client c t).1
      (bindings (tables.served client c t).2) := by
  cases c with
  | getDefinition checkId =>
      exact run_of_ends_seen bindings executes (getDefinition_moves tables rule checkId)
  | findJob checkId =>
      exact run_of_ends_seen bindings executes (findJob_moves tables rule checkId)
  | putJob job => exact run_of_ends_seen bindings executes (putJob_moves tables rule job)
  | deleteJob name => exact run_of_ends_seen bindings executes (deleteJob_moves tables rule name)
  | deleteDefinition checkId =>
      exact run_of_ends_seen bindings executes (deleteDefinition_moves tables rule checkId)
  | loop c => exact run_of_ends_seen bindings executes (loop_moves tables rule c)
  | _ => trivial

end Warehouse

namespace Sync

/-- What stands behind the collaborators, the jobs in it, and which of them it finds: tables in
memory, under any fate, find the job that came first, and a warehouse one that was last changed. -/
inductive Backend : {σ : Type} → Handler Service.interface σ → (σ → List Binding) → Rule → Prop
  | memory : Backend Memory.Trial.handle (·.base.bindings) firstInserted
  | warehouse {σ : Type} {client : Handler Warehouse.interface σ} {tables : Warehouse.Catalog}
      {rule : Rule} {bindings : σ → List Binding}
      (executes : Warehouse.Executes client tables rule bindings) (last : LastUpdated rule) :
      Backend (tables.served client) bindings rule

variable {σ : Type} {handle : Handler Service.interface σ} {bindings : σ → List Binding}
  {rule : Rule}

theorem Backend.finds (backend : Backend handle bindings rule) : Finds rule := by
  cases backend with
  | memory => exact finds_firstInserted
  | warehouse _ last => exact last.finds

theorem Backend.moves (backend : Backend handle bindings rule) (c : Service.Call) (s : σ) :
    Moves rule c (bindings s) (handle c s).1 (bindings (handle c s).2) := by
  cases backend with
  | memory => exact Memory.moves_trial c s
  | warehouse executes _ => exact Warehouse.moves_served executes c s

end Sync

end CheckKeeper
