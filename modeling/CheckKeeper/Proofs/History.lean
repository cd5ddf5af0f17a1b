import CheckKeeper.Proofs.Pass

namespace CheckKeeper.Memory

open Program Sync

/-! What may happen to the tables: operators change rows, ids and batches are
reconciled, events are delivered again, and time passes. -/

inductive Deed where
  | tick (now : Calendar.Moment)
  | publish (event : ChangeEvent)
  | upsert (d : Definition)
  | delete (checkId : String)
  | reconcileOne (checkId : String)
  | reconcileBatch (limit : Option Int)

/-- The state that a deed leaves when its calls meet a fate. -/
def Deed.carryOut (resultsTable : Value) (trial : Trial) : Deed → State
  | .tick now => trial.base.withTables { trial.base.tables with clock := now }
  | .publish event =>
      trial.base.withTables { trial.base.tables with feed := trial.base.tables.feed.publish event }
  | .upsert d => ((Work.putDefinition d).run Trial.handle trial).2.base
  | .delete checkId => ((Work.deleteDefinition checkId).run Trial.handle trial).2.base
  | .reconcileOne checkId =>
      ((Sync.reconcileOne ⟨resultsTable, none⟩ checkId).run Trial.handle trial).2.base
  | .reconcileBatch limit =>
      ((Sync.reconcileBatch ⟨resultsTable, limit⟩).run Trial.handle trial).2.base

/-- The state after some deeds, each of which meets a fate of its own. -/
def history (resultsTable : Value) (s : State) (deeds : List (Deed × Fate)) : State :=
  deeds.foldl (fun s deed => deed.1.carryOut resultsTable ⟨s, deed.2⟩) s

def Deed.row? : Deed → Option Definition
  | .upsert d => some d
  | _ => none

/-- The rows that operators bring. -/
def upserts (deeds : List (Deed × Fate)) : List Definition :=
  deeds.filterMap fun deed => deed.1.row?

def upsertedIds (deeds : List (Deed × Fate)) : List String :=
  (upserts deeds).map (·.checkId)

variable {resultsTable : Value} {ids : List String} {P : Definition → Prop} {s : State}
  {trial : Trial} {deed : Deed} {deeds : List (Deed × Fate)} {checkId : String}

theorem upserts_subset_cons (deed : Deed × Fate) (later : List (Deed × Fate)) :
    upserts later ⊆ upserts (deed :: later) := by
  intro d member
  unfold upserts at member ⊢
  rw [List.filterMap_cons]
  split
  · exact member
  · exact List.mem_cons_of_mem _ member

/-- A property of rows that the time stamps of the table do not touch. -/
def Unstamped (P : Definition → Prop) : Prop :=
  ∀ d createdAt updatedAt, P d → P { d with createdAt, updatedAt }

/-- What holds whatever has happened: the tables are tidy, no pass is running, and every
row is one that an operator may bring. -/
structure Orderly (ids : List String) (P : Definition → Prop) (s : State) : Prop where
  tidy : s.tables.Tidy ids
  at_rest : s.loop.inPass = false
  rows : ∀ row ∈ s.tables.rows, P row

theorem orderly_start (clock : Calendar.Moment) (ids : List String) (P : Definition → Prop) :
    Orderly ids P (.start clock true) :=
  ⟨Tables.tidy_empty clock ids, rfl, by simp [State.start, Tables.empty]⟩

/-- An operator who brings a row has it stamped and told, or is refused. -/
theorem carryOut_upsert (d : Definition) (trial : Trial) :
    (Deed.upsert d).carryOut resultsTable trial = trial.base ∨
      ∃ createdAt updatedAt action, action ≠ .delete ∧
        (Deed.upsert d).carryOut resultsTable trial = trial.base.withTables
          ((trial.base.tables.setRow { d with createdAt, updatedAt }).capture action d.checkId) := by
  have ran : (Deed.upsert d).carryOut resultsTable trial =
      (Memory.handle (.putDefinition d) trial.base).2 := by
    simp only [Deed.carryOut, Work.putDefinition, perform, run, Trial.handle, exposed]
    cases (Memory.handle (.putDefinition d) trial.base).1 <;> rfl
  rw [ran]
  simp only [Memory.handle, Tables.putRow]
  cases found : trial.base.tables.row? d.checkId with
  | none => exact Or.inr ⟨_, _, .insert, by decide, rfl⟩
  | some old =>
      cases checked : old.checkKind d with
      | error failure =>
          simp only [checked]
          exact Or.inl rfl
      | ok _ =>
          simp only [checked]
          exact Or.inr ⟨_, _, .update, by decide, rfl⟩

/-- An operator who deletes a row has it told, or is not heard. -/
theorem carryOut_delete (checkId : String) (trial : Trial) :
    (Deed.delete checkId).carryOut resultsTable trial = trial.base ∨
      (Deed.delete checkId).carryOut resultsTable trial =
        trial.base.withTables (trial.base.tables.deleteRow checkId) := by
  have ends : (Work.deleteDefinition checkId).Ends (Turn trial.fate.befalls)
      (fun _ after => after = trial.base ∨
        after = trial.base.withTables (trial.base.tables.deleteRow checkId)) trial.base := by
    apply ends_perform
    intro answer after turn
    cases turn with
    | carried => exact Or.inr (by rw [handle_deleteDefinition])
    | early => exact Or.inl rfl
    | late => exact Or.inr (by rw [handle_deleteDefinition])
  exact trial.run_of_ends ends

theorem reconcileOne_acted {befalls : Service.Call → Failure → Prop} (settings : Settings)
    (checkId : String) (quiet : Quiet befalls) (tidy : s.tables.Tidy ids) :
    (Sync.reconcileOne settings checkId).Ends (Turn befalls)
      (fun _ after => Acted [checkId] s after) s := by
  refine ends_call (fun failure fails => Acted.refl _ s) (fun failure fails => Acted.refl _ s) ?_
  simp only [Memory.handle, Continues]
  cases s.tables.row? checkId with
  | none =>
      exact (drop_ends quiet tidy).mono fun _ _ ended => ended.1.toActed
  | some row =>
      apply ends_bind
      apply ends_attempt
      refine (createOrReplace_ends quiet tidy).mono ?_
      rintro found middle ⟨bringing, _⟩
      have acted := bringing.toActed
      simp only [Continues]
      split
      · exact acted
      · refine (drop_ends quiet (acted.course.tidy tidy)).mono ?_
        exact fun _ _ ended => acted.trans ended.1.toActed
      · exact acted

theorem Orderly.course {chosen : List String} {after : State} (orderly : Orderly ids P s)
    (course : Tables.Course chosen s.tables after.tables) (at_rest : after.loop.inPass = false) :
    Orderly ids P after :=
  ⟨course.tidy orderly.tidy, at_rest, fun row member => orderly.rows row (course.rows_subset member)⟩

theorem Orderly.acted {chosen : List String} {after : State} (orderly : Orderly ids P s)
    (acted : Acted chosen s after) : Orderly ids P after :=
  orderly.course acted.course (acted.inPass.trans orderly.at_rest)

theorem Orderly.upserted (orderly : Orderly ids P s) {d : Definition} (known : d.checkId ∈ ids)
    (holds : P d) (action : ChangeAction) :
    Orderly ids P (s.withTables ((s.tables.setRow d).capture action d.checkId)) where
  tidy := (orderly.tidy.setRow known).capture action d.checkId
  at_rest := orderly.at_rest
  rows := by
    intro row member
    rw [State.withTables, Tables.rows_capture, Tables.setRow_rows] at member
    rcases Keyed.mem_put member with rfl | old
    · exact holds
    · exact orderly.rows row old

theorem Orderly.carryOut (orderly : Orderly ids P trial.base) (unstamped : Unstamped P)
    (brings : ∀ d, deed.row? = some d → d.checkId ∈ ids ∧ P d) :
    Orderly ids P (deed.carryOut resultsTable trial) := by
  cases deed with
  | tick now => exact ⟨{ orderly.tidy with }, orderly.at_rest, orderly.rows⟩
  | publish event =>
      exact ⟨{ orderly.tidy with feed := orderly.tidy.feed.publish event }, orderly.at_rest,
        orderly.rows⟩
  | upsert d =>
      obtain ⟨known, holds⟩ := brings d rfl
      rcases carryOut_upsert d trial with refused | ⟨createdAt, updatedAt, action, _, stored⟩
      · rw [refused]
        exact orderly
      · have known' : ({ d with createdAt, updatedAt } : Definition).checkId ∈ ids := known
        rw [stored]
        exact orderly.upserted known' (unstamped d createdAt updatedAt holds) action
  | delete checkId =>
      rcases carryOut_delete checkId trial with unheard | deleted
      · rw [unheard]
        exact orderly
      · rw [deleted]
        exact orderly.acted ((Acted.refl [checkId] trial.base).edit (.deleteRow _))
  | reconcileOne checkId =>
      exact orderly.acted (trial.run_of_ends (reconcileOne_acted _ _ (quiet_fate _) orderly.tidy))
  | reconcileBatch limit =>
      obtain ⟨at_rest, passed⟩ :=
        trial.run_of_ends (reconcileBatch_ends ⟨resultsTable, limit⟩ (quiet_fate _) orderly.tidy
          orderly.at_rest)
      obtain ⟨rest, split⟩ := Feed.drainable_prefix trial.base.tables.feed limit
      exact ⟨passed.tidy orderly.tidy split.symm, at_rest,
        fun row member => orderly.rows row (passed.rows_subset member)⟩

theorem Orderly.history (orderly : Orderly ids P s) (unstamped : Unstamped P)
    (brings : ∀ d ∈ upserts deeds, d.checkId ∈ ids ∧ P d) :
    Orderly ids P (history resultsTable s deeds) := by
  induction deeds generalizing s with
  | nil => exact orderly
  | cons deed later ih =>
      apply ih
      · exact orderly.carryOut unstamped fun d brought => brings d (by simp [upserts, brought])
      · exact fun d member => brings d (upserts_subset_cons deed later member)

end CheckKeeper.Memory
