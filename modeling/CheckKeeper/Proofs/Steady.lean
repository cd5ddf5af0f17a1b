import CheckKeeper.Proofs.History
import CheckKeeper.Proofs.Probe

namespace CheckKeeper.Sync

open Memory Program

/-! What is pending and what is there belong together.

The last pending event of an id says whether its row is there, and an id without pending
events is settled.  No deed and no mishap breaks this, as long as passes drain all that
is pending.
-/

variable {ids chosen : List String} {resultsTable : Value} {checkId : String} {s after : State}
  {tables middle : Tables} {drained rest news : List (Nat × ChangeEvent)} {outcomes : List Outcome}

def lastPending (tables : Tables) (checkId : String) : Option ChangeAction :=
  ChangeEvent.lastAction checkId (tables.feed.pending.map (·.2))

/-- A definition of a supported kind that the compiler has a verdict on. -/
def Supported (resultsTable : Value) (d : Definition) : Prop :=
  ∃ verdict, Compile.compile d resultsTable = .ok verdict ∧ verdict.isUnsupported = false

/-- The invariant of a history whose passes drain all that is pending. -/
structure Steady (ids : List String) (resultsTable : Value) (s : State) : Prop extends
    Orderly ids (Supported resultsTable) s where
  sequenced : s.tables.Sequenced
  agrees : ∀ checkId action, lastPending s.tables checkId = some action →
    (action = .delete ↔ s.tables.row? checkId = none)
  settled : ∀ checkId, lastPending s.tables checkId = none →
    Settled resultsTable s.tables checkId

theorem supported_unstamped (resultsTable : Value) : Unstamped (Supported resultsTable) := by
  intro d createdAt updatedAt supported
  rwa [Supported, Compile.compile_stamped]

theorem steady_start (clock : Calendar.Moment) (ids : List String) (resultsTable : Value) :
    Steady ids resultsTable (.start clock true) where
  toOrderly := orderly_start clock ids _
  sequenced := by simp [Tables.Sequenced, State.start, Tables.empty, Feed.empty]
  agrees := by
    intro checkId action last
    cases last
  settled := fun _ _ => Or.inl ⟨rfl, rfl⟩

theorem lastPending_append (pending : tables.feed.pending = drained ++ news) (checkId : String) :
    lastPending tables checkId =
      (ChangeEvent.lastAction checkId (news.map (·.2))).or
        (ChangeEvent.lastAction checkId (drained.map (·.2))) := by
  rw [lastPending, pending, List.map_append, ChangeEvent.lastAction_append]

theorem lastAction_of_about (checkId : String) (entries : List (Nat × ChangeEvent)) :
    ChangeEvent.lastAction checkId (entries.map (·.2)) =
      (Tables.about checkId entries).getLast?.map (·.2.action) := by
  unfold ChangeEvent.lastAction Tables.about
  rw [List.filter_map, List.getLast?_map, Option.map_map]
  rfl

theorem lastAction_of_told {before after : Tables} (told : Tables.ToldOf before after news checkId) :
    (after.row? checkId = before.row? checkId ∧
        ChangeEvent.lastAction checkId (news.map (·.2)) = none) ∨
      (after.row? checkId = none ∧
        ChangeEvent.lastAction checkId (news.map (·.2)) = some .delete) := by
  rw [lastAction_of_about]
  rcases told with ⟨row, none_new⟩ | ⟨_, gone, entry, told, deleted⟩
  · exact Or.inl ⟨row, by rw [none_new]; rfl⟩
  · exact Or.inr ⟨gone, by rw [told]; exact congrArg some deleted⟩

theorem lastPending_capture (tidy : tables.Tidy ids) (action : ChangeAction)
    (changed checkId : String) :
    lastPending (tables.capture action changed) checkId =
      if changed = checkId then some action else lastPending tables checkId := by
  rw [lastPending_append (tidy.capture_pending action changed), lastPending]
  by_cases own : changed = checkId <;> simp [ChangeEvent.lastAction, Feed.captured, own]

theorem Settled.same {before after : Tables} (settled : Settled resultsTable before checkId)
    (row_same : after.row? checkId = before.row? checkId)
    (jobs_same : after.jobsOf checkId = before.jobsOf checkId) :
    Settled resultsTable after checkId := by
  rcases settled with ⟨gone, none_left⟩ | ⟨row, check, message, there, valid, jobs⟩
  · exact Or.inl ⟨row_same.trans gone, jobs_same.trans none_left⟩
  · exact Or.inr ⟨row, check, message, row_same.trans there, valid, by rw [jobs_same]; exact jobs⟩

theorem Settled.alike {before after : Tables} (alike : Tables.Alike ids checkId before after)
    (apart : Tables.Apart ids) (settled : Settled resultsTable before checkId) :
    Settled resultsTable after checkId :=
  settled.same alike.row (alike.jobs apart)

/-- Actions on some ids keep a state steady, if they leave settled what has nothing
pending. -/
theorem Steady.course (steady : Steady ids resultsTable s) (apart : Tables.Apart ids)
    (course : Tables.Course chosen s.tables after.tables) (at_rest : after.loop.inPass = false)
    (settles : ∀ checkId ∈ chosen, lastPending s.tables checkId = none →
      after.tables.row? checkId = s.tables.row? checkId → Settled resultsTable after.tables checkId) :
    Steady ids resultsTable after := by
  obtain ⟨news, pending, told⟩ := course.told steady.tidy
  refine { steady.toOrderly.course course at_rest with
    sequenced := course.sequenced steady.sequenced, agrees := ?_, settled := ?_ }
  · intro checkId action last
    rw [lastPending_append pending] at last
    rcases lastAction_of_told (told checkId) with ⟨row, none_new⟩ | ⟨gone, deleted⟩
    · rw [none_new, Option.none_or] at last
      rw [row]
      exact steady.agrees checkId action last
    · rw [deleted, Option.some_or, Option.some.injEq] at last
      simp [← last, gone]
  · intro checkId last
    rw [lastPending_append pending, Option.or_eq_none_iff] at last
    obtain ⟨none_new, none_before⟩ := last
    rcases lastAction_of_told (told checkId) with ⟨row, _⟩ | ⟨_, deleted⟩
    · by_cases inside : checkId ∈ chosen
      · exact settles checkId inside none_before row
      · exact (steady.settled checkId none_before).alike (course.alike steady.tidy inside) apart
    · rw [deleted] at none_new
      cases none_new

theorem Steady.tick (steady : Steady ids resultsTable s) (now : Calendar.Moment) :
    Steady ids resultsTable (s.withTables { s.tables with clock := now }) where
  tidy := { steady.tidy with }
  at_rest := steady.at_rest
  rows := steady.rows
  sequenced := steady.sequenced
  agrees := steady.agrees
  settled := fun checkId last => (steady.settled checkId last).same rfl rfl

theorem Steady.upserted (steady : Steady ids resultsTable s) {d : Definition}
    (known : d.checkId ∈ ids) (supported : Supported resultsTable d) {action : ChangeAction}
    (other : action ≠ .delete) :
    Steady ids resultsTable (s.withTables ((s.tables.setRow d).capture action d.checkId)) := by
  have row : ∀ checkId, ((s.tables.setRow d).capture action d.checkId).row? checkId =
      if d.checkId = checkId then some d else s.tables.row? checkId := fun checkId => by
    rw [Tables.row?_capture, Tables.row?_setRow]
  have last : ∀ checkId, lastPending ((s.tables.setRow d).capture action d.checkId) checkId =
      if d.checkId = checkId then some action else lastPending s.tables checkId := fun checkId =>
    lastPending_capture (steady.tidy.setRow known) action d.checkId checkId
  refine { steady.toOrderly.upserted known supported action with
    sequenced := ?_, agrees := ?_, settled := ?_ }
  · have same : (s.tables.setRow d).Sequenced := steady.sequenced
    exact same.capture action d.checkId
  · intro checkId action' found
    simp only [State.withTables, row, last] at found ⊢
    split
    · rename_i own
      rw [if_pos own, Option.some.injEq] at found
      simp [← found, other]
    · rename_i different
      rw [if_neg different] at found
      exact steady.agrees checkId action' found
  · intro checkId found
    simp only [State.withTables, last] at found ⊢
    split at found
    · cases found
    · rename_i different
      refine (steady.settled checkId found).same ?_ ?_
      · rw [row, if_neg different]
      · simp only [Tables.jobsOf, Tables.jobs_capture]
        rfl

theorem Steady.deleted (steady : Steady ids resultsTable s) (apart : Tables.Apart ids)
    (checkId : String) : Steady ids resultsTable (s.withTables (s.tables.deleteRow checkId)) := by
  refine steady.course apart ((Acted.refl [checkId] s).edit (.deleteRow _)).course steady.at_rest ?_
  intro other member none_pending same
  rw [List.mem_singleton] at member
  subst member
  have absent : s.tables.row? other = none := by
    rw [← same]
    exact s.tables.row?_deleteRow_self other
  simp only [State.withTables, Tables.deleteRow_of_none absent]
  exact steady.settled other none_pending

theorem Supported.compiles {row : Definition} (supported : Supported resultsTable row) :
    (Compile.compile row resultsTable).isOk = true := by
  obtain ⟨verdict, compiled, _⟩ := supported
  rw [compiled]
  rfl

theorem Steady.reconcileOne {trial : Trial} (steady : Steady ids resultsTable trial.base)
    (apart : Tables.Apart ids) (sparing : trial.fate.Sparing) (checkId : String) :
    Steady ids resultsTable ((Deed.reconcileOne checkId).carryOut resultsTable trial) := by
  have acted := trial.run_of_ends
    (reconcileOne_acted ⟨resultsTable, none⟩ checkId (quiet_fate _) steady.tidy)
  refine steady.course apart acted.course (acted.inPass.trans steady.at_rest) ?_
  intro other member none_pending _
  rw [List.mem_singleton] at member
  subst member
  exact reconcileOne_settled ⟨resultsTable, none⟩ steady.tidy
    (fun row there => (steady.rows row (Tables.mem_of_row? there)).compiles) sparing
    (steady.settled other none_pending)

theorem lastAction_kept (failed : List String) (checkId : String) :
    ChangeEvent.lastAction checkId
        ((drained.filter fun entry => failed.contains entry.2.checkId).map (·.2)) =
      if checkId ∈ failed then ChangeEvent.lastAction checkId (drained.map (·.2)) else none := by
  rw [lastAction_of_about, lastAction_of_about]
  unfold Tables.about
  rw [List.filter_filter]
  split
  · rename_i inside
    congr 2
    apply List.filter_congr
    intro entry _
    by_cases own : entry.2.checkId = checkId <;> simp [own, inside]
  · rename_i outside
    have none_kept : (drained.filter fun entry =>
        entry.2.checkId == checkId && failed.contains entry.2.checkId) = [] := by
      rw [List.filter_eq_nil_iff]
      intro entry _ kept
      rw [Bool.and_eq_true, beq_iff_eq, List.contains_iff_mem] at kept
      exact outside (kept.1 ▸ kept.2)
    rw [none_kept]
    rfl

/-- Acknowledging what did not fail keeps a state steady, if what did not fail is settled. -/
theorem Steady.acknowledged (steady : Steady ids resultsTable s)
    (split : s.tables.feed.pending = drained ++ rest)
    (settles : ∀ checkId, ChangeEvent.lastAction checkId (drained.map (·.2)) ≠ none →
      checkId ∉ failedIds outcomes → Settled resultsTable s.tables checkId) :
    Steady ids resultsTable (s.withTables (Sync.acknowledged s.tables drained outcomes)) := by
  have pending := acknowledged_pending steady.tidy split outcomes
  have last_before := lastPending_append split
  refine {
    tidy := acknowledged_tidy steady.tidy split outcomes, at_rest := steady.at_rest
    rows := steady.rows, sequenced := steady.sequenced, agrees := ?_, settled := ?_ }
  · intro checkId action last
    rw [State.withTables, lastPending_append pending, lastAction_kept] at last
    apply steady.agrees
    rw [last_before]
    split at last
    · exact last
    · rw [Option.or_none] at last
      rw [last, Option.some_or]
  · intro checkId last
    rw [State.withTables, lastPending_append pending, lastAction_kept, Option.or_eq_none_iff] at last
    obtain ⟨none_behind, none_kept⟩ := last
    have settled : Settled resultsTable s.tables checkId := by
      by_cases none_drained : ChangeEvent.lastAction checkId (drained.map (·.2)) = none
      · apply steady.settled
        rw [last_before, none_behind, none_drained]
        rfl
      · refine settles checkId none_drained fun failed => none_drained ?_
        rwa [if_pos failed] at none_kept
    exact settled.same rfl rfl

theorem pending_of_asked (member : checkId ∈ (asked tables.feed.pending).map (·.1)) :
    lastPending tables checkId ≠ none := by
  obtain ⟨event, inside, about⟩ := ChangeEvent.mem_collapse_ids.mp member
  exact fun none_pending => ChangeEvent.lastAction_eq_none.mp none_pending event inside about

theorem asked_of_lastAction
    (drained_some : ChangeEvent.lastAction checkId (drained.map (·.2)) ≠ none) :
    ∃ action, (checkId, action) ∈ asked drained := by
  have member : checkId ∈ (asked drained).map (·.1) := by
    apply ChangeEvent.mem_collapse_ids.mpr
    by_contra none_about
    exact drained_some (ChangeEvent.lastAction_eq_none.mpr fun event inside about =>
      none_about ⟨event, inside, about⟩)
  obtain ⟨⟨_, action⟩, asked_for, rfl⟩ := List.mem_map.mp member
  exact ⟨action, asked_for⟩

theorem asked_of_pending (waiting : lastPending tables checkId ≠ none) :
    ∃ action, (checkId, action) ∈ asked tables.feed.pending :=
  asked_of_lastAction waiting

theorem Done.settled {action : ChangeAction} {first last : Tables}
    (done : Done resultsTable checkId action first last)
    (supported : ∀ row, first.row? checkId = some row → Supported resultsTable row) :
    Settled resultsTable last checkId := by
  by_cases deleted : action = .delete
  · exact Or.inl (done.dropped deleted)
  · obtain ⟨row, verdict, there, compiled, settles⟩ := done.brought deleted
    obtain ⟨verdict', compiled', recognized⟩ := supported row there
    rw [compiled, Except.ok.injEq] at compiled'
    exact settles (compiled' ▸ recognized)

variable {befalls : Service.Call → Failure → Prop}

theorem Steady.applied {results : List (Except Failure Outcome)} {loop : Loop.State}
    (steady : Steady ids resultsTable s) (apart : Tables.Apart ids)
    (applied : Applied befalls resultsTable ids (asked s.tables.feed.pending) s.tables middle results)
    (at_rest : loop.inPass = false) : Steady ids resultsTable ⟨middle, loop⟩ :=
  steady.course apart applied.course at_rest fun _ member none_pending =>
    absurd none_pending (pending_of_asked member)

/-- A pass over all that is pending keeps a state steady, whatever befalls it. -/
theorem Steady.passed {found : Except Failure (List Outcome)} (steady : Steady ids resultsTable s)
    (apart : Tables.Apart ids)
    (passed : Passed befalls resultsTable ids s.tables.feed.pending s.tables after.tables found)
    (at_rest : after.loop.inPass = false) : Steady ids resultsTable after := by
  obtain ⟨tables, loop⟩ := after
  cases passed with
  | unread =>
      have still : Tables.Course [] s.tables s.tables := .refl
      exact steady.course apart still at_rest fun _ member => by cases member
  | interrupted applied => exact steady.applied apart applied at_rest
  | @completed middle outcomes _ applied =>
      have steady' : Steady ids resultsTable ⟨middle, loop⟩ := steady.applied apart applied at_rest
      obtain ⟨news, pending, _⟩ := applied.pending steady.tidy (List.append_nil _).symm
      apply steady'.acknowledged pending
      intro checkId waiting well
      obtain ⟨action, asked_for⟩ := asked_of_pending waiting
      obtain ⟨first, last, same, alike, _, ended⟩ :=
        applied.outcome (ChangeEvent.nodup_collapse _) asked_for
      rw [if_neg well] at ended
      refine (ended.settled fun row there => ?_).alike alike apart
      exact steady.rows row (Tables.mem_of_row? (same.row ▸ there))

theorem Steady.reconcileBatch {trial : Trial} (steady : Steady ids resultsTable trial.base)
    (apart : Tables.Apart ids) :
    Steady ids resultsTable ((Deed.reconcileBatch none).carryOut resultsTable trial) := by
  obtain ⟨at_rest, passed⟩ := trial.run_of_ends
    (reconcileBatch_ends ⟨resultsTable, none⟩ (quiet_fate _) steady.tidy steady.at_rest)
  exact steady.passed apart passed at_rest

end CheckKeeper.Sync
