import CheckKeeper.Proofs.History

namespace CheckKeeper.Sync

open Memory Program

/-! Passes that act on what was drained and not on what is there.

A limit may cut the feed between two changes of a row, and an old event may be delivered
again.  Then the final action that a pass sees for an id is not that of the row.
-/

/-- Whether an id has a row that is active and makes a check. -/
def isLive (resultsTable : Value) (tables : Tables) (checkId : String) : Bool :=
  match tables.row? checkId with
  | none => false
  | some row =>
      match Compile.compile row resultsTable with
      | .ok verdict => row.active && verdict.isValid
      | .error _ => false

/-- Whether the final action asks for a row that is gone. -/
def isStale (tables : Tables) (events : List ChangeEvent) (checkId : String) : Bool :=
  (tables.row? checkId).isNone && ChangeEvent.finalAction checkId events != some .delete

def drainedEvents (tables : Tables) (limit : Option Int) : List ChangeEvent :=
  (tables.feed.drain limit).events

/-- A pass to which nothing happens: what it answers, and the state that it leaves. -/
def calmPass (resultsTable : Value) (limit : Option Int) (s : State) :
    Except Failure (List Outcome) × State :=
  (reconcileBatch ⟨resultsTable, limit⟩).run Memory.handle s

variable {ids : List String} {resultsTable : Value} {limit : Option Int} {checkId : String}
  {action : ChangeAction} {s : State} {P : Definition → Prop} {before after : Tables}
  {found : Except Failure (List Outcome)} {drained rest : List (Nat × ChangeEvent)}

theorem calmPass_passed (resultsTable : Value) (limit : Option Int) (orderly : Orderly ids P s) :
    Passed nothing resultsTable ids (s.tables.feed.drainable limit) s.tables
      (calmPass resultsTable limit s).2.tables (calmPass resultsTable limit s).1 :=
  (run_of_ends_nothing (reconcileBatch_ends ⟨resultsTable, limit⟩ quiet_nothing orderly.tidy
    orderly.at_rest)).2

/-- The state in a phase of a pass. -/
def during (s : State) (phase : Phase) : State :=
  ⟨s.tables, { s.loop with inPass := true, phase }⟩

/-- A calm pass that drains something settles it. -/
theorem calmPass_eq (at_rest : s.loop.inPass = false)
    (some_drained : (s.tables.feed.drain limit).isEmpty = false) :
    calmPass resultsTable limit s =
      ((settle ⟨resultsTable, limit⟩ (s.tables.feed.drain limit)).ensuring Work.leavePass).run
        Memory.handle (during s .draining) := by
  have entered : calmPass resultsTable limit s =
      ((pass ⟨resultsTable, limit⟩).ensuring Work.leavePass).run Memory.handle
        (during s s.loop.phase) := by
    change (if (!s.loop.inPass) = true then _ else _ : Work (List Outcome)).run Memory.handle
      (during s s.loop.phase) = _
    rw [at_rest]
    rfl
  have settled : (pass ⟨resultsTable, limit⟩).run Memory.handle (during s s.loop.phase) =
      (settle ⟨resultsTable, limit⟩ (s.tables.feed.drain limit)).run Memory.handle
        (during s .draining) := by
    change (if (s.tables.feed.drain limit).isEmpty = true then _ else _ : Work (List Outcome)).run
      Memory.handle (during s .draining) = _
    rw [some_drained]
    rfl
  rw [entered, run_ensuring, run_ensuring, settled]

theorem not_befallen {failure : Failure} : ¬ Befallen nothing failure :=
  fun ⟨_, fails⟩ => fails

theorem exists_of_isLive (live : isLive resultsTable before checkId = true) :
    ∃ row check message, before.row? checkId = some row ∧ row.active = true ∧
      Compile.compile row resultsTable = .ok (.valid check message) := by
  unfold isLive at live
  split at live
  · cases live
  · rename_i row there
    split at live
    · rename_i verdict compiled
      cases verdict with
      | valid check message =>
          exact ⟨row, check, message, there, by simpa [Verdict.isValid] using live, compiled⟩
      | invalid => simp [Verdict.isValid] at live
    · cases live

theorem Passed.applied (passed : Passed nothing resultsTable ids drained before after found) :
    ∃ middle results, Applied nothing resultsTable ids (asked drained) before middle results ∧
      ∀ checkId, Tables.Alike ids checkId middle after := by
  cases passed with
  | unread befallen => exact absurd befallen not_befallen
  | interrupted applied => exact ⟨after, _, applied, fun _ => Tables.Alike.refl _ _ _⟩
  | completed applied => exact ⟨_, _, applied, fun _ => ⟨rfl, fun _ member _ => member, fun _ => rfl⟩⟩

theorem Passed.alike (passed : Passed nothing resultsTable ids drained before after found)
    (tidy : before.Tidy ids) (left_out : checkId ∉ (asked drained).map (·.1)) :
    Tables.Alike ids checkId before after := by
  obtain ⟨middle, results, applied, alike⟩ := passed.applied
  exact (applied.course.alike tidy left_out).trans (alike checkId)

theorem Effect.absent {outcome : Except Failure Outcome}
    (effect : Effect nothing resultsTable checkId .delete before after outcome) :
    Absent after checkId := by
  have no_failure : ∀ failure, ¬ Fails nothing resultsTable before checkId .delete failure := by
    rintro failure (befallen | ⟨other, _⟩)
    · exact not_befallen befallen
    · exact other rfl
  have ended := effect.answers
  cases outcome with
  | error failure => exact absurd ended.2 (no_failure failure)
  | ok outcome =>
      obtain ⟨_, ended⟩ := ended
      split at ended
      · obtain ⟨failure, fails⟩ := ended
        exact absurd fails (no_failure failure)
      · exact ended.dropped rfl

theorem Passed.deleted (passed : Passed nothing resultsTable ids drained before after found)
    (final : ChangeEvent.finalAction checkId (drained.map (·.2)) = some .delete) :
    after.row? checkId = none ∧ (Tables.Apart ids → after.jobsOf checkId = []) := by
  obtain ⟨middle, results, applied, alike⟩ := passed.applied
  obtain ⟨_, _, first, last, _, effect, alike'⟩ :=
    exists_right applied.effects (ChangeEvent.mem_collapse.mpr final)
  have absent := effect.absent
  have same := alike'.trans (alike checkId)
  exact ⟨same.row.trans absent.row, fun apart => (same.jobs apart).trans absent.jobs⟩

/-- What a calm pass does to an id with a row that makes a check, and another final action
or none. -/
theorem Passed.kept {row : Definition} {check : CompiledCheck} {message : String}
    (passed : Passed nothing resultsTable ids drained before after found) (tidy : before.Tidy ids)
    (there : before.row? checkId = some row)
    (valid : Compile.compile row resultsTable = .ok (.valid check message))
    (final : ChangeEvent.finalAction checkId (drained.map (·.2)) ≠ some .delete) :
    after.row? checkId = some row ∧
      (Tables.Apart ids → after.jobsOf checkId = before.jobsOf checkId ∨
        (after.jobsOf checkId).map Job.content = wanted row check) := by
  obtain ⟨middle, results, applied, alike⟩ := passed.applied
  cases last : ChangeEvent.finalAction checkId (drained.map (·.2)) with
  | none =>
      have left_out : checkId ∉ (asked drained).map (·.1) := by
        rw [asked, ChangeEvent.mem_collapse_ids]
        rintro ⟨event, member, about⟩
        exact ChangeEvent.finalAction_eq_none.mp last event member about
      have same := passed.alike tidy left_out
      exact ⟨same.row.trans there, fun apart => Or.inl (same.jobs apart)⟩
  | some action =>
      have other : action ≠ .delete := fun deleted => final (by rw [last, deleted])
      obtain ⟨_, _, first, done, same, effect, alike'⟩ :=
        exists_right applied.effects (ChangeEvent.mem_collapse.mpr last)
      have same' := alike'.trans (alike checkId)
      obtain ⟨row_kept, jobs⟩ := effect.kept other row check message (same.row.trans there) valid
      refine ⟨same'.row.trans row_kept, fun apart => ?_⟩
      rw [same'.jobs apart, ← same.jobs apart]
      exact jobs

/-- A calm pass keeps a live row, and the job that it has, exactly when the final action
that it has drained for the id is no delete. -/
theorem calmPass_keeps_iff (resultsTable : Value) (clock : Calendar.Moment)
    (deeds : List (Deed × Fate)) (limit : Option Int) (checkId : String)
    (live : isLive resultsTable (history resultsTable (.start clock true) deeds).tables checkId =
      true) :
    let before := (history resultsTable (.start clock true) deeds)
    let after := (calmPass resultsTable limit before).2
    let final := ChangeEvent.finalAction checkId (drainedEvents before.tables limit)
    (after.tables.row? checkId = before.tables.row? checkId ↔ final ≠ some .delete) ∧
      (Tables.Apart (upsertedIds deeds) → before.tables.jobsOf checkId ≠ [] →
        (after.tables.jobsOf checkId ≠ [] ↔ final ≠ some .delete)) := by
  intro before after final
  have orderly : Orderly (upsertedIds deeds) (fun _ => True) before :=
    (orderly_start clock _ _).history (fun _ _ _ holds => holds)
      fun d brought => ⟨List.mem_map_of_mem brought, trivial⟩
  have passed := calmPass_passed resultsTable limit orderly
  obtain ⟨row, check, message, there, active, valid⟩ := exists_of_isLive live
  by_cases deleted : final = some .delete
  · obtain ⟨row_gone, jobs_gone⟩ := passed.deleted deleted
    refine ⟨⟨fun same => ?_, fun other => absurd deleted other⟩, fun apart _ =>
      ⟨fun left => absurd (jobs_gone apart) left, fun other => absurd deleted other⟩⟩
    rw [row_gone, there] at same
    cases same
  · obtain ⟨row_kept, jobs_kept⟩ := passed.kept orderly.tidy there valid deleted
    refine ⟨⟨fun _ => deleted, fun _ => row_kept.trans there.symm⟩, fun apart had =>
      ⟨fun _ => deleted, fun _ none_left => ?_⟩⟩
    rcases jobs_kept apart with same | renewed
    · exact had (same.symm.trans none_left)
    · rw [none_left, wanted, if_pos active] at renewed
      cases renewed

/-- A check on a key of its own, for the example histories. -/
def sample : Definition where
  checkId := "a"
  checkName := .null
  checkType := .text "UNIQUENESS"
  schedule := .text "daily"
  targetSchema := .text "s"
  targetTable := .text "t"
  keyColumns := ["id"]
  rowFilter := .null
  slaMinutes := .null
  sourceQuery := .null
  targetQuery := .null
  thresholdRatio := .null
  isActive := .bool true
  createdAt := .null
  updatedAt := .null
  createdBy := .null
  updatedBy := .null
  hasId := by decide

def otherSample : Definition :=
  { sample with checkId := "b", hasId := by decide }

/-- A row is written, gets its job, and is written again. -/
def updated : List (Deed × Fate) :=
  [(.upsert sample, []), (.reconcileBatch (some 1), []), (.upsert sample, [])]

theorem updated_kept :
    let before := history (.text "results") (.start .earliest true) updated
    let after := (calmPass (.text "results") (some 1) before).2
    after.tables.row? "a" = before.tables.row? "a" ∧ after.tables.jobsOf "a" ≠ [] := by
  have now : isLive (.text "results")
        (history (.text "results") (.start .earliest true) updated).tables "a" = true ∧
      ChangeEvent.finalAction "a" (drainedEvents
        (history (.text "results") (.start .earliest true) updated).tables (some 1)) ≠
          some .delete ∧
      ((history (.text "results") (.start .earliest true) updated).tables.jobsOf "a").isEmpty =
        false := by decide +kernel
  have apart : Tables.Apart (upsertedIds updated) := by
    unfold Tables.Apart
    decide +kernel
  obtain ⟨live, kept, had⟩ := now
  obtain ⟨row, jobs⟩ :=
    calmPass_keeps_iff (.text "results") .earliest updated (some 1) "a" live
  refine ⟨row.mpr kept, (jobs apart fun none_there => ?_).mpr kept⟩
  rw [none_there] at had
  cases had

/-- The same, where the row was deleted in between. -/
def rewritten : List (Deed × Fate) :=
  [(.upsert sample, []), (.reconcileBatch (some 1), []), (.delete "a", []), (.upsert sample, [])]

/-- A pass that drains the delete alone takes the row that was written again, and its job. -/
theorem rewritten_lost :
    let before := history (.text "results") (.start .earliest true) rewritten
    let after := (calmPass (.text "results") (some 1) before).2
    isLive (.text "results") before.tables "a" = true ∧ (after.tables.row? "a").isNone = true ∧
      (before.tables.jobsOf "a").length = 1 ∧ (after.tables.jobsOf "a").length = 0 := by
  decide +kernel

/-- Rows that the compiler has a verdict on. -/
abbrev Compiles (resultsTable : Value) (row : Definition) : Prop :=
  (Compile.compile row resultsTable).isOk = true

theorem compiles_unstamped (resultsTable : Value) : Unstamped (Compiles resultsTable) := by
  intro d createdAt updatedAt compiles
  rwa [Compiles, Compile.compile_stamped]

theorem Fails.absent {failure : Failure}
    (fails : Fails nothing resultsTable before checkId action failure)
    (compiles : ∀ row, before.row? checkId = some row → Compiles resultsTable row) :
    action ≠ .delete ∧ before.row? checkId = none ∧ failure = .notFound checkId := by
  rcases fails with befallen | ⟨other, ⟨gone, same⟩ | ⟨row, there, failed⟩⟩
  · exact absurd befallen not_befallen
  · exact ⟨other, gone, same⟩
  · have compiled := compiles row there
    rw [Compiles, failed] at compiled
    cases compiled

theorem isStale_iff {events : List ChangeEvent} :
    isStale before events checkId = true ↔
      before.row? checkId = none ∧ ChangeEvent.finalAction checkId events ≠ some .delete := by
  simp [isStale]

/-- When nothing happens, an action fails exactly when its id is stale. -/
theorem failed_iff_isStale {events : List ChangeEvent} {failed : Prop} [Decidable failed]
    (ended : if failed then ∃ failure, Fails nothing resultsTable before checkId action failure
      else Done resultsTable checkId action before after)
    (compiles : ∀ row, before.row? checkId = some row → Compiles resultsTable row)
    (final : ChangeEvent.finalAction checkId events = some action) :
    failed ↔ isStale before events checkId = true := by
  rw [isStale_iff, final]
  split at ended
  · rename_i wrong
    obtain ⟨failure, fails⟩ := ended
    obtain ⟨other, gone, _⟩ := fails.absent compiles
    exact ⟨fun _ => ⟨gone, fun deleted => other (Option.some.inj deleted)⟩, fun _ => wrong⟩
  · rename_i well
    refine ⟨fun wrong => absurd wrong well, fun ⟨gone, other⟩ => ?_⟩
    obtain ⟨row, _, there, _⟩ := ended.brought fun deleted => other (congrArg some deleted)
    rw [gone] at there
    cases there

theorem Alike.isStale (alike : Tables.Alike ids checkId before after) (events : List ChangeEvent) :
    isStale after events checkId = isStale before events checkId := by
  simp only [Sync.isStale, alike.row]

/-- A calm pass answers for each id whether it is stale, and leaves pending the events of
stale ids, what it has not drained, and news of the rows that it has removed. -/
theorem Passed.answers (passed : Passed nothing resultsTable ids drained before after found)
    (tidy : before.Tidy ids) (compiles : ∀ row ∈ before.rows, Compiles resultsTable row)
    (split : before.feed.pending = drained ++ rest) :
    ∃ outcomes news, found = .ok outcomes ∧ (∀ checkId, Tables.ToldOf before after news checkId) ∧
      (∀ event ∈ drained.map (·.2), ∃ outcome ∈ outcomes, outcome.checkId = event.checkId) ∧
      (∀ outcome ∈ outcomes,
        outcome.failed = isStale before (drained.map (·.2)) outcome.checkId) ∧
      ((drained ++ (rest ++ news)).Pairwise fun a b => a.1 < b.1) ∧
      after.feed.pending =
        (drained.filter fun entry => isStale before (drained.map (·.2)) entry.2.checkId) ++
          (rest ++ news) := by
  have compiles' : ∀ {checkId first}, Tables.Alike ids checkId before first →
      ∀ row, first.row? checkId = some row → Compiles resultsTable row := fun alike row there =>
    compiles row (Tables.mem_of_row? (alike.row ▸ there))
  cases passed with
  | unread befallen => exact absurd befallen not_befallen
  | interrupted applied cause =>
      exfalso
      rcases cause with broken | befallen
      · obtain ⟨pair, _, first, last, alike, effect, _⟩ := exists_left applied.effects broken
        obtain ⟨interrupt, fails⟩ := effect.answers
        obtain ⟨_, _, rfl⟩ := fails.absent (compiles' alike)
        simp [Failure.isInterrupt] at interrupt
      · exact not_befallen befallen
  | @completed middle outcomes _ applied answered =>
      obtain ⟨news, pending, told⟩ := applied.pending tidy split
      have tidy' := applied.course.tidy tidy
      refine ⟨outcomes, news, ?_, told, ?_, ?_, ?_, ?_⟩
      · exact answered.resolve_right fun ⟨_, befallen, _⟩ => not_befallen befallen
      · intro event member
        obtain ⟨pair, asked_for, about⟩ := List.mem_map.mp
          (ChangeEvent.mem_collapse_ids.mpr ⟨event, member, rfl⟩)
        obtain ⟨_, inside, _, _, _, effect, _⟩ := exists_right applied.effects asked_for
        obtain ⟨outcome, listed, rfl⟩ := List.mem_map.mp inside
        exact ⟨outcome, listed, effect.answers.1.trans about⟩
      · intro outcome member
        obtain ⟨pair, asked_for, first, last, alike, effect, _⟩ :=
          exists_left applied.effects (List.mem_map_of_mem member)
        obtain ⟨same, ended⟩ := effect.answers
        rw [same, Bool.eq_iff_iff, ← Alike.isStale alike]
        exact failed_iff_isStale ended (compiles' alike) (ChangeEvent.mem_collapse.mp asked_for)
      · rw [← pending]
        exact tidy'.feed.pending_ordered
      · rw [acknowledged_pending tidy' pending]
        congr 1
        apply List.filter_congr
        intro entry member
        obtain ⟨⟨_, action⟩, asked_for, rfl⟩ := List.mem_map.mp
          (ChangeEvent.mem_collapse_ids.mpr ⟨entry.2, List.mem_map_of_mem member, rfl⟩)
        obtain ⟨first, last, alike, _, _, ended⟩ :=
          applied.outcome (ChangeEvent.nodup_collapse _) asked_for
        rw [Bool.eq_iff_iff, List.contains_iff_mem, ← Alike.isStale alike]
        exact failed_iff_isStale ended (compiles' alike) (ChangeEvent.mem_collapse.mp asked_for)

theorem not_mem_kept {p : Nat × ChangeEvent → Bool} {later : List (Nat × ChangeEvent)}
    (ordered : (drained ++ later).Pairwise fun a b => a.1 < b.1) {entry : Nat × ChangeEvent}
    (member : entry ∈ drained) (dropped : p entry = false) :
    entry ∉ drained.filter p ++ later := by
  rw [List.pairwise_append] at ordered
  intro left
  rcases List.mem_append.mp left with kept | behind
  · rw [(List.mem_filter.mp kept).2] at dropped
    cases dropped
  · exact Nat.lt_irrefl _ (ordered.2.2 entry member entry behind)

/-- A calm pass fails for the stale ids and no others, and acknowledges an event exactly
when it has drained one that is not stale. -/
theorem calmPass_progress_iff (resultsTable : Value) (clock : Calendar.Moment)
    (deeds : List (Deed × Fate)) (limit : Option Int)
    (compiles : ∀ d ∈ upserts deeds, Compiles resultsTable d)
    (positive : ∀ most, limit = some most → 1 ≤ most) :
    let before := (history resultsTable (.start clock true) deeds)
    let after := (calmPass resultsTable limit before).2
    let drained := drainedEvents before.tables limit
    ∃ outcomes, (calmPass resultsTable limit before).1 = .ok outcomes ∧
      (∀ event ∈ drained, ∃ outcome ∈ outcomes, outcome.checkId = event.checkId) ∧
      (∀ outcome ∈ outcomes, outcome.failed = isStale before.tables drained outcome.checkId) ∧
      (before.tables.feed.hasPending = true → drained ≠ [] ∧
        ((∃ entry ∈ before.tables.feed.pending, entry ∉ after.tables.feed.pending) ↔
          ∃ event ∈ drained, isStale before.tables drained event.checkId = false)) := by
  intro before after drained
  have orderly : Orderly (upsertedIds deeds) (Compiles resultsTable) before :=
    (orderly_start clock _ _).history (compiles_unstamped resultsTable)
      fun d brought => ⟨List.mem_map_of_mem brought, compiles d brought⟩
  have passed := calmPass_passed resultsTable limit orderly
  obtain ⟨rest, split⟩ := Feed.drainable_prefix before.tables.feed limit
  obtain ⟨outcomes, news, answered, _, covered, failed, ordered, pending⟩ :=
    passed.answers orderly.tidy orderly.rows split.symm
  refine ⟨outcomes, answered, covered, failed, fun waiting => ⟨?_, ?_, ?_⟩⟩
  · have some_pending : before.tables.feed.pending ≠ [] := by
      simpa [Feed.hasPending] using waiting
    have some_drained := Feed.drainable_ne_nil some_pending positive
    exact fun none_drained => some_drained (List.map_eq_nil_iff.mp none_drained)
  · rintro ⟨entry, was_pending, acknowledged⟩
    rw [← split] at was_pending
    rw [pending] at acknowledged
    rcases List.mem_append.mp was_pending with inside | behind
    · refine ⟨entry.2, List.mem_map_of_mem inside, ?_⟩
      by_contra stale
      rw [Bool.not_eq_false] at stale
      exact acknowledged (List.mem_append_left _ (List.mem_filter.mpr ⟨inside, stale⟩))
    · exact absurd (List.mem_append_right _ (List.mem_append_left _ behind)) acknowledged
  · rintro ⟨event, member, fresh⟩
    obtain ⟨entry, inside, rfl⟩ := List.mem_map.mp member
    refine ⟨entry, by rw [← split]; exact List.mem_append_left _ inside, ?_⟩
    rw [pending]
    exact not_mem_kept ordered inside fresh

/-- A row is written, gets its job, and is deleted. -/
def deleted : List (Deed × Fate) :=
  [(.upsert sample, []), (.reconcileBatch (some 1), []), (.delete "a", [])]

theorem deleted_progress :
    let before := history (.text "results") (.start .earliest true) deleted
    let after := (calmPass (.text "results") (some 1) before).2
    ∃ entry ∈ before.tables.feed.pending, entry ∉ after.tables.feed.pending := by
  have now : (∀ d ∈ upserts deleted, Compiles (.text "results") d) ∧
      (history (.text "results") (.start .earliest true) deleted).tables.feed.hasPending = true ∧
      ∃ event ∈ drainedEvents
          (history (.text "results") (.start .earliest true) deleted).tables (some 1),
        isStale (history (.text "results") (.start .earliest true) deleted).tables
          (drainedEvents (history (.text "results") (.start .earliest true) deleted).tables
            (some 1)) event.checkId = false := by decide +kernel
  obtain ⟨compiles, waiting, fresh⟩ := now
  obtain ⟨_, _, _, _, progress⟩ :=
    calmPass_progress_iff (.text "results") .earliest deleted (some 1) compiles (by simp)
  exact (progress waiting).2.mpr fresh

/-- A row is written, and deleted before the first pass. -/
def withdrawn : List (Deed × Fate) :=
  [(.upsert sample, []), (.delete "a", [])]

/-- A pass that drains the insert alone fails and acknowledges nothing. -/
theorem withdrawn_stuck :
    let before := history (.text "results") (.start .earliest true) withdrawn
    let ran := calmPass (.text "results") (some 1) before
    before.tables.feed.hasPending = true ∧
      (ran.1.toOption.any fun outcomes => outcomes.any Outcome.failed) = true ∧
      ran.2.tables.feed.pending.map (·.1) = before.tables.feed.pending.map (·.1) := by
  decide +kernel

end CheckKeeper.Sync
