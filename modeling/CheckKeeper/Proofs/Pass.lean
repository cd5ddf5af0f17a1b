import Mathlib.Data.List.Forall2
import CheckKeeper.Proofs.Collapse
import CheckKeeper.Proofs.Synchronizer
import CheckKeeper.Sync.Reconciler

namespace CheckKeeper.Sync

open Memory Program

/-! What a pass comes to, action by action, whatever befalls its calls. -/

variable {befalls : Service.Call → Failure → Prop} {ids : List String} {settings : Settings}
  {resultsTable : Value} {checkId : String} {action : ChangeAction} {s : State}
  {before middle after : Tables} {actions : List (String × ChangeAction)}
  {results : List (Except Failure Outcome)}

/-- Why an action fails: a call has failed, or there was nothing to bring in step. -/
def Fails (befalls : Service.Call → Failure → Prop) (resultsTable : Value) (before : Tables)
    (checkId : String) (action : ChangeAction) (failure : Failure) : Prop :=
  Befallen befalls failure ∨ (action ≠ .delete ∧ Refused resultsTable before checkId failure)

/-- What an action that did not fail has come to. -/
structure Done (resultsTable : Value) (checkId : String) (action : ChangeAction)
    (before after : Tables) : Prop where
  dropped : action = .delete → Absent after checkId
  brought : action ≠ .delete → ∃ row verdict, before.row? checkId = some row ∧
    Compile.compile row resultsTable = .ok verdict ∧
    (verdict.isUnsupported = false → Settled resultsTable after checkId)

/-- How an action is answered: by an outcome for its id, or by an interrupt. -/
def Answers (befalls : Service.Call → Failure → Prop) (resultsTable : Value) (checkId : String)
    (action : ChangeAction) (before after : Tables) : Except Failure Outcome → Prop
  | .ok outcome => outcome.checkId = checkId ∧
      if outcome.failed = true then ∃ failure, Fails befalls resultsTable before checkId action failure
      else Done resultsTable checkId action before after
  | .error failure => failure.isInterrupt = true ∧
      Fails befalls resultsTable before checkId action failure

/-- What one action does to its id. -/
structure Effect (befalls : Service.Call → Failure → Prop) (resultsTable : Value)
    (checkId : String) (action : ChangeAction) (before after : Tables)
    (found : Except Failure Outcome) : Prop where
  kept : action ≠ .delete → Kept resultsTable checkId before after
  answers : Answers befalls resultsTable checkId action before after found

theorem act_ends (quiet : Quiet befalls) (tidy : s.tables.Tidy ids) :
    (act settings checkId action).Ends (Turn befalls)
      (fun found after => Acted [checkId] s after ∧
        (action ≠ .delete → Kept settings.resultsTable checkId s.tables after.tables) ∧
        match found with
        | .ok outcome => outcome.checkId = checkId ∧ outcome.failed = false ∧
            Done settings.resultsTable checkId action s.tables after.tables
        | .error failure => Fails befalls settings.resultsTable s.tables checkId action failure) s := by
  by_cases deleted : action = .delete
  · subst action
    refine (drop_ends quiet tidy).mono ?_
    rintro found after ⟨dropping, ended⟩
    refine ⟨dropping.toActed, fun other => absurd rfl other, ?_⟩
    cases found with
    | error failure => exact Or.inl ended
    | ok outcome =>
        obtain ⟨same, well, absent⟩ := ended
        exact ⟨same, well, fun _ => absent, fun other => absurd rfl other⟩
  · have bringing : act settings checkId action = createOrReplace settings.resultsTable checkId := by
      cases action with
      | delete => exact absurd rfl deleted
      | insert => rfl
      | update => rfl
    rw [bringing]
    refine (createOrReplace_ends quiet tidy).mono ?_
    rintro found after ⟨bringing, ended⟩
    refine ⟨bringing.toActed, fun _ => bringing.kept, ?_⟩
    cases found with
    | error failure => exact ended.imp_right fun refused => ⟨deleted, refused⟩
    | ok outcome =>
        obtain ⟨same, well, brought⟩ := ended
        exact ⟨same, well, fun same => absurd same deleted, fun _ => brought⟩

theorem apply_ends (quiet : Quiet befalls) (tidy : s.tables.Tidy ids) :
    (apply settings checkId action).Ends (Turn befalls)
      (fun found after => Acted [checkId] s after ∧
        Effect befalls settings.resultsTable checkId action s.tables after.tables found) s := by
  apply ends_bind
  apply ends_attempt
  refine (act_ends quiet tidy).mono ?_
  rintro found after ⟨acted, kept, ended⟩
  cases found with
  | ok outcome =>
      obtain ⟨same, well, done⟩ := ended
      refine ⟨acted, kept, same, ?_⟩
      rw [well]
      exact done
  | error failure =>
      simp only [Continues]
      split
      · rename_i interrupt
        exact ⟨acted, kept, interrupt, ended⟩
      · exact ends_note quiet ⟨acted.noted _ _, kept, rfl, failure, ended⟩

/-- What the actions come to, each for its own id, between two states of the tables. -/
abbrev Effects (befalls : Service.Call → Failure → Prop) (resultsTable : Value)
    (ids : List String) (before after : Tables) :
    List (String × ChangeAction) → List (Except Failure Outcome) → Prop :=
  List.Forall₂ fun pair found => ∃ first last,
    Tables.Alike ids pair.1 before first ∧
    Effect befalls resultsTable pair.1 pair.2 first last found ∧
    Tables.Alike ids pair.1 last after

/-- The actions of a batch have been carried out. -/
structure Applied (befalls : Service.Call → Failure → Prop) (resultsTable : Value)
    (ids : List String) (actions : List (String × ChangeAction)) (before after : Tables)
    (results : List (Except Failure Outcome)) : Prop where
  course : Tables.Course (actions.map (·.1)) before after
  effects : Effects befalls resultsTable ids before after actions results

/-- Each action finds its id as it was before all of them, and what it does to the id is
not touched by those behind it. -/
theorem applyEach_ends (quiet : Quiet befalls) (tidy : s.tables.Tidy ids)
    (distinct : (actions.map (·.1)).Nodup)
    (alike : ∀ pair ∈ actions, Tables.Alike ids pair.1 before s.tables) :
    (applyEach settings actions).Ends (Turn befalls)
      (fun found after => ∃ results, found = .ok results ∧ Acted (actions.map (·.1)) s after ∧
        Effects befalls settings.resultsTable ids before after.tables actions results) s := by
  induction actions generalizing s with
  | nil => exact ⟨[], rfl, Acted.refl _ s, .nil⟩
  | cons pair rest ih =>
      rw [List.map_cons, List.nodup_cons] at distinct
      obtain ⟨fresh, distinct⟩ := distinct
      apply ends_bind
      apply ends_attempt
      refine (apply_ends quiet tidy).mono ?_
      rintro found middle ⟨acted, effect⟩
      have tidy' := acted.course.tidy tidy
      have alike' : ∀ pair ∈ rest, Tables.Alike ids pair.1 before middle.tables := by
        intro other member
        have different : other.1 ∉ [pair.1] := by
          rw [List.mem_singleton]
          exact fun same => fresh (same ▸ List.mem_map_of_mem member)
        exact (alike other (List.mem_cons_of_mem _ member)).trans (acted.course.alike tidy different)
      apply ends_bind
      refine (ih tidy' distinct alike').mono ?_
      rintro _ after ⟨results, rfl, acted', effects⟩
      have all : Acted (pair.1 :: rest.map (·.1)) s after :=
        ⟨(acted.course.mono (by simp)).trans (acted'.course.mono (by simp)),
          acted'.phase.trans acted.phase, acted'.inPass.trans acted.inPass⟩
      refine ⟨found :: results, rfl, all, .cons ?_ effects⟩
      exact ⟨s.tables, middle.tables, alike pair List.mem_cons_self, effect,
        acted'.course.alike tidy' fresh⟩

theorem mapM_id_eq_ok {outcomes : List Outcome} (all : results.mapM id = .ok outcomes) :
    results = outcomes.map .ok := by
  induction results generalizing outcomes with
  | nil =>
      cases all
      rfl
  | cons found rest ih =>
      rw [List.mapM_cons] at all
      obtain ⟨outcome, first, all⟩ := Compile.bind_eq_ok all
      obtain ⟨others, later, all⟩ := Compile.bind_eq_ok all
      cases all
      rw [List.map_cons, ih later]
      exact congrArg (· :: _) first

theorem mem_of_mapM_id_eq_error {failure : Failure} (broken : results.mapM id = .error failure) :
    .error failure ∈ results := by
  induction results with
  | nil => cases broken
  | cons found rest ih =>
      rw [List.mapM_cons] at broken
      cases found with
      | error first =>
          cases broken
          exact List.mem_cons_self
      | ok outcome =>
          cases later : rest.mapM id with
          | error failure' =>
              rw [later] at broken
              cases broken
              exact List.mem_cons_of_mem _ (ih later)
          | ok outcomes =>
              rw [later] at broken
              cases broken

/-- The ids whose actions failed. -/
def failedIds (outcomes : List Outcome) : List String :=
  (outcomes.filter Outcome.failed).map Outcome.checkId

/-- The tables when the drained events are acknowledged, without those of failed ids. -/
def acknowledged (tables : Tables) (drained : List (Nat × ChangeEvent)) (outcomes : List Outcome) :
    Tables :=
  { tables with
    feed := tables.feed.acknowledge ((Feed.batchOf drained).excluding (failedIds outcomes)) }

/-- What a batch asks for. -/
def asked (drained : List (Nat × ChangeEvent)) : List (String × ChangeAction) :=
  ChangeEvent.collapse (drained.map (·.2))

theorem asked_nil : asked [] = [] := by
  simp [asked, ChangeEvent.collapse, ChangeEvent.inOrder]

/-- How a pass ends that has drained some events: nothing was done, or all was done and
nothing acknowledged, or all was done and acknowledged. -/
inductive Passed (befalls : Service.Call → Failure → Prop) (resultsTable : Value)
    (ids : List String) (drained : List (Nat × ChangeEvent)) (before : Tables) :
    Tables → Except Failure (List Outcome) → Prop
  | unread {failure : Failure} (befallen : Befallen befalls failure) :
      Passed befalls resultsTable ids drained before before (.error failure)
  | interrupted {after : Tables} {results : List (Except Failure Outcome)} {failure : Failure}
      (applied : Applied befalls resultsTable ids (asked drained) before after results)
      (cause : .error failure ∈ results ∨ Befallen befalls failure) :
      Passed befalls resultsTable ids drained before after (.error failure)
  | completed {middle : Tables} {outcomes : List Outcome} {found : Except Failure (List Outcome)}
      (applied : Applied befalls resultsTable ids (asked drained) before middle (outcomes.map .ok))
      (answered : found = .ok outcomes ∨ ∃ failure, Befallen befalls failure ∧ found = .error failure) :
      Passed befalls resultsTable ids drained before (acknowledged middle drained outcomes) found

theorem ends_setPhase {α : Type} {phase : Phase} {next : Unit → Work α}
    {post : Except Failure α → State → Prop} (quiet : Quiet befalls)
    (rest : (next ()).Ends (Turn befalls) post { s with loop := { s.loop with phase } }) :
    (Work.setPhase phase >>= next).Ends (Turn befalls) post s :=
  ends_call (fun failure fails => absurd fails (quiet _ failure))
    (fun failure fails => absurd fails (quiet _ failure)) rest

theorem applyAll_ends (quiet : Quiet befalls) (tidy : s.tables.Tidy ids)
    (distinct : (actions.map (·.1)).Nodup) :
    (applyAll settings actions).Ends (Turn befalls)
      (fun found after => after.loop.inPass = s.loop.inPass ∧
        ∃ results, Applied befalls settings.resultsTable ids actions s.tables after.tables results ∧
          match found with
          | .ok outcomes => results = outcomes.map .ok
          | .error failure => .error failure ∈ results) s := by
  apply ends_bind
  refine (applyEach_ends quiet tidy distinct fun pair _ => Tables.Alike.refl _ _ _).mono ?_
  rintro _ after ⟨results, rfl, acted, effects⟩
  apply ends_ofExcept
  refine ⟨acted.inPass, results, ⟨acted.course, effects⟩, ?_⟩
  cases all : results.mapM id with
  | error failure => exact mem_of_mapM_id_eq_error all
  | ok outcomes => exact mapM_id_eq_ok all

theorem settle_ends (quiet : Quiet befalls) (tidy : s.tables.Tidy ids)
    (drained : List (Nat × ChangeEvent)) :
    (settle settings (Feed.batchOf drained)).Ends (Turn befalls)
      (fun found after => after.loop.inPass = s.loop.inPass ∧
        Passed befalls settings.resultsTable ids drained s.tables after.tables found) s := by
  have tidy' : ∀ loop, (State.mk s.tables loop).tables.Tidy ids := fun _ => tidy
  apply ends_note quiet
  apply ends_setPhase quiet
  apply ends_bind
  refine (applyAll_ends quiet (tidy' _) (ChangeEvent.nodup_collapse _)).mono ?_
  rintro found middle ⟨inPass, results, applied, ended⟩
  cases found with
  | error failure => exact ⟨inPass, .interrupted applied (Or.inl ended)⟩
  | ok outcomes =>
      subst ended
      refine ends_call (fun failure fails => ⟨inPass, .interrupted applied (Or.inr ⟨_, fails⟩)⟩)
        (fun failure fails => ⟨inPass, .completed applied (Or.inr ⟨failure, ⟨_, fails⟩, rfl⟩)⟩) ?_
      simp only [Memory.handle, Continues]
      -- Whether some ids are left pending only matters to what is noted.
      split
      · apply ends_note quiet
        apply ends_note quiet
        exact ⟨inPass, .completed applied (Or.inl rfl)⟩
      · apply ends_note quiet
        exact ⟨inPass, .completed applied (Or.inl rfl)⟩

theorem acknowledged_nil (tables : Tables) : acknowledged tables [] [] = tables := by
  simp [acknowledged, failedIds, Feed.acknowledge, Feed.batchOf, Batch.excluding]

theorem pass_ends (quiet : Quiet befalls) (tidy : s.tables.Tidy ids) :
    (pass settings).Ends (Turn befalls)
      (fun found after => after.loop.inPass = s.loop.inPass ∧
        Passed befalls settings.resultsTable ids (s.tables.feed.drainable settings.batchLimit)
          s.tables after.tables found) s := by
  have tidy' : ∀ loop, (State.mk s.tables loop).tables.Tidy ids := fun _ => tidy
  apply ends_setPhase quiet
  refine ends_call (fun failure fails => ⟨rfl, .unread ⟨_, fails⟩⟩)
    (fun failure fails => ⟨rfl, .unread ⟨_, fails⟩⟩) ?_
  simp only [Memory.handle, Continues, Feed.drain_eq]
  split
  · rename_i nothing_drained
    have none_drained : s.tables.feed.drainable settings.batchLimit = [] := by
      simpa [Batch.isEmpty] using nothing_drained
    rw [none_drained]
    apply ends_note quiet
    have completed : Passed befalls settings.resultsTable ids [] s.tables
        (acknowledged s.tables [] []) (.ok []) :=
      .completed ⟨.refl, by rw [asked_nil]; exact .nil⟩ (Or.inl rfl)
    rw [acknowledged_nil] at completed
    exact ⟨rfl, completed⟩
  · exact settle_ends quiet (tidy' _) _

/-- A pass that none stands in the way of ends with the loop at rest. -/
theorem reconcileBatch_ends (settings : Settings) (quiet : Quiet befalls) (tidy : s.tables.Tidy ids)
    (at_rest : s.loop.inPass = false) :
    (reconcileBatch settings).Ends (Turn befalls)
      (fun found after => after.loop.inPass = false ∧
        Passed befalls settings.resultsTable ids (s.tables.feed.drainable settings.batchLimit)
          s.tables after.tables found) s := by
  have tidy' : ∀ loop, (State.mk s.tables loop).tables.Tidy ids := fun _ => tidy
  refine ends_call (fun failure fails => absurd fails (quiet _ failure))
    (fun failure fails => absurd fails (quiet _ failure)) ?_
  simp only [Memory.handle, Loop.handle, Continues, at_rest, Bool.not_false, if_true]
  apply ends_ensuring
  refine (pass_ends quiet (tidy' _)).mono ?_
  rintro found middle ⟨_, passed⟩
  apply ends_perform
  intro answer after turn
  cases turn with
  | carried => exact ⟨rfl, rfl, passed⟩
  | early _ fails => exact absurd fails (quiet _ _)
  | late _ fails => exact absurd fails (quiet _ _)

theorem acknowledged_pending {drained rest : List (Nat × ChangeEvent)} (tidy : middle.Tidy ids)
    (split : middle.feed.pending = drained ++ rest) (outcomes : List Outcome) :
    (acknowledged middle drained outcomes).feed.pending =
      (drained.filter fun entry => (failedIds outcomes).contains entry.2.checkId) ++ rest :=
  Feed.pending_acknowledge_excluding tidy.feed split _

theorem acknowledged_tidy {drained rest : List (Nat × ChangeEvent)} (tidy : middle.Tidy ids)
    (split : middle.feed.pending = drained ++ rest) (outcomes : List Outcome) :
    (acknowledged middle drained outcomes).Tidy ids :=
  { tidy with
    feed := tidy.feed.acknowledge_excluding (fun entry member =>
      tidy.feed.pending_below entry (by rw [split]; exact List.mem_append_left _ member)) _ }

/-- What was drained is still pending, in front, until it is acknowledged. -/
theorem Applied.pending {drained rest : List (Nat × ChangeEvent)}
    (applied : Applied befalls resultsTable ids actions before after results)
    (tidy : before.Tidy ids) (split : before.feed.pending = drained ++ rest) :
    ∃ news, after.feed.pending = drained ++ (rest ++ news) ∧
      ∀ checkId, Tables.ToldOf before after news checkId := by
  obtain ⟨news, pending, told⟩ := applied.course.told tidy
  exact ⟨news, by rw [pending, split, List.append_assoc], told⟩

theorem Passed.tidy {drained rest : List (Nat × ChangeEvent)} {found : Except Failure (List Outcome)}
    (passed : Passed befalls resultsTable ids drained before after found) (tidy : before.Tidy ids)
    (split : before.feed.pending = drained ++ rest) : after.Tidy ids := by
  cases passed with
  | unread => exact tidy
  | interrupted applied => exact applied.course.tidy tidy
  | completed applied =>
      obtain ⟨news, pending, _⟩ := applied.pending tidy split
      exact acknowledged_tidy (applied.course.tidy tidy) pending _

theorem Passed.rows_subset {drained : List (Nat × ChangeEvent)} {found : Except Failure (List Outcome)}
    (passed : Passed befalls resultsTable ids drained before after found) :
    after.rows ⊆ before.rows := by
  cases passed with
  | unread => exact List.Subset.refl _
  | interrupted applied => exact applied.course.rows_subset
  | completed applied => exact applied.course.rows_subset

theorem exists_right {α β : Type} {R : α → β → Prop} {items : List α} {others : List β} {item : α}
    (related : List.Forall₂ R items others) (member : item ∈ items) :
    ∃ other ∈ others, R item other := by
  induction related with
  | nil => cases member
  | cons first _ ih =>
      rcases List.mem_cons.mp member with rfl | later
      · exact ⟨_, List.mem_cons_self, first⟩
      · obtain ⟨other, inside, holds⟩ := ih later
        exact ⟨other, List.mem_cons_of_mem _ inside, holds⟩

theorem exists_left {α β : Type} {R : α → β → Prop} {items : List α} {others : List β} {other : β}
    (related : List.Forall₂ R items others) (member : other ∈ others) :
    ∃ item ∈ items, R item other :=
  exists_right related.flip member

/-- An action that was carried out has failed exactly when its id is among the failed. -/
theorem Applied.outcome {outcomes : List Outcome}
    (applied : Applied befalls resultsTable ids actions before after (outcomes.map .ok))
    (distinct : (actions.map (·.1)).Nodup) (member : (checkId, action) ∈ actions) :
    ∃ first last, Tables.Alike ids checkId before first ∧ Tables.Alike ids checkId last after ∧
      (action ≠ .delete → Kept resultsTable checkId first last) ∧
      if checkId ∈ failedIds outcomes then
        ∃ failure, Fails befalls resultsTable first checkId action failure
      else Done resultsTable checkId action first last := by
  by_cases failed : checkId ∈ failedIds outcomes
  · obtain ⟨outcome, inside, about⟩ := List.mem_map.mp failed
    obtain ⟨inside, wrong⟩ := List.mem_filter.mp inside
    obtain ⟨⟨other, action'⟩, asked_for, first, last, alike, effect, alike'⟩ :=
      exists_left applied.effects (List.mem_map_of_mem inside)
    obtain ⟨same, ended⟩ := effect.answers
    have one : (other, action') = (checkId, action) :=
      List.inj_on_of_nodup_map distinct asked_for member (same.symm.trans about)
    cases one
    rw [if_pos wrong] at ended
    exact ⟨first, last, alike, alike', effect.kept, by rw [if_pos failed]; exact ended⟩
  · obtain ⟨found, inside, first, last, alike, effect, alike'⟩ := exists_right applied.effects member
    obtain ⟨outcome, listed, rfl⟩ := List.mem_map.mp inside
    obtain ⟨same, ended⟩ := effect.answers
    have well : ¬ outcome.failed = true := fun wrong =>
      failed (List.mem_map.mpr ⟨outcome, List.mem_filter.mpr ⟨listed, wrong⟩, same⟩)
    rw [if_neg well] at ended
    exact ⟨first, last, alike, alike', effect.kept, by rw [if_neg failed]; exact ended⟩

end CheckKeeper.Sync
