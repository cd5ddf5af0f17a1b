import CheckKeeper.Proofs.Feed
import CheckKeeper.Proofs.Pass
import CheckKeeper.Proofs.Remit

namespace CheckKeeper.Sync

open Program

/-! What a pass commits, whatever stands behind the collaborators.

A pass commits once, when all actions are done.  All that it does before and after that
commits nothing.
-/

variable {σ α β : Type} {handle : Handler Service.interface σ} {settings : Settings} {s middle : σ}
  {checkId : String} {action : ChangeAction} {batch : Batch}

def committed? (c : Service.interface.Call) : Option Batch :=
  match (c : Service.Call) with
  | .acknowledge batch => some batch
  | _ => none

/-- The batches that a run commits, one after another. -/
def commits (handle : Handler Service.interface σ) (work : Work α) (s : σ) : List Batch :=
  (work.calls handle s).filterMap committed?

def Spares (c : Service.interface.Call) : Prop :=
  committed? c = none

/-- Where a run ends, and what it commits on the way. -/
structure Goes (handle : Handler Service.interface σ) (work : Work α) (s : σ)
    (answer : Except Failure α) (after : σ) (batches : List Batch) : Prop where
  run : work.run handle s = (answer, after)
  commits : commits handle work s = batches

namespace Goes

variable {work : Work α} {next : α → Work β} {value : α} {answer : Except Failure β} {after : σ}
  {batches later : List Batch}

theorem bind (first : Goes handle work s (.ok value) middle batches)
    (rest : Goes handle (next value) middle answer after later) :
    Goes handle (work >>= next) s answer after (batches ++ later) where
  run := by
    change (work.bind next).run handle s = _
    rw [run_bind, first.run]
    exact rest.run
  commits := by
    change ((work.bind next).calls handle s).filterMap committed? = _
    rw [calls_bind, first.run, List.filterMap_append]
    exact congrArg₂ (· ++ ·) first.commits rest.commits

theorem bind_spare (first : Goes handle work s (.ok value) middle [])
    (rest : Goes handle (next value) middle answer after batches) :
    Goes handle (work >>= next) s answer after batches :=
  first.bind rest

theorem attempt {answer : Except Failure α} (goes : Goes handle work s answer after batches) :
    Goes handle work.attempt s (.ok answer) after batches where
  run := by rw [run_attempt, goes.run]
  commits := by
    change (work.attempt.calls handle s).filterMap committed? = _
    rw [calls_attempt]
    exact goes.commits

theorem ensuring {answer : Except Failure α} {finish : Work Unit}
    (goes : Goes handle work s answer middle batches)
    (finishes : Goes handle finish middle (.ok ()) after later) :
    Goes handle (work.ensuring finish) s answer after (batches ++ later) := by
  refine goes.attempt.bind ?_
  rw [← List.append_nil later]
  refine finishes.bind ?_
  cases answer <;> exact ⟨rfl, rfl⟩

theorem perform {c : Service.interface.Call} {value : Service.interface.Answer c}
    (answered : (handle c s).1 = .ok value) :
    Goes handle (Program.perform c) s (.ok value) (handle c s).2
      (committed? c).toList where
  run := by
    simp only [Program.perform, Program.run, answered]
    rfl
  commits := by
    simp only [Sync.commits, Program.perform, Program.calls, answered]
    change List.filterMap committed? [c] = _
    rw [List.filterMap_cons]
    cases committed? c <;> rfl

theorem of_spares (answers : (work.run handle s).1 = .ok value)
    (spares : ∀ c ∈ work.calls handle s, Spares c) :
    Goes handle work s (.ok value) (work.run handle s).2 [] where
  run := Prod.ext answers rfl
  commits := List.filterMap_eq_nil_iff.mpr spares

theorem reaches {answer : Except Failure α} (goes : Goes handle work s answer after []) :
    Reaches handle Spares s after := by
  have spares := List.filterMap_eq_nil_iff.mp goes.commits
  have reached : Reaches handle Spares s _ := reaches_of_calls spares
  rwa [goes.run] at reached

end Goes

theorem mapM_id_ok (outcomes : List Outcome) :
    (outcomes.map fun outcome => (.ok outcome : Except Failure Outcome)).mapM id = .ok outcomes := by
  rw [List.mapM_map]
  exact (List.mapM_pure (f := id)).trans (congrArg Except.ok (List.map_id _))

theorem spares_of_permits {remit : Remit} {c : Service.Call} (permitted : remit.permits checkId c) :
    Spares c := by
  cases c with
  | acknowledge batch => exact permitted.elim
  | _ => rfl

theorem apply_spares (handle : Handler Service.interface σ) (settings : Settings) (checkId : String)
    (action : ChangeAction) (s : σ) :
    ∀ c ∈ (apply settings checkId action).calls handle s, Spares c :=
  fun c member => spares_of_permits (allowed_of_calls (fun _ _ _ => Remit.informs_unlimited _ _)
    (apply_behaves (Remit.covers_unlimited _) checkId action) s c member)

theorem act_tells {outcome : Outcome}
    (answered : ((act settings checkId action).run handle s).1 = .ok outcome) :
    TellsOf checkId outcome :=
  (run_of_behaves (fun _ => True) (fun _ _ _ _ => ⟨Remit.informs_unlimited _ _, trivial⟩)
    (act_behaves (Remit.covers_unlimited _) checkId action) trivial).1 outcome answered

/-- What the actions come to, before any failure is made an outcome, and the state that
they leave. -/
def carryOut (handle : Handler Service.interface σ) (settings : Settings) :
    List (String × ChangeAction) → σ → List (Except Failure Outcome) × σ
  | [], s => ([], s)
  | (checkId, action) :: rest, s =>
      let found := ((act settings checkId action).run handle s).1
      let (later, after) :=
        carryOut handle settings rest ((apply settings checkId action).run handle s).2
      (found :: later, after)

def outcomeOf (asked : String × ChangeAction) : Except Failure Outcome → Outcome
  | .ok outcome => outcome
  | .error failure => failedOutcome asked.1 asked.2 failure

def interrupted : Except Failure Outcome → Bool
  | .ok _ => false
  | .error failure => failure.isInterrupt

def Obliging (handle : Handler Service.interface σ) : Prop :=
  ∀ c s, ∃ answer, (handle (.loop c) s).1 = .ok answer

theorem Obliging.note (obliging : Obliging handle) (level : LogLevel) (text : String) (s : σ) :
    Goes handle (Work.note level text) s (.ok ()) (handle (.loop (.note level text)) s).2 [] :=
  have ⟨_, answered⟩ := obliging (.note level text) s
  Goes.perform answered

theorem Obliging.setPhase (obliging : Obliging handle) (phase : Phase) (s : σ) :
    Goes handle (Work.setPhase phase) s (.ok ()) (handle (.loop (.setPhase phase)) s).2 [] :=
  have ⟨_, answered⟩ := obliging (.setPhase phase) s
  Goes.perform answered

theorem Obliging.leavePass (obliging : Obliging handle) (s : σ) :
    Goes handle Work.leavePass s (.ok ()) (handle (.loop .leavePass) s).2 [] :=
  have ⟨_, answered⟩ := obliging .leavePass s
  Goes.perform answered

theorem apply_answer (obliging : Obliging handle) (checkId : String) (action : ChangeAction) (s : σ)
    (calm : interrupted ((act settings checkId action).run handle s).1 = false) :
    ((apply settings checkId action).run handle s).1 =
      .ok (outcomeOf (checkId, action) ((act settings checkId action).run handle s).1) := by
  unfold apply
  change (Program.run handle (Program.bind _ _) s).1 = _
  rw [run_bind, run_attempt]
  cases found : ((act settings checkId action).run handle s).1 with
  | ok outcome => rfl
  | error failure =>
      rw [found] at calm
      simp only [interrupted] at calm
      simp only [calm, Bool.false_eq_true, if_false]
      change (Program.run handle (Program.bind _ _) _).1 = _
      rw [run_bind, (obliging.note _ _ _).run]
      rfl

theorem applyEach_goes (obliging : Obliging handle) (actions : List (String × ChangeAction))
    (calm : ∀ found ∈ (carryOut handle settings actions s).1, interrupted found = false) :
    Goes handle (applyEach settings actions) s
      (.ok ((List.zipWith outcomeOf actions (carryOut handle settings actions s).1).map .ok))
      (carryOut handle settings actions s).2 [] := by
  induction actions generalizing s with
  | nil => exact ⟨rfl, rfl⟩
  | cons asked rest ih =>
      obtain ⟨checkId, action⟩ := asked
      have first := apply_answer obliging checkId action s (calm _ List.mem_cons_self)
      have later := ih (s := ((apply settings checkId action).run handle s).2)
        fun found member => calm found (List.mem_cons_of_mem _ member)
      refine (Goes.of_spares first (apply_spares _ _ _ _ _)).attempt.bind_spare ?_
      refine later.bind_spare ?_
      exact ⟨rfl, rfl⟩

theorem applyAll_goes (obliging : Obliging handle) (actions : List (String × ChangeAction))
    (calm : ∀ found ∈ (carryOut handle settings actions s).1, interrupted found = false) :
    Goes handle (applyAll settings actions) s
      (.ok (List.zipWith outcomeOf actions (carryOut handle settings actions s).1))
      (carryOut handle settings actions s).2 [] := by
  refine (applyEach_goes obliging actions calm).bind_spare ?_
  rw [mapM_id_ok]
  exact ⟨rfl, rfl⟩

/-- Each outcome is about the id of its action, and tells whether the action failed. -/
theorem carryOut_tells (handle : Handler Service.interface σ) (settings : Settings)
    (actions : List (String × ChangeAction)) (s : σ) :
    let results := (carryOut handle settings actions s).1
    (List.zipWith outcomeOf actions results).map Outcome.checkId = actions.map (·.1) ∧
      (List.zipWith outcomeOf actions results).map Outcome.failed = results.map (!·.isOk) := by
  induction actions generalizing s with
  | nil => exact ⟨rfl, rfl⟩
  | cons asked rest ih =>
      obtain ⟨checkId, action⟩ := asked
      obtain ⟨ids, failures⟩ := ih ((apply settings checkId action).run handle s).2
      simp only [carryOut, List.zipWith_cons_cons, List.map_cons, ids, failures, List.cons.injEq,
        and_true]
      cases found : ((act settings checkId action).run handle s).1 with
      | ok outcome => exact act_tells found
      | error failure => exact ⟨rfl, rfl⟩

/-- What a pass tells of a batch before it carries anything out. -/
def announce (batch : Batch) : Work Unit := do
  Work.note .info
    ("Reconciling " ++ count (ChangeEvent.collapse batch.events).length ++ " check(s) from " ++
      count batch.events.length ++ " change event(s)")
  Work.setPhase .dispatching

def draining (handle : Handler Service.interface σ) (s : σ) : σ :=
  (handle (.loop (.setPhase .draining)) (handle (.loop .enterPass) s).2).2

def drained (handle : Handler Service.interface σ) (settings : Settings) (s : σ) : σ :=
  (handle (.drain settings.batchLimit) (draining handle s)).2

/-- What the actions of a pass come to that has drained a batch, and the state in which
it acknowledges. -/
def carriedOut (handle : Handler Service.interface σ) (settings : Settings) (batch : Batch) (s : σ) :
    List (Except Failure Outcome) × σ :=
  carryOut handle settings (ChangeEvent.collapse batch.events)
    ((announce batch).run handle (drained handle settings s)).2

def outcomesOf (batch : Batch) (results : List (Except Failure Outcome)) : List Outcome :=
  List.zipWith outcomeOf (ChangeEvent.collapse batch.events) results

def remainder (batch : Batch) (results : List (Except Failure Outcome)) : Batch :=
  batch.excluding (failedIds (outcomesOf batch results))

section

variable {work : Work α} {next : α → Work β} {value : α} {answer : Except Failure β}
  {batches : List Batch} {holds : σ → Prop}

theorem Goes.exists_spare (first : Goes handle work s (.ok value) middle [])
    (rest : ∃ after, Goes handle (next value) middle answer after batches ∧ holds after) :
    ∃ after, Goes handle (work >>= next) s answer after batches ∧ holds after :=
  have ⟨after, second, held⟩ := rest
  ⟨after, first.bind_spare second, held⟩

theorem Goes.exists_last (first : Goes handle work s (.ok value) middle batches)
    (rest : ∃ after, Goes handle (next value) middle answer after [] ∧ holds after) :
    ∃ after, Goes handle (work >>= next) s answer after batches ∧ holds after :=
  have ⟨after, second, held⟩ := rest
  ⟨after, List.append_nil batches ▸ first.bind second, held⟩

end

theorem Goes.exists_reaches {work : Work α} {answer : Except Failure α}
    (goes : ∃ after, Goes handle work s answer after [] ∧ True) :
    ∃ after, Goes handle work s answer after [] ∧ Reaches handle Spares s after :=
  have ⟨after, ended, _⟩ := goes
  ⟨after, ended, ended.reaches⟩

/-- Carrying out a batch commits what is to be committed, once. -/
theorem settle_goes (obliging : Obliging handle) (batch : Batch) (s : σ) :
    let carried := carryOut handle settings (ChangeEvent.collapse batch.events)
      ((announce batch).run handle s).2
    let kept := remainder batch carried.1
    (∀ found ∈ carried.1, interrupted found = false) →
    (handle (.acknowledge kept) carried.2).1 = .ok () →
    Reaches handle Spares s carried.2 ∧
    ∃ after, Goes handle (settle settings batch) s (.ok (outcomesOf batch carried.1)) after [kept] ∧
      Reaches handle Spares (handle (.acknowledge kept) carried.2).2 after := by
  intro carried kept calm answered
  have announced : Goes handle (announce batch) s _ _ [] :=
    (obliging.note _ _ s).bind (obliging.setPhase .dispatching _)
  have ended := congrArg Prod.snd announced.run
  have applied := applyAll_goes obliging _ calm
  refine ⟨?_, ?_⟩
  · have reached := announced.reaches
    rw [← ended] at reached
    exact reached.trans applied.reaches
  · refine (obliging.note _ _ _).exists_spare ?_
    refine (obliging.setPhase _ _).exists_spare ?_
    change ((announce batch).run handle s).2 = _ at ended
    rw [← ended]
    refine applied.exists_spare ?_
    have acknowledged : Goes handle (Work.acknowledge kept) carried.2 (.ok ()) _ [kept] :=
      Goes.perform answered
    refine acknowledged.exists_last ?_
    apply Goes.exists_reaches
    -- Whether some ids are left pending only matters to what is noted.
    split
    · refine (obliging.note _ _ _).exists_spare ?_
      refine (obliging.note _ _ _).exists_spare ?_
      exact ⟨_, ⟨rfl, rfl⟩, trivial⟩
    · refine (obliging.note _ _ _).exists_spare ?_
      exact ⟨_, ⟨rfl, rfl⟩, trivial⟩

/-- A pass is let in and has drained a batch of some events, no action is interrupted, and
what is committed is accepted. -/
structure Undisturbed (handle : Handler Service.interface σ) (settings : Settings) (s : σ)
    (batch : Batch) : Prop where
  obliging : Obliging handle
  entered : (handle (.loop .enterPass) s).1 = .ok true
  read : (handle (.drain settings.batchLimit) (draining handle s)).1 = .ok (some batch)
  some_events : batch.events ≠ []
  tokens : batch.positionFault
    (failedIds (outcomesOf batch (carriedOut handle settings batch s).1)) = none
  calm : ∀ found ∈ (carriedOut handle settings batch s).1, interrupted found = false
  accepted :
    (handle (.acknowledge (remainder batch (carriedOut handle settings batch s).1))
      (carriedOut handle settings batch s).2).1 = .ok ()

theorem reaches_draining (handle : Handler Service.interface σ) (s : σ) :
    Reaches handle Spares s (draining handle s) :=
  .tail (.single ⟨.loop .enterPass, rfl, rfl⟩) ⟨.loop (.setPhase .draining), rfl, rfl⟩

/-- An undisturbed pass commits what is to be committed, once, and answers the outcomes. -/
theorem reconcileBatch_goes (undisturbed : Undisturbed handle settings s batch) :
    let carried := carriedOut handle settings batch s
    let kept := remainder batch carried.1
    Reaches handle Spares (drained handle settings s) carried.2 ∧
    ∃ after, Goes handle (reconcileBatch settings) s (.ok (outcomesOf batch carried.1)) after [kept] ∧
      Reaches handle Spares (handle (.acknowledge kept) carried.2).2 after := by
  intro carried kept
  obtain ⟨obliging, entered, read, some_events, _, calm, accepted⟩ := undisturbed
  obtain ⟨acted, settled, settles, told⟩ := settle_goes obliging batch _ calm accepted
  refine ⟨acted, ?_⟩
  have passes : Goes handle (pass settings) (handle (.loop .enterPass) s).2
      (.ok (outcomesOf batch carried.1)) settled [kept] := by
    refine (obliging.setPhase .draining _).bind_spare ?_
    have drains : Goes handle (Work.drain settings.batchLimit) (Sync.draining handle s) _ _ [] :=
      Goes.perform read
    refine drains.bind_spare ?_
    have filled : batch.isEmpty = false := by
      simpa [Batch.isEmpty] using some_events
    simp only [filled, Bool.false_eq_true, if_false]
    exact settles
  have enters : Goes handle Work.enterPass s (.ok true) _ [] := Goes.perform entered
  refine enters.exists_spare ?_
  simp only [if_true]
  refine ⟨_, passes.ensuring (obliging.leavePass settled), ?_⟩
  exact told.trans (obliging.leavePass settled).reaches

end CheckKeeper.Sync
