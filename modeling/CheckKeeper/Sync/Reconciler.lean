import CheckKeeper.Sync.Synchronizer

namespace CheckKeeper.Sync

/-! Passes over the feed of changes.

A pass drains the feed, takes the last action of each id, carries the actions out
one after another, and acknowledges the events of every id whose action did not
fail.  The failure of one id is its outcome and leaves the others alone; its
events stay in the feed for the next pass.
-/

structure Settings where
  resultsTable : Value
  batchLimit : Option Int

/-- Settings for a number of workers, of which there must be one. -/
def Settings.of (resultsTable : Value) (maxWorkers : Int) (batchLimit : Option Int) :
    Except Failure Settings :=
  if maxWorkers < 1 then .error (.rule .fewWorkers) else .ok ⟨resultsTable, batchLimit⟩

/-- Brings the job of one id in step.  An id without definition is dropped. -/
def reconcileOne (settings : Settings) (checkId : String) : Work Outcome := do
  match ← Work.getDefinition checkId with
  | none => drop checkId
  | some _ =>
      match ← (createOrReplace settings.resultsTable checkId).attempt with
      | .ok outcome => return outcome
      | .error (.notFound _) => drop checkId
      | .error failure => .fail failure

def act (settings : Settings) (checkId : String) : ChangeAction → Work Outcome
  | .delete => drop checkId
  | _ => createOrReplace settings.resultsTable checkId

def failedOutcome (checkId : String) (action : ChangeAction) (failure : Failure) : Outcome where
  checkId := checkId
  action := .failed
  message := action.name ++ " failed"
  error := some (failure.name ++ ": " ++ failure.message)

/-- Carries out the action of one id.  Its failure is an outcome, unless it is an
interrupt. -/
def apply (settings : Settings) (checkId : String) (action : ChangeAction) : Work Outcome := do
  match ← (act settings checkId action).attempt with
  | .ok outcome => return outcome
  | .error failure => do
      if failure.isInterrupt then .fail failure
      else
        Work.note .error
          ("Check " ++ checkId ++ ": " ++ action.name ++ " failed: " ++ failure.message)
        return failedOutcome checkId action failure

/-- Carries out all actions, also those behind an interrupt. -/
def applyEach (settings : Settings) :
    List (String × ChangeAction) → Work (List (Except Failure Outcome))
  | [] => return []
  | (checkId, action) :: rest => do
      let first ← (apply settings checkId action).attempt
      return first :: (← applyEach settings rest)

/-- The outcomes of all actions; an interrupt comes through when all are done. -/
def applyAll (settings : Settings) (actions : List (String × ChangeAction)) :
    Work (List Outcome) := do
  .ofExcept ((← applyEach settings actions).mapM id)

def count (n : Nat) : String :=
  Number.renderInt (n : Nat)

/-- Carries out what a batch asks for and acknowledges what did not fail. -/
def settle (settings : Settings) (batch : Batch) : Work (List Outcome) := do
  let actions := ChangeEvent.collapse batch.events
  Work.note .info
    ("Reconciling " ++ count actions.length ++ " check(s) from " ++ count batch.events.length ++
      " change event(s)")
  Work.setPhase .dispatching
  let outcomes ← applyAll settings actions
  let failedIds := (outcomes.filter Outcome.failed).map Outcome.checkId
  Work.acknowledge (batch.excluding failedIds)
  if !failedIds.isEmpty then
    Work.note .warning
      ("Leaving " ++ count failedIds.length ++ " failed check(s) pending: " ++
        Text.join ", " failedIds)
  Work.note .info
    ("Reconciliation pass done: " ++ count (outcomes.length - failedIds.length) ++ " ok, " ++
      count failedIds.length ++ " failed")
  return outcomes

/-- A pass that no other pass stands in the way of. -/
def pass (settings : Settings) : Work (List Outcome) := do
  Work.setPhase .draining
  match ← Work.drain settings.batchLimit with
  | none => .fail (.noMember "NoneType" "is_empty")
  | some batch => do
      if batch.isEmpty then
        Work.note .debug "Change feed empty, nothing to reconcile"
        return []
      else settle settings batch

/-- Runs one pass and answers an outcome for each id of its batch.  While a pass
runs, another one does nothing. -/
def reconcileBatch (settings : Settings) : Work (List Outcome) := do
  if ← Work.enterPass then (pass settings).ensuring Work.leavePass
  else
    Work.note .info "Reconciliation pass already in progress, skipping"
    return []

/-- One round of the loop: a pass if the feed has events, and else nothing. -/
def poll (settings : Settings) : Work (List Outcome) := do
  if yes (← Work.hasPending) then reconcileBatch settings else return []

def isEnough (maxPasses : Option Int) (passes : Nat) : Bool :=
  maxPasses.any fun (most : Int) => most ≤ passes

/-- The loop with `passes` passes behind it and at most `rounds` rounds before it.
Passes follow one another while there are events; the loop pauses when there were
none, when a check failed, and when a collaborator is out of reach. -/
def loop (settings : Settings) (interval : Value) (maxPasses : Option Int) :
    Nat → Nat → Work Nat
  | 0, passes => return passes
  | rounds + 1, passes => do
      if ← Work.stopRequested then return passes
      else
        match ← (poll settings).attempt with
        | .error failure => do
            if failure.isTransient then
              Work.note .warning
                ("Change feed unavailable, retrying in " ++ (← .ofExcept interval.written) ++
                  "s: " ++ failure.message)
              Work.pause interval
              loop settings interval maxPasses rounds passes
            else .fail failure
        | .ok [] => do
            Work.pause interval
            loop settings interval maxPasses rounds passes
        | .ok outcomes => do
            if isEnough maxPasses (passes + 1) then return passes + 1
            else
              if outcomes.any Outcome.failed then Work.pause interval
              loop settings interval maxPasses rounds (passes + 1)

end CheckKeeper.Sync
