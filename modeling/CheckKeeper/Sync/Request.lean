import CheckKeeper.Sync.Reconciler

namespace CheckKeeper.Sync

/-! What can be asked of the collaborators and of the reconciler, one thing at a
time.

A request is plain data, so that it can be read from a script.  Its program is the
same whatever stands behind the collaborators.
-/

inductive Request where
  | upsert (row changes : Value)
  | delete (checkId : String)
  | get (checkId : String)
  | list
  | hasPending
  | drain (limit : Value)
  | acknowledge (batch : Batch)
  | putJob (job : Value)
  | deleteJob (name : String)
  | findJob (checkId : String)
  | getJob (name : String)
  | results (checkId : String) (limit : Value)
  | dispatch (checkId : String)
  | createOrReplace (checkId : String)
  | drop (checkId : String)
  | reconcileOne (checkId : String)
  | reconcileBatch

inductive Reply where
  | nothing
  | answer (given : Option Bool)
  | definition (found : Option Definition)
  | definitions (found : List Definition)
  | batch (batch : Option Batch)
  | name (name : Option String)
  | job (job : Option Job)
  | results (found : List CheckResult)
  | dispatched (dispatched : Dispatched)
  | outcome (outcome : Outcome)
  | outcomes (outcomes : List Outcome)

/-- A definition as a row with perhaps some fields set anew. -/
def readDefinition (row changes : Value) : Except Failure Definition := do
  let d ← Definition.ofRow (← row.toRow)
  match changes with
  | .record fields => d.withChanges (fields.map fun (name, value) => (name.plain, value))
  | _ => return d

def readLimit (limit : Value) : Except Failure (Option Int) :=
  if limit.isNull then .ok none else limit.toInt.map some

/-- How many results are shown where no limit is given. -/
def resultsShown : Int := 10

def Request.work (settings : Settings) : Request → Work Reply
  | .upsert row changes => do
      Work.putDefinition (← .ofExcept (readDefinition row changes))
      return .nothing
  | .delete checkId => return .answer (← Work.deleteDefinition checkId)
  | .get checkId => return .definition (← Work.getDefinition checkId)
  | .list => return .definitions (← Work.listDefinitions)
  | .hasPending => return .answer (← Work.hasPending)
  | .drain limit => do
      return .batch (← Work.drain (← .ofExcept (readLimit limit)))
  | .acknowledge batch => do
      Work.acknowledge batch
      return .batch (some batch)
  | .putJob job => do
      return .answer (← Work.putJob (← .ofExcept (job.toRow >>= Job.ofRecord)))
  | .deleteJob name => return .answer (← Work.deleteJob name)
  | .findJob checkId => return .name (← Work.findJob checkId)
  | .getJob name => return .job (← Work.getJob name)
  | .results checkId limit => do
      let most ← .ofExcept (readLimit limit)
      return .results (← Work.recentResults checkId (most.getD resultsShown))
  | .dispatch checkId => return .dispatched (← Sync.dispatch settings.resultsTable checkId)
  | .createOrReplace checkId =>
      return .outcome (← Sync.createOrReplace settings.resultsTable checkId)
  | .drop checkId => return .outcome (← Sync.drop checkId)
  | .reconcileOne checkId => return .outcome (← Sync.reconcileOne settings checkId)
  | .reconcileBatch => return .outcomes (← Sync.reconcileBatch settings)

end CheckKeeper.Sync
