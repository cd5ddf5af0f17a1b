import CheckKeeper.Outcome
import CheckKeeper.Sql.Filter
import CheckKeeper.Sql.Guard

namespace CheckKeeper.Compile

/-! What keeps a definition from being compiled.

Either the definition itself is at fault, and there is a reason to be given, or a
value in it is of a type that no definition has, and compiling fails.
-/

inductive Refusal where
  | reason (reason : InvalidReason) (text : String)
  | failure (failure : Failure)

namespace Refusal

/-- A rejected identifier or filter is the fault of the definition. -/
def ofFailure : Failure → Refusal
  | .identifier fault => .reason .invalidIdentifier fault.message
  | .rowFilter fault => .reason .invalidParameter fault.message
  | other => .failure other

end Refusal

/-- What a definition declares, where its faults are reasons. -/
def declared {α : Type} (found : Except Failure α) : Except Refusal α :=
  found.mapError .ofFailure

def subquery (sql : String) : Except Refusal String :=
  (Sql.prepare sql).mapError fun fault => .reason .unsafeQuery fault.message

/-- Lines of a statement, without the empty ones. -/
def joinLines (lines : List String) : String :=
  Text.join "\n" (lines.filter (· != ""))

def resultColumns : String :=
  "check_id, check_name, check_type, result, details, executed_at"

def insertLine (results : String) : String :=
  "INSERT INTO " ++ results ++ " (" ++ resultColumns ++ ")"

def commonParameters (d : Definition) : List Parameter :=
  [.ofText "check_id" (.text d.checkId), .ofText "check_name" d.checkName]

/-- The check of a definition with its statement and parameters. -/
def checkOf (d : Definition) (kind : CheckKind) (statement : String)
    (parameters : List Parameter) : Except Refusal CompiledCheck := do
  let jobName ← declared (Job.nameFor d.checkId)
  let schedule ← declared (d.schedule.toText "strip")
  return {
    checkId := d.checkId, kind, jobName, schedule := Text.stripText schedule, statement, parameters }

/-- A definition has an id, so its job has a name. -/
theorem checkOf_eq (d : Definition) (kind : CheckKind) (statement : String)
    (parameters : List Parameter) :
    checkOf d kind statement parameters = (do
      let schedule ← declared (d.schedule.toText "strip")
      return {
        checkId := d.checkId, kind, jobName := Job.nameOf d.checkId
        schedule := Text.stripText schedule, statement, parameters }) := by
  rw [checkOf, Job.nameFor_of_ne d.hasId]
  rfl

end CheckKeeper.Compile
