import CheckKeeper.Compile.Check
import CheckKeeper.Program.Service

namespace CheckKeeper.Sync

/-! Keeping the job of one check in step with its definition.

The job of an active, valid definition is created or replaced.  An invalid
definition is removed together with its job; one of an unsupported kind is left
alone; an inactive one keeps its row and loses its job.  Nothing spans the change
of the job and the change of the row: what a failure leaves between the two is
put right by the next successful call for the id.
-/

/-- A definition as it was read, its kind, and what the compiler says of it. -/
structure Dispatched where
  definition : Definition
  kind : CheckKind
  verdict : Verdict

/-- Reads a definition and compiles it for a table of results. -/
def dispatch (resultsTable : Value) (checkId : String) : Work Dispatched := do
  match ← Work.getDefinition checkId with
  | none => .fail (.notFound checkId)
  | some definition => do
      let verdict ← .ofExcept (Compile.compile definition resultsTable)
      let kind ← .ofExcept definition.kind
      return ⟨definition, kind, verdict⟩

def yes (answer : Option Bool) : Bool :=
  answer.getD false

/-- A name that is there and not empty. -/
def givenName (name : Option String) : Option String :=
  name.filter (· != "")

/-- How records show the answer of a collaborator. -/
def answerText (answer : Option Bool) : String :=
  (answer.elim Value.null Value.bool).display

/-- Removes the job that is bound to an id, if there is one. -/
def deleteBoundJob (name : Option String) : Work (Option Bool) :=
  match givenName name with
  | some bound => Work.deleteJob bound
  | none => return some false

/-- Removes the job and the row of an id; it is no fault if they are absent. -/
def drop (checkId : String) : Work Outcome := do
  let jobName ← Work.findJob checkId
  let jobDeleted ← deleteBoundJob jobName
  let rowDeleted ← Work.deleteDefinition checkId
  if yes jobDeleted || yes rowDeleted then
    Work.note .info
      ("Check " ++ checkId ++ " dropped (job " ++ (givenName jobName).getD "-" ++ " deleted=" ++
        answerText jobDeleted ++ ", row deleted=" ++ answerText rowDeleted ++ ")")
    return { checkId, action := .dropped, message := "Check " ++ checkId ++ " dropped", jobName }
  else
    Work.note .debug ("Check " ++ checkId ++ " already absent, nothing to drop")
    return {
      checkId, action := .dropped, message := "Check " ++ checkId ++ " already absent", jobName }

/-- What is done for a definition that makes no check. -/
def applyInvalid (checkId : String) (reason : InvalidReason) (message : String) : Work Outcome := do
  if reason = .unsupportedCheckType then
    Work.note .warning ("Check " ++ checkId ++ ": " ++ message)
    return { checkId, action := .unsupported, message, reason := some reason }
  else
    Work.note .warning
      ("Check " ++ checkId ++ " invalid (" ++ reason.name ++ "), dropping: " ++ message)
    let dropped ← drop checkId
    return {
      checkId, action := .invalidated
      message := message ++ ". The check was removed automatically."
      reason := some reason, jobName := dropped.jobName }

/-- What is done for a valid definition that is not active. -/
def deactivate (checkId : String) (existing : Option String) : Work Outcome := do
  let deleted ← deleteBoundJob existing
  Work.note .info
    ("Check " ++ checkId ++ " inactive, job " ++ (if yes deleted then "deleted" else "absent"))
  return {
    checkId, action := .deactivated
    message := "Check " ++ checkId ++ " is inactive; no job scheduled", jobName := existing }

/-- Removes a job that was bound to the id under another name than that of the new
one.  Answers whether there was one. -/
def supersede (checkId : String) (existing : Option String) (jobName : String) : Work Bool :=
  match givenName existing with
  | none => return false
  | some old => do
      if old = jobName then return false
      else
        let _ ← Work.deleteJob old
        Work.note .info
          ("Check " ++ checkId ++ ": removed job " ++ old ++ " superseded by " ++ jobName)
        return true

/-- Creates or replaces the job of a check.  The new job stands before an old one
of another name is removed. -/
def schedule (checkId : String) (check : CompiledCheck) (existing : Option String) :
    Work Outcome := do
  let replaced ← Work.putJob check.toJob
  let superseded ← supersede checkId existing check.jobName
  let action : OutcomeAction := if superseded || yes replaced then .replaced else .created
  Work.note .info
    ("Check " ++ checkId ++ ": job " ++ check.jobName ++ " " ++ action.name ++ " (" ++
      check.kind.name ++ ")")
  return {
    checkId, action
    message := check.kind.name ++ " job " ++ check.jobName ++ " " ++ action.name
    jobName := some check.jobName }

/-- Brings the job of an id in step with its definition, which must be there. -/
def createOrReplace (resultsTable : Value) (checkId : String) : Work Outcome := do
  let dispatched ← dispatch resultsTable checkId
  match dispatched.verdict with
  | .invalid _ reason message => applyInvalid checkId reason message
  | .valid check _ => do
      let existing ← Work.findJob checkId
      if dispatched.definition.active then schedule checkId check existing
      else deactivate checkId existing

end CheckKeeper.Sync
