import CheckKeeper.Job.Basic

namespace CheckKeeper

/-! What became of a definition.

A `Verdict` is the answer of the compiler: a check that can be carried out, or the
reason why there is none.  An `Outcome` tells what was done for one id.
-/

/-- Why a definition makes no check. -/
inductive InvalidReason where
  | missingKeyColumn
  | missingQuery
  | unsupportedCheckType
  | invalidIdentifier
  | invalidParameter
  | unsafeQuery
deriving DecidableEq, Repr

namespace InvalidReason

def name : InvalidReason → String
  | .missingKeyColumn => "MissingKeyColumn"
  | .missingQuery => "MissingQuery"
  | .unsupportedCheckType => "UnsupportedCheckType"
  | .invalidIdentifier => "InvalidIdentifier"
  | .invalidParameter => "InvalidParameter"
  | .unsafeQuery => "UnsafeQuery"

def all : List InvalidReason :=
  [.missingKeyColumn, .missingQuery, .unsupportedCheckType, .invalidIdentifier, .invalidParameter,
    .unsafeQuery]

/-- The word by which a value names one of the choices. -/
def ofValue (given : Value) : Except Failure InvalidReason :=
  match given.text?.bind fun word => all.find? (·.name == word) with
  | some reason => .ok reason
  | none => .error (.choice given "InvalidReason")

end InvalidReason

/-- A check that can be carried out. -/
structure CompiledCheck where
  checkId : String
  kind : CheckKind
  jobName : String
  schedule : String
  statement : String
  parameters : List Parameter

def CompiledCheck.toJob (check : CompiledCheck) : Job where
  name := check.jobName
  checkId := check.checkId
  kind := check.kind
  schedule := .text check.schedule
  statement := .text check.statement
  parameters := check.parameters
  updatedAt := none

inductive Verdict where
  | valid (check : CompiledCheck) (message : String)
  | invalid (checkId : String) (reason : InvalidReason) (message : String)

namespace Verdict

def isValid : Verdict → Bool
  | .valid _ _ => true
  | .invalid _ _ _ => false

def checkId : Verdict → String
  | .valid check _ => check.checkId
  | .invalid checkId _ _ => checkId

def reason? : Verdict → Option InvalidReason
  | .valid _ _ => none
  | .invalid _ reason _ => some reason

def message : Verdict → String
  | .valid _ message => message
  | .invalid _ _ message => message

def check? : Verdict → Option CompiledCheck
  | .valid check _ => some check
  | .invalid _ _ _ => none

def isUnsupported (verdict : Verdict) : Bool :=
  verdict.reason? == some .unsupportedCheckType

/-- A verdict of either a check or a reason; both or none make no verdict. -/
def of (checkId : String) (check : Option CompiledCheck) (reason : Option InvalidReason)
    (message : String) : Except Failure Verdict :=
  match check, reason with
  | some check, none => .ok (.valid check message)
  | none, some reason => .ok (.invalid checkId reason message)
  | _, _ => .error (.rule .verdict)

end Verdict

inductive OutcomeAction where
  | created
  | replaced
  | dropped
  | invalidated
  | unsupported
  | deactivated
  | failed
deriving DecidableEq, Repr

namespace OutcomeAction

def name : OutcomeAction → String
  | .created => "created"
  | .replaced => "replaced"
  | .dropped => "dropped"
  | .invalidated => "invalidated"
  | .unsupported => "unsupported"
  | .deactivated => "deactivated"
  | .failed => "failed"

def all : List OutcomeAction :=
  [.created, .replaced, .dropped, .invalidated, .unsupported, .deactivated, .failed]

def ofValue (given : Value) : Except Failure OutcomeAction :=
  match given.text?.bind fun word => all.find? (·.name == word) with
  | some action => .ok action
  | none => .error (.choice given "OutcomeAction")

end OutcomeAction

structure Outcome where
  checkId : String
  action : OutcomeAction
  message : String
  reason : Option InvalidReason := none
  jobName : Option String := none
  error : Option String := none

namespace Outcome

def failed (outcome : Outcome) : Bool :=
  outcome.action == .failed

/-- The outcome as a record, without the fields that it does not have. -/
def toRecord (outcome : Outcome) : List (String × Value) :=
  [("check_id", .text outcome.checkId),
    ("action", .text outcome.action.name),
    ("message", .text outcome.message)] ++
    outcome.reason.elim [] (fun reason => [("reason", .text reason.name)]) ++
    outcome.jobName.elim [] (fun name => [("job_name", .text name)]) ++
    outcome.error.elim [] (fun text => [("error", .text text)])

end Outcome

end CheckKeeper
