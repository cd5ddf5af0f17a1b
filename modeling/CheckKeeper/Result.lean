import CheckKeeper.Check.Definition
import CheckKeeper.Slice

namespace CheckKeeper

open Calendar

/-! Results of checks.

Each run of a job appends one result.  Here results are only read, and made for
previews.
-/

inductive ResultStatus where
  | ok
  | ko
  | error
deriving DecidableEq, Repr

namespace ResultStatus

def name : ResultStatus → String
  | .ok => "OK"
  | .ko => "KO"
  | .error => "ERROR"

def all : List ResultStatus :=
  [.ok, .ko, .error]

def ofValue (given : Value) : Except Failure ResultStatus :=
  match given.text?.bind fun word => all.find? (·.name == word) with
  | some status => .ok status
  | none => .error (.choice given "ResultStatus")

end ResultStatus

structure CheckResult where
  checkId : Value
  checkName : Value
  checkType : Value
  status : ResultStatus
  details : Value
  executedAt : Option Moment

namespace CheckResult

def passed (result : CheckResult) : Bool :=
  result.status == .ok

def toRecord (result : CheckResult) : List (String × Value) :=
  [("check_id", result.checkId),
    ("check_name", result.checkName),
    ("check_type", result.checkType),
    ("result", .text result.status.name),
    ("details", result.details),
    ("executed_at", result.executedAt.elim .null fun point => .text point.render)]

def ofRow (row : Row) : Except Failure CheckResult := do
  let executedValue := row.get "executed_at"
  let executedAt ← if executedValue.isNull then pure none else executedValue.toMoment.map some
  let checkId ← row.require "check_id"
  let status ← ResultStatus.ofValue (← row.require "result")
  return {
    checkId, status, executedAt
    checkName := (row.get "check_name").orElse checkId
    checkType := (row.get "check_type").orElse (.text "")
    details := (row.get "details").orElse (.record []) }

/-- The instant that results are ordered by; an absent one counts as the earliest. -/
def sortMoment (result : CheckResult) : Moment :=
  result.executedAt.getD .earliest

/-- Whether all the results, or none, have moments with an offset. -/
def haveOneClock (results : List CheckResult) : Bool :=
  match results with
  | [] => true
  | first :: rest => rest.all fun other => first.sortMoment.comparable other.sortMoment

/-- The results of an id, newest first; results of one instant keep their order. -/
def recent (results : List CheckResult) (checkId : String) (limit : Int) :
    Except Failure (List CheckResult) :=
  let found := results.filter fun result => result.checkId.same (.text checkId)
  if haveOneClock found then
    .ok (firstUpTo limit
      (found.mergeSort fun a b => b.sortMoment.instant ≤ a.sortMoment.instant))
  else .error (.misuse (.unordered "<" .clocks))

end CheckResult

end CheckKeeper
