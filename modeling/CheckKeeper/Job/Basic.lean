import CheckKeeper.Check.Definition
import CheckKeeper.Job.Name

namespace CheckKeeper

open Calendar

/-! Scheduled jobs.

A job is the statement that carries out one check, with the values that are bound
to its parameters.  The point in time of a run is not among them; the scheduler
supplies it.
-/

structure Parameter where
  name : String
  type : String
  value : Value

namespace Parameter

def typeOf : Value → String
  | .bool _ => "BOOL"
  | .int _ => "INT64"
  | .float _ => "FLOAT64"
  | _ => "STRING"

def ofText (name : String) (content : Value) : Parameter :=
  ⟨name, "STRING", content⟩

def toRecord (p : Parameter) : Value :=
  .ofFields [("name", .text p.name), ("type", .text p.type), ("value", p.value)]

def index (value : Value) (field : String) : Except Failure Value :=
  match value with
  | .record row => Row.require row field
  | other => .error (.misuse (.notIndexable other.typeName))

def ofRecord (value : Value) : Except Failure Parameter := do
  let name ← index value "name"
  let type ← index value "type"
  let row ← value.toRow
  return ⟨name.plain, type.plain, row.get "value"⟩

end Parameter

structure Job where
  name : String
  checkId : String
  kind : CheckKind
  schedule : Value
  statement : Value
  parameters : List Parameter
  updatedAt : Option Moment

namespace Job

/-- The job as a record; the point in time of its last change only if it has one. -/
def toRecord (job : Job) : List (String × Value) :=
  [("job_name", .text job.name),
    ("check_id", .text job.checkId),
    ("check_type", .text job.kind.name),
    ("schedule", job.schedule),
    ("statement", job.statement),
    ("parameters", .list (job.parameters.map Parameter.toRecord))] ++
    job.updatedAt.elim [] fun point => [("updated_at", .text point.render)]

def readTime : Value → Except Failure (Option Moment)
  | .null => .ok none
  | .moment point => .ok (some point)
  | .text content => ((Moment.read content).map some).mapError .moment
  | other => .error (.misuse (.notText 0 other.typeName))

def ofRecord (row : Row) : Except Failure Job := do
  let updatedAt ← readTime (row.get "updated_at")
  let name ← row.require "job_name"
  let checkId ← row.require "check_id"
  let kind ← CheckKind.parse (row.get "check_type")
  let items ← ((row.get "parameters").orElse (.list [])).toItems
  let parameters ← items.mapM Parameter.ofRecord
  return {
    name := name.plain, checkId := checkId.plain, kind
    schedule := (row.find? "schedule").getD (.text "")
    statement := (row.find? "statement").getD (.text "")
    parameters, updatedAt }

/-- The job without the point in time of its last change. -/
def content (job : Job) : Job :=
  { job with updatedAt := none }

end Job

end CheckKeeper
