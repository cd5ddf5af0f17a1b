import CheckKeeper.Warehouse.Client
import CheckKeeper.Json.Writer
import CheckKeeper.Job.Basic

namespace CheckKeeper.Warehouse.Jobs

/-! The table of jobs in the warehouse, which the runtime of the jobs reads.

One statement creates or replaces a job, so that the runtime sees either the old
one or the new one.
-/

def byName (name : String) : List Parameter :=
  [.ofText "job_name" (.text name)]

def mergeText (table : String) : String :=
  "MERGE " ++ table ++ " T USING (SELECT @job_name AS job_name) S ON T.job_name = S.job_name " ++
    "WHEN MATCHED THEN UPDATE SET check_id = @check_id, check_type = @check_type, " ++
    "schedule = @schedule, statement = @statement, parameters = PARSE_JSON(@parameters), " ++
    "updated_at = CURRENT_TIMESTAMP() WHEN NOT MATCHED THEN INSERT " ++
    "(job_name, check_id, check_type, schedule, statement, parameters, updated_at) " ++
    "VALUES (@job_name, @check_id, @check_type, @schedule, @statement, " ++
    "PARSE_JSON(@parameters), CURRENT_TIMESTAMP())"

/-- The statement that writes a job, whose parameters are written as JSON. -/
def merge (table : String) (job : Job) (parameters : String) : Query :=
  ⟨mergeText table, byName job.name ++
    [.ofText "check_id" (.text job.checkId),
      .ofText "check_type" (.text job.kind.name),
      .ofText "schedule" job.schedule,
      .ofText "statement" job.statement,
      .ofText "parameters" (.text parameters)]⟩

def deleteOne (table name : String) : Query :=
  ⟨"DELETE FROM " ++ table ++ " WHERE job_name = @job_name", byName name⟩

def selectName (table checkId : String) : Query :=
  ⟨"SELECT job_name FROM " ++ table ++
      " WHERE check_id = @check_id ORDER BY updated_at DESC LIMIT 1",
    [.ofText "check_id" (.text checkId)]⟩

def selectOne (table name : String) : Query :=
  ⟨"SELECT * FROM " ++ table ++ " WHERE job_name = @job_name LIMIT 1", byName name⟩

/-- Creates or replaces a job, and answers whether there was one of its name. -/
def put (table : String) (job : Job) : Remote Bool := do
  let parameters ← .ofExcept (Json.dump .strict (.list (job.parameters.map Parameter.toRecord)))
  let done ← Remote.execute .scheduler ("Creating or replacing job " ++ job.name)
    (merge table job parameters)
  return changedRows done.updated

def delete (table name : String) : Remote Bool := do
  let done ← Remote.execute .scheduler ("Deleting job " ++ name) (deleteOne table name)
  return changedRows done.affected

def nameOf (value : Value) : Option String :=
  if value.isNull then none else some value.plain

def find (table checkId : String) : Remote (Option String) := do
  let found ← Remote.execute .scheduler ("Resolving job for " ++ checkId) (selectName table checkId)
  match found.rows with
  | [] => return none
  | row :: _ => .ofExcept ((row.require "job_name").map nameOf)

/-- The value of a column that may hold JSON text. -/
def readColumn (row : Row) (column : String) : Except Failure Row :=
  match row.get column with
  | .text content =>
      ((Json.read content).map (row.set column)).mapError Json.ReadFault.toFailure
  | _ => .ok row

def get (table name : String) : Remote (Option Job) := do
  let found ← Remote.execute .scheduler ("Reading job " ++ name) (selectOne table name)
  match found.rows with
  | [] => return none
  | row :: _ => .ofExcept ((readColumn row "parameters" >>= Job.ofRecord).map some)

end CheckKeeper.Warehouse.Jobs
