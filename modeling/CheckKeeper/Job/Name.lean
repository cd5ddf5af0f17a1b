import CheckKeeper.Digest.Sha256
import CheckKeeper.Failure

namespace CheckKeeper.Job

/-! Names of jobs.

The name of a job follows from the id of its check.  Characters that a name cannot
hold become underscores, and an id that is changed by this gets eight digits of a
digest behind it, which keeps ids apart that become one text.
-/

def namePrefix : String := "dq_task_"

def isNameChar (c : Char) : Bool :=
  ('A' ≤ c && c ≤ 'Z') || ('a' ≤ c && c ≤ 'z') || ('0' ≤ c && c ≤ '9') || c == '_'

def nameChar (c : Char) : Char :=
  if isNameChar c then c else '_'

/-- The id with an underscore for each character that a name cannot hold. -/
def safeId (checkId : String) : String :=
  String.ofList (checkId.toList.map nameChar)

def nameWith (digest : String → String) (checkId : String) : String :=
  let safe := safeId checkId
  if safe = checkId then namePrefix ++ safe
  else namePrefix ++ safe ++ "_" ++ digest checkId

/-- The first eight hexadecimal digits of the digest of a text. -/
def shortDigest (text : String) : String :=
  String.ofList ((Digest.sha256Hex text).toList.take 8)

def nameOf (checkId : String) : String :=
  nameWith shortDigest checkId

/-- The name of the job for a check; without an id there is none. -/
def nameFor (checkId : String) : Except Failure String :=
  if checkId = "" then .error (.rule .noJobName) else .ok (nameOf checkId)

theorem nameFor_of_ne {checkId : String} (named : checkId ≠ "") :
    nameFor checkId = .ok (nameOf checkId) :=
  if_neg named

end CheckKeeper.Job
