import CheckKeeper.Compile.Freshness
import CheckKeeper.Compile.Uniqueness
import CheckKeeper.Compile.Consistency

namespace CheckKeeper.Compile

/-! The compiler: from a definition to the check that carries it out.

Compiling runs nothing.  A definition at fault gets a verdict that says so; what
fails is only a table for the results that is no path, or a value of a type that
the tables cannot hold.
-/

def unsupported (d : Definition) : Refusal :=
  .reason .unsupportedCheckType
    ("check type '" ++ d.checkType.plain ++ "' is not supported; existing job left untouched")

def ofKind (kind : CheckKind) (d : Definition) (results : String) : Except Refusal CompiledCheck :=
  match kind with
  | .freshness => freshness d results
  | .uniqueness => uniqueness d results
  | .consistency => consistency d results
  | .unsupported => .error (unsupported d)

/-- Whether the definition has a schedule that is more than blanks. -/
def hasSchedule (d : Definition) : Except Failure Bool := do
  if d.schedule.isGiven then
    let schedule ← d.schedule.toText "strip"
    return !Text.isBlankText schedule
  else return false

/-- A check or a reason as a verdict on the definition. -/
def toVerdict (d : Definition) (found : Except Refusal CompiledCheck) : Except Failure Verdict :=
  match found with
  | .ok check => .ok (.valid check "")
  | .error (.reason reason text) =>
      .ok (.invalid d.checkId reason ("Check " ++ d.checkId ++ ": " ++ text))
  | .error (.failure failure) => .error failure

def defaultResultsTable : String := "check_results"

/-- Compiles a definition for a table of results. -/
def compile (d : Definition) (resultsTable : Value) : Except Failure Verdict := do
  let results ← Sql.pathOf resultsTable
  let scheduled ← hasSchedule d
  let kind ← d.kind
  if !scheduled && kind != .unsupported then
    toVerdict d (.error (.reason .invalidParameter "schedule is required"))
  else toVerdict d (ofKind kind d results)

end CheckKeeper.Compile
