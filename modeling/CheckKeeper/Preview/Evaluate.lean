import CheckKeeper.Compile.Check
import CheckKeeper.Preview.Clock
import CheckKeeper.Preview.Filter
import CheckKeeper.Preview.Metrics
import CheckKeeper.Result

namespace CheckKeeper.Preview

open Calendar

/-! Previews: what a check would report on sample rows.

A preview follows the compiled statement.  A definition that does not compile has
no preview.
-/

structure Samples where
  rows : Value
  source : Value
  target : Value

/-- Samples one by one; what is not given holds none. -/
def samplesOf (samples : Value) : Except Failure (List Value) :=
  (samples.orElse (.list [])).toItems

def cell (column : String) (sample : Value) : Except Failure Value := do
  return Row.get (← sample.toRow) column

/-- The latest of the moments, and of equal ones the first. -/
def latest : List Moment → Option Moment
  | [] => none
  | first :: rest =>
      some (rest.foldl (fun best point => if best.instant < point.instant then point else best)
        first)

def statusOf (passed : Bool) : ResultStatus :=
  if passed then .ok else .ko

/-- Fresh is what has a date at or behind the agreed age before the run. -/
def freshness (d : Definition) (samples : List Value) (runTime : Moment) :
    Except Failure (ResultStatus × Value) := do
  let kept ← filterRows d.rowFilter samples
  let column := d.keyColumns.headD ""
  let dates ← kept.mapM fun sample => do instantOf (← cell column sample)
  let newest := latest (dates.filterMap id)
  let limit ← before runTime (← spanOfMinutes d.slaMinutes)
  let fresh := newest.any fun date => limit ≤ date.instant
  return (statusOf fresh, .ofFields [
    ("max_date", newest.elim .null fun date => .text date.render),
    ("sla_minutes", d.slaMinutes),
    ("total_rows", .ofNat kept.length)])

def keyOf (columns : List String) (sample : Value) : Except Failure (List Value) :=
  columns.mapM fun column => cell column sample

def countKey (groups : List (List Value × Nat)) (key : List Value) : List (List Value × Nat) :=
  if groups.any fun group => Value.sameItems group.1 key then
    groups.map fun group =>
      if Value.sameItems group.1 key then (group.1, group.2 + 1) else group
  else groups ++ [(key, 1)]

/-- Samples counted by key, in the order in which the keys first appear. -/
def countKeys (columns : List String) (groups : List (List Value × Nat)) :
    List Value → Except Failure (List (List Value × Nat))
  | [] => .ok groups
  | sample :: rest => do
      let key ← keyOf columns sample
      key.forM Value.checkKey
      countKeys columns (countKey groups key) rest

def uniqueness (d : Definition) (samples : List Value) : Except Failure (ResultStatus × Value) := do
  let kept ← filterRows d.rowFilter samples
  let groups ← countKeys d.keyColumns [] kept
  let duplicates := groups.countP fun group => 1 < group.2
  return (statusOf (duplicates == 0), .ofFields [
    ("duplicate_count", .ofNat duplicates),
    ("keys", .text (Compile.keyList d)),
    ("total_rows", .ofNat kept.length)])

structure Deviation where
  name : String
  source : Float
  target : Float

def Deviation.size (deviation : Deviation) : Float :=
  difference deviation.source deviation.target

def Deviation.toField (deviation : Deviation) : String × Value :=
  (deviation.name, .ofFields [
    ("source_value", .float deviation.source),
    ("target_value", .float deviation.target),
    ("rel_diff", .float deviation.size)])

def deviations (source target : Metrics) : List Deviation :=
  (commonNames source target).map fun name => ⟨name, metric source name, metric target name⟩

def consistency (d : Definition) (source target : List Value) :
    Except Failure (ResultStatus × Value) := do
  let threshold ← Compile.thresholdOf d
  let found := deviations (← metricsOf source) (← metricsOf target)
  let excessive ← found.mapM fun deviation => (Value.float deviation.size).isGreater threshold
  return (statusOf (!excessive.contains true), .ofFields (found.map Deviation.toField))

/-- The result that a check would report at `runTime`, or now if that is null. -/
def evaluate (d : Definition) (samples : Samples) (runTime : Value) (now : Moment) :
    Except Failure CheckResult := do
  match ← Compile.compile d (.text Compile.defaultResultsTable) with
  | .invalid _ reason message => .error (.rule (.rejected reason.name message))
  | .valid check _ =>
      let executedAt := (← instantOf runTime).getD now
      let (status, details) ←
        match check.kind with
        | .freshness => do freshness d (← samplesOf samples.rows) executedAt
        | .uniqueness => do uniqueness d (← samplesOf samples.rows)
        | _ => do consistency d (← samplesOf samples.source) (← samplesOf samples.target)
      return {
        checkId := .text d.checkId, checkName := d.checkName, checkType := .text check.kind.name
        status, details, executedAt := some executedAt }

end CheckKeeper.Preview
