import CheckKeeper.Compile.Consistency

namespace CheckKeeper.Preview

/-! Metrics of sample rows, and how far two of them are apart. -/

/-- The number in a cell, if there is one; truth values are none. -/
def numberOf (value : Value) : Except Failure (Option Float) :=
  match value with
  | .int number => (Value.floatOfInt number).map some
  | .float number => .ok (some number)
  | .text content => .ok (Number.readFloat content).toOption
  | _ => .ok none

/-- Metrics by name; of one name there is one. -/
abbrev Metrics := List (String × Float)

/-- Sets a metric: in its place if the name is there, and else at the end. -/
def setMetric (metrics : Metrics) (name : String) (value : Float) : Metrics :=
  if metrics.any (·.1 == name) then
    metrics.map fun metric => if metric.1 == name then (name, value) else metric
  else metrics ++ [(name, value)]

/-- Adds the numbers of a row, where later ones count. -/
def addFields (metrics : Metrics) : Row → Except Failure Metrics
  | [] => .ok metrics
  | (name, value) :: rest => do
      match ← numberOf value with
      | some number => addFields (setMetric metrics name.plain number) rest
      | none => addFields metrics rest

def addRows (metrics : Metrics) : List Value → Except Failure Metrics
  | [] => .ok metrics
  | .record row :: rest => do addRows (← addFields metrics row) rest
  | other :: _ => .error (.noMember other.typeName "items")

def metricsOf (samples : List Value) : Except Failure Metrics :=
  addRows [] samples

/-- The distance of the target from the source in parts of the source: nothing if
both are nought, the whole if one of them is. -/
def difference (source target : Float) : Float :=
  if source == 0.0 && target == 0.0 then 0.0
  else if source == 0.0 || target == 0.0 then 1.0
  else (source - target).abs / source.abs

def commonNames (source target : Metrics) : List String :=
  ((source.filter fun metric => target.any (·.1 == metric.1)).map (·.1)).mergeSort
    fun a b => a ≤ b

def metric (metrics : Metrics) (name : String) : Float :=
  (metrics.lookup name).getD 0.0

def quotient (numerator denominator : Int) : Except Failure Float :=
  let negative := (numerator < 0) != (denominator < 0)
  let nearest := Number.ofRatio negative numerator.natAbs denominator.natAbs
  if Number.isInfinite nearest then .error (.overflow .quotient) else .ok nearest

/-- The distance between two values: exact on integers, and else on the nearest
numbers. -/
def valueDifference (source target : Value) : Except Failure Float := do
  let nought := Value.int 0
  if source.same nought && target.same nought then return 0.0
  else if source.same nought || target.same nought then return 1.0
  else if source.exactValue?.isNone || target.exactValue?.isNone then
    .error (.misuse (.noArithmetic "-" source.typeName target.typeName))
  else
    match source, target with
    | .float s, other => return (s - (← other.toFloat)).abs / s.abs
    | other, .float t => do
        let s ← other.toFloat
        quotientOfFloats (s - t).abs other
    | a, b => do
        let s ← a.toInt
        quotient (s - (← b.toInt)).natAbs s.natAbs
where
  quotientOfFloats (distance : Float) (source : Value) : Except Failure Float := do
    return distance / (← source.toFloat).abs

end CheckKeeper.Preview
