import CheckKeeper.Sql.Filter

namespace CheckKeeper.Preview

open Sql

/-! Row filters carried out on sample rows.

A column that a row does not have is null.  Null meets no comparison with a value,
and a comparison with null asks for null or for anything else.
-/

/-- Whether two values that are not null compare as asked. -/
def holds (comparison : Comparison) (actual expected : Value) : Except Failure Bool :=
  match comparison with
  | .eq => .ok (actual.same expected)
  | .ne => .ok (!actual.same expected)
  | .lt => actual.isLess expected
  | .gt => actual.isGreater expected
  | .le => actual.isAtMost expected
  | .ge => actual.isAtLeast expected

def meets (row : Row) (condition : Condition) : Except Failure Bool := do
  let actual ← Row.lookup row condition.column
  if condition.value.isNull then return (condition.comparison == .eq) == actual.isNull
  else if actual.isNull then return false
  else holds condition.comparison actual condition.value

/-- Whether a row meets all conditions; the first that fails ends the search. -/
def meetsAll (row : Row) : List Condition → Except Failure Bool
  | [] => .ok true
  | condition :: rest => do
      if ← meets row condition then meetsAll row rest else return false

/-- Whether a sample, which should be a row, meets all conditions. -/
def sampleMeets (conditions : List Condition) (sample : Value) : Except Failure Bool :=
  if conditions.isEmpty then .ok true
  else do meetsAll (← sample.toRow) conditions

def keepRows (conditions : List Condition) : List Value → Except Failure (List Value)
  | [] => .ok []
  | sample :: rest => do
      let kept ← sampleMeets conditions sample
      let later ← keepRows conditions rest
      return if kept then sample :: later else later

/-- The samples that pass a declared filter, in order. -/
def filterRows (filter : Value) (samples : List Value) : Except Failure (List Value) := do
  keepRows (← Condition.ofFilter filter) samples

end CheckKeeper.Preview
