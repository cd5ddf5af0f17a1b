import CheckKeeper.Sql.Identifier
import CheckKeeper.Job.Basic

namespace CheckKeeper.Sql

/-! Row filters.

A filter is a conjunction of conditions, each of which compares one column with
one value.  It is declared as a record from columns to the values that they must
have, or as a list of conditions.  Comparing with null asks whether the column is
null, and only equality can ask that.
-/

inductive Comparison where
  | eq
  | ne
  | lt
  | gt
  | le
  | ge
deriving DecidableEq, Repr

namespace Comparison

def symbol : Comparison → String
  | .eq => "="
  | .ne => "!="
  | .lt => "<"
  | .gt => ">"
  | .le => "<="
  | .ge => ">="

def all : List Comparison :=
  [.eq, .ne, .lt, .gt, .le, .ge]

def ofSymbol? (given : String) : Option Comparison :=
  all.find? (·.symbol == given)

/-- The comparison that a declared operator names. -/
def ofValue (given : Value) : Except Failure Comparison := do
  given.checkKey
  match given.text?.bind ofSymbol? with
  | some comparison => return comparison
  | none => .error (given.refusal (.rowFilter (.operator given)))

theorem ofSymbol?_symbol (comparison : Comparison) :
    ofSymbol? comparison.symbol = some comparison := by
  cases comparison <;> decide

end Comparison

structure Condition where
  column : Value
  comparison : Comparison
  value : Value

namespace Condition

def ofEntry (entry : Value) : Except Failure Condition :=
  match entry with
  | .record row =>
      match Row.find? row "column" with
      | some column => do
          let comparison ← Comparison.ofValue ((Row.find? row "op").getD (.text "="))
          return ⟨column, comparison, Row.get row "value"⟩
      | none => .error (entry.refusal (.rowFilter (.entry entry)))
  | other => .error (other.refusal (.rowFilter (.entry other)))

/-- The conditions of a declared filter, in order. -/
def ofFilter (filter : Value) : Except Failure (List Condition) :=
  if !filter.isGiven then .ok []
  else
    match filter with
    | .record row => .ok (row.map fun (column, value) => ⟨column, .eq, value⟩)
    | .text content => .error (.rowFilter (.freeText content))
    | .list entries => entries.mapM ofEntry
    | other => .error (.rowFilter (.shape other.shortTypeName))

def toRecord (condition : Condition) : Value :=
  .ofFields [("column", condition.column), ("op", .text condition.comparison.symbol),
    ("value", condition.value)]

/-- The name of the parameter that the condition with this index binds. -/
def parameterName (index : Nat) : String :=
  "f_" ++ Number.renderInt (index : Nat)

/-- The condition with this index in the statement, and what it binds. -/
def toSql (index : Nat) (condition : Condition) : Except Failure (String × List Parameter) := do
  let column ← Sql.column condition.column
  if condition.value.isNull then
    match condition.comparison with
    | .eq => return (column ++ " IS NULL", [])
    | .ne => return (column ++ " IS NOT NULL", [])
    | other => .error (.rowFilter (.nullComparison other.symbol))
  else
    let name := parameterName index
    return (column ++ " " ++ condition.comparison.symbol ++ " @" ++ name,
      [⟨name, Parameter.typeOf condition.value, condition.value⟩])

def toSqlFrom (index : Nat) : List Condition → Except Failure (List (String × List Parameter))
  | [] => .ok []
  | condition :: rest => do
      let first ← condition.toSql index
      return first :: (← toSqlFrom (index + 1) rest)

end Condition

/-- The clause that carries out a declared filter, and the parameters it binds; no
condition makes no clause. -/
def whereClause (filter : Value) : Except Failure (String × List Parameter) := do
  let conditions ← Condition.ofFilter filter
  let parts ← Condition.toSqlFrom 0 conditions
  let parameters := parts.flatMap (·.2)
  if parts.isEmpty then return ("", [])
  else return ("WHERE " ++ Text.join " AND " (parts.map (·.1)), parameters)

end CheckKeeper.Sql
