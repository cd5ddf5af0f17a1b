import CheckKeeper.Program.Loop
import CheckKeeper.Job.Basic
import CheckKeeper.Sql.Identifier

namespace CheckKeeper

/-! The client of the warehouse.

It runs one statement at a time, with values that are bound to its parameters and
never become part of its text.  When the service behind it fails, the failure is
told as one of the collaborator that asked.
-/

/-- A statement and what is bound to its parameters. -/
structure Query where
  sql : String
  parameters : List Parameter

/-- What a statement answers: the rows that it reads, and how many rows it changed
and updated, as far as the service tells. -/
structure Completion where
  rows : List Row
  affected : Option Int
  updated : Option Int

def Completion.silent : Completion :=
  ⟨[], none, none⟩

namespace Warehouse

inductive Call where
  | query (query : Query)
  | loop (c : Loop.Call)

def Answer : Call → Type
  | .query _ => Completion
  | .loop c => Loop.Answer c

def interface : Interface :=
  ⟨Call, Answer⟩

end Warehouse

abbrev Remote (α : Type) : Type :=
  Program Warehouse.interface α

namespace Remote

/-- Runs a statement.  If the service fails, so does the program, with the failure
that `wrap` makes of what was done and why it failed. -/
def execute (wrap : String → Failure) (deed : String) (query : Query) : Remote Completion := do
  match ← (Program.perform (I := Warehouse.interface) (.query query)).attempt with
  | .ok completion => return completion
  | .error (.service text) => .fail (wrap (deed ++ " failed: " ++ text))
  | .error failure => .fail failure

def note (level : LogLevel) (text : String) : Remote Unit :=
  Program.perform (I := Warehouse.interface) (.loop (.note level text))

end Remote

/-- Whether a count says that rows were changed. -/
def changedRows (count : Option Int) : Bool :=
  count.any (· != 0)

end CheckKeeper
