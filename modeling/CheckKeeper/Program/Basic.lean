import CheckKeeper.Failure

namespace CheckKeeper

/-! Programs that call collaborators.

A program is a tree: it is done, it has failed, or it makes a call and goes on by
the answer, which may be a failure too.  What a call does is left to a handler, so
one program runs against tables in memory, against a warehouse, and against
collaborators that fail at will.
-/

/-- The calls of a kind of program, and what each of them answers. -/
structure Interface where
  Call : Type
  Answer : Call → Type

inductive Program (I : Interface) (α : Type) where
  | done (value : α)
  | fail (failure : Failure)
  | call (c : I.Call) (next : Except Failure (I.Answer c) → Program I α)

namespace Program

variable {I J : Interface} {α β σ : Type}

def bind (program : Program I α) (next : α → Program I β) : Program I β :=
  match program with
  | .done value => next value
  | .fail failure => .fail failure
  | .call c rest => .call c fun answer => (rest answer).bind next

instance : Monad (Program I) where
  pure := .done
  bind := bind

def ofExcept (found : Except Failure α) : Program I α :=
  match found with
  | .ok value => .done value
  | .error failure => .fail failure

/-- Makes one call; if it fails, so does the program. -/
def perform (c : I.Call) : Program I (I.Answer c) :=
  .call c ofExcept

/-- Runs a program to its end and yields its failure as a value. -/
def attempt : Program I α → Program I (Except Failure α)
  | .done value => .done (.ok value)
  | .fail failure => .done (.error failure)
  | .call c rest => .call c fun answer => (rest answer).attempt

/-- Runs `last` after a program, whether it failed or not. -/
def ensuring (program : Program I α) (last : Program I Unit) : Program I α := do
  let found ← program.attempt
  last
  ofExcept found

/-- The program under another interface that has all its calls. -/
def embed (call : (c : I.Call) → Program J (I.Answer c)) : Program I α → Program J α
  | .done value => .done value
  | .fail failure => .fail failure
  | .call c rest => (call c).attempt.bind fun answer => (rest answer).embed call

/-- What calls do to a state. -/
abbrev Handler (I : Interface) (σ : Type) : Type :=
  (c : I.Call) → σ → Except Failure (I.Answer c) × σ

/-- The result of a program, and the state that it leaves. -/
def run (handle : Handler I σ) : Program I α → σ → Except Failure α × σ
  | .done value, state => (.ok value, state)
  | .fail failure, state => (.error failure, state)
  | .call c rest, state =>
      let (answer, after) := handle c state
      (rest answer).run handle after

/-- A program that goes on runs its first part and then, from the state that this
leaves, the second. -/
theorem run_bind (handle : Handler I σ) (program : Program I α) (next : α → Program I β)
    (state : σ) :
    (program.bind next).run handle state =
      match program.run handle state with
      | (.ok value, after) => (next value).run handle after
      | (.error failure, after) => (.error failure, after) := by
  induction program generalizing state with
  | done value => rfl
  | fail failure => rfl
  | call c rest ih => exact ih _ _

theorem run_attempt (handle : Handler I σ) (program : Program I α) (state : σ) :
    program.attempt.run handle state =
      (.ok (program.run handle state).1, (program.run handle state).2) := by
  induction program generalizing state with
  | done value => rfl
  | fail failure => rfl
  | call c rest ih => exact ih _ _

end Program

end CheckKeeper
