import CheckKeeper.Value.Convert
import CheckKeeper.Text.Case

namespace CheckKeeper

/-! Changes of definitions, as the feed delivers them.

An event may be delivered more than once, and out of order.  Where every event of
a batch has a sequence number, that number is the order; else it is the order of
arrival.
-/

inductive ChangeAction where
  | insert
  | update
  | delete
deriving DecidableEq, Repr

namespace ChangeAction

def name : ChangeAction → String
  | .insert => "INSERT"
  | .update => "UPDATE"
  | .delete => "DELETE"

def all : List ChangeAction :=
  [.insert, .update, .delete]

def ofName (given : String) : Except Failure ChangeAction :=
  match all.find? (·.name == given) with
  | some action => .ok action
  | none => .error (.choice (.text given) "ChangeAction")

end ChangeAction

structure ChangeEvent where
  action : ChangeAction
  checkId : String
  seq : Option Int
  changedAt : Value

namespace ChangeEvent

def ofRow (row : Row) : Except Failure ChangeEvent := do
  let action ← ChangeAction.ofName (Text.upperText (← (← row.require "action").written))
  let checkId ← (← row.require "check_id").written
  let seqValue := row.get "seq"
  let seq ← if seqValue.isNull then pure none else seqValue.toInt.map some
  return ⟨action, checkId, seq, row.get "changed_at"⟩

/-- The events in their own order, if every one has a sequence number; events with
one number keep the order of their arrival. -/
def inOrder (events : List ChangeEvent) : List ChangeEvent :=
  if events.all (·.seq.isSome) then
    events.mergeSort fun a b => a.seq.getD 0 ≤ b.seq.getD 0
  else events

/-- Sets the action of an id: in its place if the id is there, and else at the end. -/
def setAction (pairs : List (String × ChangeAction)) (checkId : String) (action : ChangeAction) :
    List (String × ChangeAction) :=
  if pairs.any (·.1 == checkId) then
    pairs.map fun pair => if pair.1 == checkId then (checkId, action) else pair
  else pairs ++ [(checkId, action)]

/-- The last action of each id, in the order in which the ids first appear. -/
def collapse (events : List ChangeEvent) : List (String × ChangeAction) :=
  (inOrder events).foldl (fun pairs event => setAction pairs event.checkId event.action) []

end ChangeEvent

end CheckKeeper
