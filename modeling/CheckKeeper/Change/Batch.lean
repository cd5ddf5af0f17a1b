import CheckKeeper.Change.Event

namespace CheckKeeper

/-! Batches of events that were read from a feed together.

Beside each event stands its position, the token by which the feed acknowledges
it; a batch that was not read from a feed has no positions.
-/

structure Batch where
  events : List ChangeEvent
  highWatermark : Option Int
  positions : List (Option Int)

namespace Batch

def empty : Batch :=
  ⟨[], none, []⟩

def isEmpty (batch : Batch) : Bool :=
  batch.events.isEmpty

def highest (tokens : List (Option Int)) : Option Int :=
  (tokens.filterMap id).max?

/-- The items of a list that stand beside the events to keep. -/
def keepBeside {α : Type} (ids : List String) (events : List ChangeEvent) (items : List α) :
    List α :=
  ((events.zip items).filter fun (event, _) => !ids.contains event.checkId).map (·.2)

/-- The batch without the events of the given ids. -/
def excluding (batch : Batch) (ids : List String) : Batch :=
  if ids.isEmpty then batch
  else
    let events := batch.events.filter fun event => !ids.contains event.checkId
    let positions := keepBeside ids batch.events batch.positions
    { events, positions
      highWatermark := highest (if positions.isEmpty then events.map (·.seq) else positions) }

/-- Why positions are no tokens for the events of a batch: one is missing, or one
is no number while there are others to compare it with. -/
def positionFault (batch : Batch) (ids : List String) : Option Failure :=
  let kept := batch.excluding ids
  if ids.isEmpty || batch.positions.isEmpty then none
  else if kept.positions.length < kept.events.length then
    some (.other "IndexError" "tuple index out of range")
  else if 1 < kept.positions.length && kept.positions.contains none then
    some (.misuse (.unordered ">" (.kinds "NoneType" "int")))
  else none

/-- The batch without the events of the given ids, where positions are not known
to be right. -/
def excluding? (batch : Batch) (ids : List String) : Except Failure Batch :=
  match batch.positionFault ids with
  | some failure => .error failure
  | none => .ok (batch.excluding ids)

end Batch

end CheckKeeper
