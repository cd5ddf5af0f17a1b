import CheckKeeper.Change.Batch
import CheckKeeper.Slice

namespace CheckKeeper.Memory

open Calendar

/-! A feed of changes that is held in memory.

Every event has a position, counted from 1.  Reading acknowledges nothing, so an
event is delivered again until its own position is acknowledged.
-/

structure Feed where
  entries : List (Nat × ChangeEvent)
  nextPosition : Nat
  acknowledged : List Int

namespace Feed

def empty : Feed :=
  ⟨[], 1, []⟩

/-- Appends an event as it is. -/
def publish (feed : Feed) (event : ChangeEvent) : Feed :=
  { feed with
    entries := feed.entries ++ [(feed.nextPosition, event)]
    nextPosition := feed.nextPosition + 1 }

/-- The event of a change that is captured now; its position is its number. -/
def captured (feed : Feed) (now : Moment) (action : ChangeAction) (checkId : String) :
    ChangeEvent :=
  ⟨action, checkId, some feed.nextPosition, .moment now⟩

def record (feed : Feed) (now : Moment) (action : ChangeAction) (checkId : String) : Feed :=
  feed.publish (feed.captured now action checkId)

def isAcknowledged (feed : Feed) (position : Nat) : Bool :=
  feed.acknowledged.contains (position : Int)

/-- The events that are not acknowledged, with their positions. -/
def pending (feed : Feed) : List (Nat × ChangeEvent) :=
  feed.entries.filter fun entry => !feed.isAcknowledged entry.1

def hasPending (feed : Feed) : Bool :=
  !feed.pending.isEmpty

def batchOf (entries : List (Nat × ChangeEvent)) : Batch where
  events := entries.map (·.2)
  highWatermark := entries.getLast?.map fun entry => (entry.1 : Int)
  positions := entries.map fun entry => some (entry.1 : Int)

/-- The first pending events, in the order of their positions. -/
def drain (feed : Feed) (limit : Option Int) : Batch :=
  batchOf (limit.elim feed.pending fun most => firstUpTo most feed.pending)

def acknowledge (feed : Feed) (batch : Batch) : Feed :=
  { feed with acknowledged := feed.acknowledged ++ batch.positions.filterMap id }

/-- The last position up to which all are acknowledged, from `reached` on. -/
def acknowledgedFrom (feed : Feed) : Nat → Nat → Nat
  | 0, reached => reached
  | steps + 1, reached =>
      if feed.isAcknowledged (reached + 1) then feed.acknowledgedFrom steps (reached + 1)
      else reached

def acknowledgedPosition (feed : Feed) : Nat :=
  feed.acknowledgedFrom feed.acknowledged.length 0

end Feed

end CheckKeeper.Memory
