import CheckKeeper.Warehouse.Client
import CheckKeeper.Change.Batch

namespace CheckKeeper.Warehouse.Changes

/-! The table of changes in the warehouse.

A row is pending until it is stamped as acknowledged.  The sequence number of an
event is its position; events without one are never acknowledged.
-/

def pendingQuery (table : String) : Query :=
  ⟨"SELECT EXISTS(SELECT 1 FROM " ++ table ++ " WHERE acknowledged_at IS NULL) AS pending", []⟩

def drainQuery (table : String) (limit : Option Int) : Query :=
  let all := "SELECT seq, action, check_id, changed_at FROM " ++ table ++
    " WHERE acknowledged_at IS NULL ORDER BY seq"
  match limit with
  | none => ⟨all, []⟩
  | some most => ⟨all ++ " LIMIT @limit", [⟨"limit", "INT64", .int most⟩]⟩

def acknowledgeQuery (table : String) (seqs : List Int) : Query :=
  ⟨"UPDATE " ++ table ++ " SET acknowledged_at = CURRENT_TIMESTAMP() " ++
      "WHERE acknowledged_at IS NULL AND seq IN UNNEST(@seqs)",
    [⟨"seqs", "ARRAY<INT64>", .list (seqs.map .int)⟩]⟩

def hasPending (table : String) : Remote Bool := do
  let found ← Remote.execute .store "Polling change feed" (pendingQuery table)
  match found.rows with
  | [] => return false
  | row :: _ => .ofExcept ((row.require "pending").map Value.isGiven)

/-- The batch of events, of which two or more must have numbers to be in order. -/
def batchOf (events : List ChangeEvent) : Except Failure Batch :=
  let seqs := events.map (·.seq)
  if 1 < seqs.length && seqs.contains none then
    .error (.misuse (.unordered ">" (.kinds "NoneType" "int")))
  else .ok ⟨events, Batch.highest seqs, seqs⟩

def drain (table : String) (limit : Option Int) : Remote Batch := do
  let found ← Remote.execute .store "Draining change feed" (drainQuery table limit)
  let events ← .ofExcept (found.rows.mapM ChangeEvent.ofRow)
  .ofExcept (batchOf events)

/-- How records show a number that may be missing. -/
def markText (mark : Option Int) : String :=
  (mark.elim Value.null Value.int).display

def acknowledge (table : String) (batch : Batch) : Remote Unit := do
  let seqs := batch.events.filterMap (·.seq)
  if !seqs.isEmpty then
    let _ ← Remote.execute .store "Acknowledging change feed" (acknowledgeQuery table seqs)
    Remote.note .debug
      ("Acknowledged " ++ Number.renderInt (seqs.length : Nat) ++ " change event(s), highest seq " ++
        markText batch.highWatermark)

end CheckKeeper.Warehouse.Changes
