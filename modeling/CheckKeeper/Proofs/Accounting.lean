import CheckKeeper.Proofs.Commitment
import CheckKeeper.Proofs.Served
import CheckKeeper.Proofs.Staleness
import CheckKeeper.Warehouse.Script

namespace CheckKeeper

open Program

/-! How a pass accounts for the events that it has drained.

Every id of the batch has one outcome, and the events of the ids that did not fail are
acknowledged.  A feed in memory loses just these from what is pending, and the warehouse is
asked for one update with their numbers.
-/

namespace Batch

variable {batch : Batch} {ids : List String}

theorem excluding_events (batch : Batch) (ids : List String) :
    (batch.excluding ids).events =
      batch.events.filter fun event => !ids.contains event.checkId := by
  unfold excluding
  split
  · rename_i empty
    rw [List.isEmpty_iff] at empty
    subst empty
    simp
  · rfl

/-- Items that stand beside events stay beside them, if there are enough of them. -/
theorem filter_zip {α : Type} (p : ChangeEvent → Bool) (events : List ChangeEvent) (items : List α) :
    (events.filter p).length ≤ ((events.zip items).filter fun pair => p pair.1).length →
    (events.filter p).zip (((events.zip items).filter fun pair => p pair.1).map (·.2)) =
      (events.zip items).filter fun pair => p pair.1 := by
  induction events generalizing items with
  | nil => simp
  | cons event later ih =>
      cases items with
      | nil => simp
      | cons item items =>
          by_cases kept : p event = true
          · simpa [kept] using ih items
          · simpa [kept] using ih items

theorem zip_excluding (tokens : batch.positionFault ids = none) :
    (batch.excluding ids).events.zip (batch.excluding ids).positions =
      (batch.events.zip batch.positions).filter fun pair => !ids.contains pair.1.checkId := by
  unfold positionFault at tokens
  dsimp only at tokens
  by_cases all : ids = []
  · subst all
    simp [excluding]
  · have some_ids : ids.isEmpty = false := by simpa using all
    simp only [excluding, some_ids, Bool.false_eq_true, if_false, Bool.false_or] at tokens ⊢
    cases without : batch.positions with
    | nil => simp [keepBeside]
    | cons first others =>
        rw [without] at tokens
        simp only [List.isEmpty_cons, Bool.false_eq_true, if_false] at tokens
        apply filter_zip (fun event => !ids.contains event.checkId)
        split at tokens
        · cases tokens
        · rename_i enough
          simpa [keepBeside] using enough

theorem keepBeside_sublist {α : Type} {events : List ChangeEvent} {items : List α}
    (beside : items.length ≤ events.length) (ids : List String) :
    (keepBeside ids events items).Sublist items := by
  refine (List.filter_sublist.map _).trans ?_
  rw [List.map_snd_zip beside]

/-- Where every event has an item beside it, as many items are kept as events. -/
theorem length_keepBeside {α : Type} {events : List ChangeEvent} {items : List α}
    (paired : items.length = events.length) (ids : List String) :
    (keepBeside ids events items).length =
      (events.filter fun event => !ids.contains event.checkId).length := by
  have whole : (events.zip items).map (·.1) = events := List.map_fst_zip (Nat.le_of_eq paired.symm)
  conv_rhs => rw [← whole, List.filter_map, List.length_map]
  rw [keepBeside, List.length_map]
  rfl

/-- A batch with a token for each event, none of which is missing if there are several, is
without fault. -/
theorem positionFault_eq_none (paired : batch.positions.length = batch.events.length)
    (numbered : 1 < batch.positions.length → none ∉ batch.positions) (ids : List String) :
    batch.positionFault ids = none := by
  have beside := keepBeside_sublist (Nat.le_of_eq paired) ids
  have enough := length_keepBeside paired ids
  unfold positionFault
  dsimp only
  split
  · rfl
  · rename_i some_left
    have some_ids : ¬ ids.isEmpty = true := fun empty => some_left (by rw [empty, Bool.true_or])
    have positions : (batch.excluding ids).positions =
        keepBeside ids batch.events batch.positions := by
      unfold excluding
      rw [if_neg some_ids]
    rw [excluding_events, positions, enough, if_neg (Nat.lt_irrefl _), ← enough, if_neg]
    rw [Bool.and_eq_true, decide_eq_true_eq, List.contains_iff_mem]
    rintro ⟨several, missing⟩
    exact numbered (Nat.lt_of_lt_of_le several beside.length_le) (beside.mem missing)

end Batch

theorem Memory.Feed.positionFault_batchOf (entries : List (Nat × ChangeEvent)) (ids : List String) :
    (batchOf entries).positionFault ids = none := by
  apply Batch.positionFault_eq_none
  · simp [batchOf]
  · simp [batchOf]

namespace Sync

variable {σ : Type} {handle : Handler Service.interface σ} {settings : Settings} {s : σ}
  {batch : Batch}

/-- A feed in memory stands behind the collaborators: what is drained is read from it, what
is acknowledged is told to it, and any other call may only add to it. -/
structure Behind (handle : Handler Service.interface σ) (feed : σ → Memory.Feed) : Prop where
  drains : ∀ limit s batch, (handle (.drain limit) s).1 = .ok (some batch) →
    batch = (feed s).drain limit
  acknowledges : ∀ batch s, (handle (.acknowledge batch) s).1 = .ok () →
    feed (handle (.acknowledge batch) s).2 = (feed s).acknowledge batch
  grows : ∀ c s, Spares c → (feed s).Grows (feed (handle c s).2)

theorem Behind.reaches {feed : σ → Memory.Feed} {after : σ} (behind : Behind handle feed)
    (reached : Reaches handle Spares s after) : (feed s).Grows (feed after) := by
  induction reached with
  | refl => exact .refl
  | tail _ last ih =>
      obtain ⟨c, spares, rfl⟩ := last
      exact ih.trans (behind.grows c _ spares)

theorem grows_capture (tables : Memory.Tables) (action : ChangeAction) (checkId : String) :
    tables.feed.Grows (tables.capture action checkId).feed := by
  unfold Memory.Tables.capture
  split
  · exact .single ⟨tables.feed.captured tables.clock action checkId, rfl⟩
  · exact .refl

theorem feed_putRow {tables after : Memory.Tables} {d : Definition} {action : ChangeAction}
    (stored : tables.putRow d = .ok (action, after)) : after.feed = tables.feed := by
  obtain ⟨_, rfl⟩ := Memory.Tables.eq_setRow_of_putRow stored
  rfl

theorem grows_handle {c : Service.Call} (spares : Spares c) (s : Memory.State) :
    s.tables.feed.Grows (Memory.handle c s).2.tables.feed := by
  cases c with
  | putDefinition d =>
      simp only [Memory.handle]
      split
      · rename_i action tables stored
        rw [← feed_putRow stored]
        exact grows_capture tables action d.checkId
      · exact .refl
  | deleteDefinition checkId =>
      simp only [Memory.handle]
      split
      · exact grows_capture (s.tables.removeRow checkId) .delete checkId
      · exact .refl
  | acknowledge batch => cases spares
  | _ => exact .refl

theorem behind_trial : Behind Memory.Trial.handle (·.base.tables.feed) where
  drains := by
    intro limit trial batch read
    have turn := trial.turn (.drain limit)
    rw [read] at turn
    generalize (Memory.Trial.handle (.drain limit) trial).2.base = after at turn
    cases turn
    rfl
  acknowledges := by
    intro batch trial accepted
    have turn := trial.turn (.acknowledge batch)
    rw [accepted] at turn
    generalize (Memory.Trial.handle (.acknowledge batch) trial).2.base = after at turn
    cases turn
    rfl
  grows := by
    intro c trial spares
    have turn := trial.turn c
    generalize (Memory.Trial.handle c trial).2.base = after at turn
    generalize (Memory.Trial.handle c trial).1 = answer at turn
    cases turn with
    | carried => exact grows_handle spares trial.base
    | early => exact .refl
    | late => exact grows_handle spares trial.base

/-- What a pass leaves of a feed that has lost the events of a batch, but for some ids. -/
def Leaves (feed left : Memory.Feed) (batch : Batch) (ids : List String) : Prop :=
  ∃ early drained rest late,
    feed.pending ++ early = drained ++ rest ∧ drained.map (·.2) = batch.events ∧
    left.entries = feed.entries ++ early ++ late ∧
    left.pending = (drained.filter fun entry => ids.contains entry.2.checkId) ++ rest ++ late

theorem Behind.leaves {feed : σ → Memory.Feed} (behind : Behind handle feed)
    (formed : (feed s).WellFormed) {ids : List String} {acted after : σ}
    (read : (handle (.drain settings.batchLimit) (draining handle s)).1 = .ok (some batch))
    (acting : Reaches handle Spares (drained handle settings s) acted)
    (accepted : (handle (.acknowledge (batch.excluding ids)) acted).1 = .ok ())
    (telling : Reaches handle Spares (handle (.acknowledge (batch.excluding ids)) acted).2 after) :
    Leaves (feed s) (feed after) batch ids := by
  obtain ⟨early, opening⟩ := (behind.reaches (reaches_draining handle s)).added formed
  have whole := behind.drains _ _ _ read
  rw [Memory.Feed.drain_eq] at whole
  obtain ⟨rest, split⟩ :=
    Memory.Feed.drainable_prefix (feed (draining handle s)) settings.batchLimit
  generalize (feed (draining handle s)).drainable settings.batchLimit = entries at whole split
  subst whole
  have reading : (feed (draining handle s)).Grows (feed (drained handle settings s)) :=
    behind.grows (.drain settings.batchLimit) _ rfl
  obtain ⟨between, acting⟩ :=
    Memory.Feed.Grows.added (reading.trans (behind.reaches acting)) opening.formed
  have pending : (feed acted).pending = entries ++ (rest ++ between) := by
    rw [acting.pending, ← split, List.append_assoc]
  have told := behind.acknowledges _ _ accepted
  have formed' : (feed (handle (.acknowledge ((Memory.Feed.batchOf entries).excluding ids))
      acted).2).WellFormed := by
    rw [told]
    refine acting.formed.acknowledge_excluding (fun entry member => ?_) ids
    exact acting.formed.pending_below entry (by rw [pending]; exact List.mem_append_left _ member)
  obtain ⟨late, telling⟩ := (behind.reaches telling).added formed'
  refine ⟨early, entries, rest, between ++ late, ?_, rfl, ?_, ?_⟩
  · rw [← opening.pending, split]
  · rw [telling.entries, told]
    simp only [Memory.Feed.acknowledge, acting.entries, opening.entries, List.append_assoc]
  · rw [telling.pending, told,
      Memory.Feed.pending_acknowledge_excluding acting.formed pending ids]
    simp only [List.append_assoc]

theorem updates_of_reaches {tables : Warehouse.Catalog} {client : Handler Warehouse.interface σ}
    {asked : σ → List Query} {after : σ} (asks : Warehouse.Asks client asked)
    (reached : Reaches (tables.served client) Spares s after) :
    Warehouse.updates (asked after) = Warehouse.updates (asked s) := by
  induction reached with
  | refl => rfl
  | tail _ last ih =>
      obtain ⟨c, spares, rfl⟩ := last
      refine (Warehouse.updates_of_modest asks (Warehouse.modest_serve tables c ?_) _).trans ih
      rintro batch rfl
      cases spares

/-- What is acknowledged of a batch whose events have numbers is one update with the numbers
of what is left, or nothing. -/
theorem sent_of_numbered {tables : Warehouse.Catalog} {client : Handler Warehouse.interface σ}
    {asked : σ → List Query} {kept : Batch} {acted after : σ} (asks : Warehouse.Asks client asked)
    (numbered : ∀ event ∈ kept.events, event.seq.isSome = true)
    (acting : Reaches (tables.served client) Spares s acted)
    (telling : Reaches (tables.served client) Spares
      (tables.served client (.acknowledge kept) acted).2 after) :
    ∃ seqs, kept.events.map (·.seq) = seqs.map some ∧
      Warehouse.updates (asked after) = Warehouse.updates (asked s) ++
        if seqs = [] then [] else
          [⟨"UPDATE " ++ tables.changes ++ " SET acknowledged_at = CURRENT_TIMESTAMP() " ++
              "WHERE acknowledged_at IS NULL AND seq IN UNNEST(@seqs)",
            [⟨"seqs", "ARRAY<INT64>", .list (seqs.map .int)⟩]⟩] := by
  have listed : kept.events.map (·.seq) = (kept.events.filterMap (·.seq)).map some := by
    rw [List.map_filterMap, ← List.filterMap_eq_map]
    refine List.filterMap_congr fun event member => ?_
    obtain ⟨seq, own⟩ := Option.isSome_iff_exists.mp (numbered event member)
    simp [own]
  refine ⟨_, listed, ?_⟩
  rw [updates_of_reaches asks telling, ← updates_of_reaches asks acting]
  exact Warehouse.updates_acknowledge asks tables.changes listed acted

theorem obliging_trial : Obliging Memory.Trial.handle :=
  fun c _ => by cases c <;> exact ⟨_, rfl⟩

theorem eq_ok_of_isOk {found : Except Failure Unit} (ok : found.isOk = true) : found = .ok () := by
  cases found with
  | ok _ => rfl
  | error _ => cases ok

/-- Two rows are written, an event of the first is delivered again, without a number, and
the first row cannot be read when its turn comes. -/
def outOfReach : Memory.Trial where
  base := Memory.history (.text "results") (.start .earliest true)
    [(.upsert sample, []), (.upsert otherSample, []),
      (.publish ⟨.insert, "a", none, .null⟩, [])]
  fate := [none, some ⟨.store "out of reach", false⟩]

theorem outOfReach_carriedOut :
    let batch := outOfReach.base.tables.feed.drain none
    let carried := carriedOut Memory.Trial.handle ⟨.text "results", none⟩ batch outOfReach
    batch.isEmpty = false ∧
      ((ChangeEvent.inOrder batch.events).map (·.checkId)).eraseDups = ["a", "b"] ∧
      carried.1.map (!·.isOk) = [true, false] ∧
      (∀ found ∈ carried.1, interrupted found = false) ∧
      (Memory.Trial.handle (.acknowledge (remainder batch carried.1)) carried.2).1.isOk = true := by
  decide +kernel

theorem outOfReach_undisturbed :
    Undisturbed Memory.Trial.handle ⟨.text "results", none⟩ outOfReach
      (outOfReach.base.tables.feed.drain none) := by
  obtain ⟨filled, _, _, calm, accepted⟩ := outOfReach_carriedOut
  exact {
    obliging := obliging_trial
    entered := rfl
    read := rfl
    some_events := by simpa [Batch.isEmpty] using filled
    tokens := Memory.Feed.positionFault_batchOf _ _
    calm
    accepted := eq_ok_of_isOk accepted }

/-- The warehouse tells of two deleted rows, and fails when it is asked for the job of the
first. -/
def twoDeletes : Batch where
  events := [⟨.delete, "a", some 1, .null⟩, ⟨.delete, "b", some 2, .null⟩]
  highWatermark := some 2
  positions := [some 1, some 2]

def deleteRow (checkId : String) (seq : Int) : Row :=
  [(.text "seq", .int seq), (.text "action", .text "DELETE"), (.text "check_id", .text checkId),
    (.text "changed_at", .null)]

def faltering : Warehouse.Script :=
  .start [.ok ⟨[deleteRow "a" 1, deleteRow "b" 2], none, none⟩, .error (.service "down")]

def fourTables : Warehouse.Catalog :=
  ⟨"definitions", "changes", "jobs", "results"⟩

theorem ofRow_deleteRow (checkId : String) (seq : Int) :
    ChangeEvent.ofRow (deleteRow checkId seq) = .ok ⟨.delete, checkId, some seq, .null⟩ := by
  have upper : Text.upperText "DELETE" = "DELETE" := by decide +kernel
  have named : ChangeAction.ofName "DELETE" = .ok .delete := rfl
  have action_told : (deleteRow checkId seq).require "action" = .ok (.text "DELETE") := by
    simp [deleteRow, Row.require, Row.find?, Row.named]
  have id_told : (deleteRow checkId seq).require "check_id" = .ok (.text checkId) := by
    simp [deleteRow, Row.require, Row.find?, Row.named]
  have seq_told : (deleteRow checkId seq).get "seq" = .int seq := by
    simp [deleteRow, Row.get, Row.find?, Row.named]
  have time_told : (deleteRow checkId seq).get "changed_at" = .null := by
    simp [deleteRow, Row.get, Row.find?, Row.named]
  simp only [ChangeEvent.ofRow, action_told, id_told, seq_told, time_told, Value.written_text,
    Bind.bind, Except.bind, upper, named]
  rfl

theorem inOrder_twoDeletes : ChangeEvent.inOrder twoDeletes.events = twoDeletes.events :=
  ChangeEvent.inOrder_of_numbered (by simp [twoDeletes])

theorem faltering_carriedOut :
    let handle := fourTables.served Warehouse.Script.handle
    let carried := carriedOut handle ⟨.text "results", none⟩ twoDeletes faltering
    carried.1.map (!·.isOk) = [true, false] ∧
      (∀ found ∈ carried.1, interrupted found = false) ∧
      (handle (.acknowledge (remainder twoDeletes carried.1)) carried.2).1.isOk = true := by
  unfold remainder outcomesOf carriedOut ChangeEvent.collapse
  rw [inOrder_twoDeletes]
  decide +kernel

theorem faltering_undisturbed :
    Undisturbed (fourTables.served Warehouse.Script.handle) ⟨.text "results", none⟩ faltering
      twoDeletes := by
  have rows : [deleteRow "a" 1, deleteRow "b" 2].mapM ChangeEvent.ofRow =
      .ok twoDeletes.events := by
    simp only [List.mapM_cons, List.mapM_nil, ofRow_deleteRow]
    rfl
  obtain ⟨_, calm, accepted⟩ := faltering_carriedOut
  exact {
    obliging := fun c _ => by cases c <;> exact ⟨_, rfl⟩
    entered := rfl
    read := Warehouse.served_drain (Warehouse.run_drain rfl rows rfl)
    some_events := by simp [twoDeletes]
    tokens := Batch.positionFault_eq_none rfl (by simp [twoDeletes]) _
    calm
    accepted := eq_ok_of_isOk accepted }

theorem asks_script : Warehouse.Asks Warehouse.Script.handle (·.asked) :=
  ⟨fun _ _ => rfl, fun _ _ => rfl⟩

theorem failedIds_eq (outcomes : List Outcome) :
    failedIds outcomes =
      (((outcomes.map (·.checkId)).zip (outcomes.map (·.failed))).filter (·.2)).map (·.1) := by
  rw [List.zip_map', List.filter_map, List.map_map]
  rfl

end Sync

end CheckKeeper
