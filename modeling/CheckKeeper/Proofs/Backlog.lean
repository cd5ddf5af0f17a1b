import Mathlib.Order.Bounds.Basic
import Mathlib.Data.List.Nodup
import Mathlib.Data.List.Perm.Subperm
import CheckKeeper.Memory.Tables
import CheckKeeper.Proofs.Feed

namespace CheckKeeper.Memory

open Calendar

/-! What a feed holds back, whatever is read from it and acknowledged.

Readers drain the feed when they like, and acknowledge parts of what they have read: late, more
than once, in any order, and while further events arrive.  What is pending are always the events
at the positions that nobody has acknowledged.
-/

/-- What is done to a feed.  Batches are acknowledged that were drained before, each named by its
place among them; the events of some ids may be left out, in one step or in several. -/
inductive FeedDeed where
  | publish (event : ChangeEvent)
  | record (now : Moment) (action : ChangeAction) (checkId : String)
  | drain (limit : Option Nat)
  | acknowledge (drained : Nat) (leaving : List (List String))

/-- A feed, with what has been done to it: all events that it was given, those of them that it
recorded itself, and the batches that were drained and acknowledged. -/
structure FeedLedger where
  state : State
  published : List ChangeEvent
  recorded : List ChangeEvent
  drained : List Batch
  acknowledged : List Batch

namespace FeedLedger

def start (clock : Moment) (captures : Bool) : FeedLedger :=
  ⟨.start clock captures, [], [], [], []⟩

def feed (ledger : FeedLedger) : Feed :=
  ledger.state.tables.feed

def withFeed (ledger : FeedLedger) (feed : Feed) : FeedLedger :=
  { ledger with state := ledger.state.withTables { ledger.state.tables with feed } }

/-- Whether a position is one of an acknowledged batch. -/
def acknowledges (ledger : FeedLedger) (position : Nat) : Bool :=
  ledger.acknowledged.any fun batch => batch.positions.contains (some (position : Int))

end FeedLedger

namespace FeedDeed

def carryOut (ledger : FeedLedger) : FeedDeed → FeedLedger
  | .publish event =>
      { ledger.withFeed (ledger.feed.publish event) with published := ledger.published ++ [event] }
  | .record now action checkId =>
      let event := ledger.feed.captured now action checkId
      { ledger.withFeed (ledger.feed.record now action checkId) with
        published := ledger.published ++ [event]
        recorded := ledger.recorded ++ [event] }
  | .drain limit =>
      match handle (.drain (limit.map Int.ofNat)) ledger.state with
      | (.ok (some batch), state) => { ledger with state, drained := ledger.drained ++ [batch] }
      | (_, state) => { ledger with state }
  | .acknowledge drained leaving =>
      match ledger.drained[drained]? with
      | none => ledger
      | some batch =>
          let part := leaving.foldl Batch.excluding batch
          { ledger with
            state := (handle (.acknowledge part) ledger.state).2
            acknowledged := ledger.acknowledged ++ [part] }

end FeedDeed

def FeedLedger.after (ledger : FeedLedger) (deeds : List FeedDeed) : FeedLedger :=
  deeds.foldl FeedDeed.carryOut ledger

/-- Events with the positions that they get from a feed which has had none before. -/
def numbered (events : List ChangeEvent) : List (Nat × ChangeEvent) :=
  (List.range' 1 events.length).zip events

/-- A batch that stands for some entries of a feed: their events, and beside each its position;
the positions rise up to the last, which is the high-water mark. -/
structure Reads (entries : List (Nat × ChangeEvent)) (batch : Batch) : Prop where
  events : batch.events = entries.map (·.2)
  positions : batch.positions = entries.map fun entry => some (entry.1 : Int)
  rising : (entries.map (·.1)).Pairwise (· < ·)
  highWatermark : batch.highWatermark = batch.positions.getLast?.join

variable {feed : Feed} {ledger : FeedLedger} {deed : FeedDeed} {deeds : List FeedDeed}
  {batch : Batch} {event : ChangeEvent} {position : Nat}

theorem numbered_append (events : List ChangeEvent) (event : ChangeEvent) :
    numbered (events ++ [event]) = numbered events ++ [(events.length + 1, event)] := by
  have same : (List.range' 1 events.length).length = events.length := List.length_range'
  unfold numbered
  rw [List.length_append, List.length_singleton, List.range'_1_concat, List.zip_append same]
  simp [Nat.add_comm]

theorem map_numbered (events : List ChangeEvent) :
    (numbered events).map (·.1) = List.range' 1 events.length := by
  have same : (List.range' 1 events.length).length = events.length := List.length_range'
  exact List.map_fst_zip same.le

theorem position_of_numbered {events : List ChangeEvent} {entry : Nat × ChangeEvent}
    (member : entry ∈ numbered events) : 1 ≤ entry.1 ∧ entry.1 ≤ events.length := by
  have place : entry.1 ∈ List.range' 1 events.length := by
    rw [← map_numbered]
    exact List.mem_map_of_mem member
  rw [List.mem_range'_1] at place
  omega

namespace Feed

/-- The search for the acknowledged position stops before the first gap, if it has the steps to
get there. -/
theorem acknowledgedFrom_spec (feed : Feed) (steps reached : Nat) :
    let last := feed.acknowledgedFrom steps reached
    reached ≤ last ∧
      (∀ position, reached < position → position ≤ last → feed.isAcknowledged position = true) ∧
      (last < reached + steps → feed.isAcknowledged (last + 1) = false) := by
  induction steps generalizing reached with
  | zero =>
      simp only [acknowledgedFrom]
      exact ⟨Nat.le_refl _, by omega, by omega⟩
  | succ steps ih =>
      simp only [acknowledgedFrom]
      by_cases next : feed.isAcknowledged (reached + 1) = true
      · rw [if_pos next]
        obtain ⟨above, all, stops⟩ := ih (reached + 1)
        refine ⟨by omega, ?_, fun short => stops (by omega)⟩
        intro position lower upper
        by_cases first : position = reached + 1
        · rw [first]
          exact next
        · exact all position (by omega) upper
      · rw [if_neg next]
        exact ⟨Nat.le_refl _, by omega, fun _ => by simpa using next⟩

/-- There are no more positions in a row from the first on than have been acknowledged. -/
theorem le_length_of_acknowledged {last : Nat}
    (all : ∀ position, 1 ≤ position → position ≤ last → feed.isAcknowledged position = true) :
    last ≤ feed.acknowledged.length := by
  have distinct : ((List.range' 1 last).map (Nat.cast : Nat → Int)).Nodup :=
    List.Nodup.map (fun _ _ same => Int.natCast_inj.mp same) List.nodup_range'
  have inside : (List.range' 1 last).map (Nat.cast : Nat → Int) ⊆ feed.acknowledged := by
    intro position member
    obtain ⟨place, within, rfl⟩ := List.mem_map.mp member
    rw [List.mem_range'_1] at within
    simpa [isAcknowledged] using all place within.1 (by omega)
  simpa using (distinct.subperm inside).length_le

/-- The acknowledged position is the last one up to which all are acknowledged. -/
theorem acknowledgedPosition_greatest (feed : Feed) :
    IsGreatest
      {last | ∀ position, 1 ≤ position → position ≤ last → feed.isAcknowledged position = true}
      feed.acknowledgedPosition := by
  obtain ⟨_, all, stops⟩ := feed.acknowledgedFrom_spec feed.acknowledged.length 0
  constructor
  · intro position lower upper
    exact all position (by omega) upper
  · intro last acknowledged
    by_contra beyond
    have short := le_length_of_acknowledged acknowledged
    have further : feed.acknowledgedPosition < last := by omega
    have gap := stops (by unfold acknowledgedPosition at further; omega)
    have filled := acknowledged (feed.acknowledgedPosition + 1) (by omega) (by omega)
    rw [acknowledgedPosition] at filled
    rw [gap] at filled
    cases filled

end Feed

/-- The positions of a batch are among the first so many. -/
def WithinFirst (count : Nat) (batch : Batch) : Prop :=
  ∀ position : Int, some position ∈ batch.positions → 1 ≤ position ∧ position ≤ count

theorem WithinFirst.mono {count more : Nat} (within : WithinFirst count batch)
    (le : count ≤ more) : WithinFirst more batch := by
  intro position member
  have bounds := within position member
  omega

theorem WithinFirst.excluding {count : Nat} (within : WithinFirst count batch)
    (ids : List String) : WithinFirst count (batch.excluding ids) := by
  intro position member
  unfold Batch.excluding at member
  split at member
  · exact within position member
  · obtain ⟨pair, kept, same⟩ := List.mem_map.mp member
    have inside := (List.of_mem_zip (List.mem_of_mem_filter kept)).2
    rw [same] at inside
    exact within position inside

theorem WithinFirst.foldl_excluding {count : Nat} (within : WithinFirst count batch)
    (leaving : List (List String)) : WithinFirst count (leaving.foldl Batch.excluding batch) := by
  induction leaving generalizing batch with
  | nil => exact within
  | cons ids later ih => exact ih (within.excluding ids)

namespace FeedLedger

/-- What holds of a ledger after all that may be done to its feed. -/
structure Kept (ledger : FeedLedger) : Prop where
  entries : ledger.feed.entries = numbered ledger.published
  next : ledger.feed.nextPosition = ledger.published.length + 1
  acknowledged : ∀ position, ledger.feed.isAcknowledged position = ledger.acknowledges position
  drained : ∀ batch ∈ ledger.drained, WithinFirst ledger.published.length batch
  settled : ∀ batch ∈ ledger.acknowledged, WithinFirst ledger.published.length batch
  recorded : ∃ seqs : List Int, ledger.recorded.map (·.seq) = seqs.map some ∧
    seqs.Pairwise (· < ·) ∧ ∀ seq ∈ seqs, seq ≤ ledger.published.length

theorem kept_start (clock : Moment) (captures : Bool) : (start clock captures).Kept where
  entries := rfl
  next := rfl
  acknowledged _ := rfl
  drained := by simp [start]
  settled := by simp [start]
  recorded := ⟨[], rfl, .nil, by simp⟩

theorem Kept.pending (kept : ledger.Kept) :
    ledger.feed.pending =
      (numbered ledger.published).filter fun entry => !ledger.acknowledges entry.1 := by
  unfold Feed.pending
  rw [kept.entries]
  simp only [kept.acknowledged]

theorem Kept.pending_rising (kept : ledger.Kept) :
    (ledger.feed.pending.map (·.1)).Pairwise (· < ·) := by
  have all : ((numbered ledger.published).map (·.1)).Pairwise (· < ·) := by
    rw [map_numbered]
    exact List.pairwise_lt_range'
  rw [kept.pending]
  exact all.sublist (List.filter_sublist.map _)

/-- A drain reads the first of what is pending, as many as its limit lets it. -/
theorem Kept.reads (kept : ledger.Kept) (limit : Option Nat) :
    Reads (limit.elim ledger.feed.pending ledger.feed.pending.take)
      (ledger.feed.drain (limit.map Int.ofNat)) := by
  have first : limit.elim ledger.feed.pending ledger.feed.pending.take <+:
      ledger.feed.pending := by
    cases limit with
    | none => exact List.prefix_refl _
    | some most => exact List.take_prefix most _
  have read : ledger.feed.drain (limit.map Int.ofNat) =
      Feed.batchOf (limit.elim ledger.feed.pending ledger.feed.pending.take) := by
    cases limit <;> rfl
  rw [read]
  refine ⟨rfl, rfl, kept.pending_rising.sublist (first.sublist.map _), ?_⟩
  simp only [Feed.batchOf, List.getLast?_map]
  cases (limit.elim ledger.feed.pending ledger.feed.pending.take).getLast? <;> rfl

theorem Kept.drain_within (kept : ledger.Kept) (limit : Option Int) :
    WithinFirst ledger.published.length (ledger.feed.drain limit) := by
  intro position member
  obtain ⟨entry, inside, same⟩ := List.mem_map.mp member
  have waiting := (Feed.drainable_prefix ledger.feed limit).mem inside
  have published := ledger.feed.pending_sublist.mem waiting
  rw [kept.entries] at published
  have place := position_of_numbered published
  have equal := Option.some.inj same
  omega

/-- Another event is given to the feed, at the next position. -/
theorem Kept.given (kept : ledger.Kept) (event : ChangeEvent) :
    { ledger.withFeed (ledger.feed.publish event) with
      published := ledger.published ++ [event] }.Kept where
  entries := by
    change ledger.feed.entries ++ [(ledger.feed.nextPosition, event)] = _
    rw [kept.entries, kept.next, numbered_append]
  next := by
    change ledger.feed.nextPosition + 1 = _
    rw [kept.next, List.length_append, List.length_singleton]
  acknowledged := kept.acknowledged
  drained batch member := (kept.drained batch member).mono (by simp)
  settled batch member := (kept.settled batch member).mono (by simp)
  recorded := by
    obtain ⟨seqs, listed, rising, below⟩ := kept.recorded
    refine ⟨seqs, listed, rising, fun seq member => ?_⟩
    have bound := below seq member
    rw [List.length_append, List.length_singleton]
    omega

theorem Kept.record (kept : ledger.Kept) (now : Moment) (action : ChangeAction)
    (checkId : String) : ((FeedDeed.record now action checkId).carryOut ledger).Kept := by
  have given := kept.given (ledger.feed.captured now action checkId)
  obtain ⟨seqs, listed, rising, below⟩ := kept.recorded
  refine { given with recorded := ⟨seqs ++ [(ledger.feed.nextPosition : Int)], ?_, ?_, ?_⟩ }
  · change (ledger.recorded ++ [_]).map ChangeEvent.seq = _
    rw [List.map_append, listed, List.map_append]
    rfl
  · rw [List.pairwise_append]
    refine ⟨rising, List.pairwise_singleton _ _, ?_⟩
    intro earlier member last same
    have bound := below earlier member
    rw [List.mem_singleton.mp same, kept.next]
    omega
  · intro seq member
    change seq ≤ ((ledger.published ++ [_]).length : Int)
    rw [List.length_append, List.length_singleton]
    rcases List.mem_append.mp member with earlier | last
    · have bound := below seq earlier
      omega
    · rw [List.mem_singleton.mp last, kept.next]

theorem Kept.drain (kept : ledger.Kept) (limit : Option Nat) :
    ((FeedDeed.drain limit).carryOut ledger).Kept := by
  refine { kept with drained := ?_ }
  intro batch member
  rcases List.mem_append.mp member with earlier | last
  · exact kept.drained batch earlier
  · rw [List.mem_singleton.mp last]
    exact kept.drain_within _

theorem Kept.acknowledge (kept : ledger.Kept) (drained : Nat) (leaving : List (List String)) :
    ((FeedDeed.acknowledge drained leaving).carryOut ledger).Kept := by
  cases found : ledger.drained[drained]? with
  | none =>
      simp only [FeedDeed.carryOut, found]
      exact kept
  | some batch =>
      simp only [FeedDeed.carryOut, found]
      have part := (kept.drained batch (List.mem_of_getElem? found)).foldl_excluding leaving
      refine { kept with acknowledged := ?_, settled := ?_ }
      · intro position
        change (ledger.feed.acknowledge _).isAcknowledged position = _
        rw [Feed.isAcknowledged_acknowledge, kept.acknowledged]
        simp [acknowledges]
      · intro other member
        rcases List.mem_append.mp member with earlier | last
        · exact kept.settled other earlier
        · rw [List.mem_singleton.mp last]
          exact part

theorem Kept.carryOut (kept : ledger.Kept) (deed : FeedDeed) : (deed.carryOut ledger).Kept := by
  cases deed with
  | publish event => exact kept.given event
  | record now action checkId => exact kept.record now action checkId
  | drain limit => exact kept.drain limit
  | acknowledge drained leaving => exact kept.acknowledge drained leaving

theorem Kept.after (kept : ledger.Kept) (deeds : List FeedDeed) : (ledger.after deeds).Kept := by
  induction deeds generalizing ledger with
  | nil => exact kept
  | cons deed later ih => exact ih (kept.carryOut deed)

theorem acknowledges_carryOut (deed : FeedDeed)
    (acknowledged : ledger.acknowledges position = true) :
    (deed.carryOut ledger).acknowledges position = true := by
  cases deed with
  | acknowledge drained leaving =>
      simp only [FeedDeed.carryOut]
      split
      · exact acknowledged
      · simp only [acknowledges, List.any_append, Bool.or_eq_true]
        exact Or.inl acknowledged
  | _ => exact acknowledged

theorem acknowledges_after (deeds : List FeedDeed)
    (acknowledged : ledger.acknowledges position = true) :
    (ledger.after deeds).acknowledges position = true := by
  induction deeds generalizing ledger with
  | nil => exact acknowledged
  | cons deed later ih => exact ih (acknowledges_carryOut deed acknowledged)

theorem Kept.acknowledgedPosition (kept : ledger.Kept) :
    IsGreatest
      {last | ∀ position, 1 ≤ position → position ≤ last → ledger.acknowledges position = true}
      ledger.feed.acknowledgedPosition := by
  simp only [← kept.acknowledged]
  exact ledger.feed.acknowledgedPosition_greatest

end FeedLedger

/-- A feed neither loses an event nor gives one back: pending are, in the order of their
publication, the events at the positions that are in no acknowledged batch. -/
theorem backlog_after (clock : Moment) (captures : Bool) (deeds more : List FeedDeed) :
    let ledger := (FeedLedger.start clock captures).after deeds
    let feed := ledger.feed
    (feed.pending =
        (numbered ledger.published).filter (fun entry => !ledger.acknowledges entry.1) ∧
      feed.nextPosition = ledger.published.length + 1 ∧
      ∀ position, ledger.acknowledges position = true → position < feed.nextPosition) ∧
    (∀ limit : Option Nat, ∃ batch,
      handle (.drain (limit.map Int.ofNat)) ledger.state = (.ok (some batch), ledger.state) ∧
        Reads (limit.elim feed.pending feed.pending.take) batch) ∧
    (∃ waiting, handle .hasPending ledger.state = (.ok (some waiting), ledger.state) ∧
      (waiting = true ↔ feed.pending ≠ [])) ∧
    (∃ seqs : List Int, ledger.recorded.map (·.seq) = seqs.map some ∧ seqs.Pairwise (· < ·)) ∧
    IsGreatest
      {last | ∀ position, 1 ≤ position → position ≤ last → ledger.acknowledges position = true}
      feed.acknowledgedPosition ∧
    feed.acknowledgedPosition ≤ (ledger.after more).feed.acknowledgedPosition := by
  intro ledger feed
  have kept : ledger.Kept := (FeedLedger.kept_start clock captures).after deeds
  obtain ⟨seqs, listed, rising, _⟩ := kept.recorded
  have greatest := kept.acknowledgedPosition
  refine ⟨⟨kept.pending, kept.next, ?_⟩, ?_, ?_, ⟨seqs, listed, rising⟩, greatest, ?_⟩
  · intro position acknowledged
    obtain ⟨batch, member, found⟩ := List.any_eq_true.mp acknowledged
    have bounds := kept.settled batch member position (by simpa using found)
    change position < ledger.feed.nextPosition
    rw [kept.next]
    omega
  · exact fun limit => ⟨_, rfl, kept.reads limit⟩
  · exact ⟨_, rfl, by simp [Feed.hasPending, feed, FeedLedger.feed]⟩
  · apply (kept.after more).acknowledgedPosition.2
    intro position lower upper
    exact FeedLedger.acknowledges_after more (greatest.1 position lower upper)

end CheckKeeper.Memory
