import Mathlib.Data.List.Nodup
import Mathlib.Logic.Relation
import CheckKeeper.Memory.Feed

namespace CheckKeeper.Memory.Feed

open Calendar

/-! What publishing and acknowledging do to the events that are pending. -/

variable {feed : Feed} {event : ChangeEvent} {ids : List String} {limit : Option Int}
  {drained rest : List (Nat × ChangeEvent)} {checkId : String}

/-- Positions grow along the feed, and none that is yet to come is acknowledged. -/
structure WellFormed (feed : Feed) : Prop where
  below : ∀ entry ∈ feed.entries, entry.1 < feed.nextPosition
  ordered : feed.entries.Pairwise fun a b => a.1 < b.1
  past : ∀ position ∈ feed.acknowledged, position < feed.nextPosition

theorem wellFormed_empty : Feed.empty.WellFormed where
  below := by simp [empty]
  ordered := by simp [empty]
  past := by simp [empty]

theorem WellFormed.publish (formed : feed.WellFormed) (event : ChangeEvent) :
    (feed.publish event).WellFormed where
  below := by
    intro entry member
    simp only [Feed.publish] at member ⊢
    rcases List.mem_append.mp member with earlier | last
    · exact Nat.lt_succ_of_lt (formed.below entry earlier)
    · rw [List.mem_singleton] at last
      subst entry
      exact Nat.lt_succ_self _
  ordered := by
    simp only [Feed.publish]
    rw [List.pairwise_append]
    refine ⟨formed.ordered, List.pairwise_singleton _ _, ?_⟩
    intro a earlier b last
    rw [List.mem_singleton] at last
    subst b
    exact formed.below a earlier
  past := by
    intro position member
    have before := formed.past position member
    simp only [Feed.publish]
    omega

theorem pending_publish (formed : feed.WellFormed) (event : ChangeEvent) :
    (feed.publish event).pending = feed.pending ++ [(feed.nextPosition, event)] := by
  have fresh : feed.isAcknowledged feed.nextPosition = false := by
    by_contra acknowledged
    have member : (feed.nextPosition : Int) ∈ feed.acknowledged := by
      simpa [isAcknowledged] using acknowledged
    have before := formed.past _ member
    omega
  have same : ∀ position, (feed.publish event).isAcknowledged position =
      feed.isAcknowledged position := fun _ => rfl
  unfold pending
  simp only [same]
  simp [publish, fresh]

theorem pending_sublist (feed : Feed) : feed.pending.Sublist feed.entries :=
  List.filter_sublist

theorem WellFormed.pending_ordered (formed : feed.WellFormed) :
    feed.pending.Pairwise fun a b => a.1 < b.1 :=
  formed.ordered.sublist feed.pending_sublist

theorem WellFormed.pending_below (formed : feed.WellFormed) :
    ∀ entry ∈ feed.pending, entry.1 < feed.nextPosition :=
  fun entry member => formed.below entry (feed.pending_sublist.mem member)

/-- What a drain reads: a first part of what is pending. -/
def drainable (feed : Feed) (limit : Option Int) : List (Nat × ChangeEvent) :=
  limit.elim feed.pending fun most => firstUpTo most feed.pending

theorem drain_eq (feed : Feed) (limit : Option Int) :
    feed.drain limit = batchOf (feed.drainable limit) :=
  rfl

theorem firstUpTo_prefix {α : Type} (most : Int) (items : List α) :
    firstUpTo most items <+: items := by
  cases most with
  | ofNat most => exact List.take_prefix most items
  | negSucc less => exact List.take_prefix _ items

theorem drainable_prefix (feed : Feed) (limit : Option Int) :
    feed.drainable limit <+: feed.pending := by
  cases limit with
  | none => exact List.prefix_refl _
  | some most => exact firstUpTo_prefix most feed.pending

theorem drainable_ne_nil (waiting : feed.pending ≠ [])
    (positive : ∀ most, limit = some most → 1 ≤ most) : feed.drainable limit ≠ [] := by
  cases limit with
  | none => exact waiting
  | some most =>
      have one_up := positive most rfl
      cases most with
      | negSucc less => omega
      | ofNat most =>
          obtain ⟨head, later, whole⟩ := List.exists_cons_of_ne_nil waiting
          cases most with
          | zero => simp at one_up
          | succ most =>
              change feed.pending.take (most + 1) ≠ []
              simp [whole]

@[simp] theorem batchOf_events (entries : List (Nat × ChangeEvent)) :
    (batchOf entries).events = entries.map (·.2) :=
  rfl

theorem positions_excluding (entries : List (Nat × ChangeEvent)) (ids : List String) :
    ((batchOf entries).excluding ids).positions.filterMap id =
      (entries.filter fun entry => !ids.contains entry.2.checkId).map fun entry => (entry.1 : Int) := by
  unfold Batch.excluding
  by_cases none_left : ids.isEmpty = true
  · have empty : ids = [] := List.isEmpty_iff.mp none_left
    subst empty
    simp [batchOf, List.filterMap_map]
  · rw [if_neg none_left]
    simp only [batchOf, Batch.keepBeside]
    induction entries with
    | nil => rfl
    | cons entry later ih =>
        simp only [List.map_cons, List.zip_cons_cons, List.filter_cons]
        by_cases left_out : entry.2.checkId ∈ ids
        · simpa [left_out] using ih
        · simpa [left_out] using ih

theorem isAcknowledged_acknowledge (feed : Feed) (batch : Batch) (position : Nat) :
    (feed.acknowledge batch).isAcknowledged position =
      (feed.isAcknowledged position || (batch.positions.filterMap id).contains (position : Int)) := by
  simp [isAcknowledged, acknowledge]

theorem pending_acknowledge (feed : Feed) (batch : Batch) :
    (feed.acknowledge batch).pending =
      feed.pending.filter fun entry => !(batch.positions.filterMap id).contains (entry.1 : Int) := by
  unfold pending
  simp only [isAcknowledged_acknowledge, List.filter_filter]
  simp only [acknowledge]
  apply List.filter_congr
  intro entry _
  cases feed.isAcknowledged entry.1 <;> simp

theorem contains_positions_excluding (entries : List (Nat × ChangeEvent)) (ids : List String)
    (position : Nat) :
    (((batchOf entries).excluding ids).positions.filterMap id).contains (position : Int) = true ↔
      ∃ entry ∈ entries, entry.2.checkId ∉ ids ∧ entry.1 = position := by
  rw [positions_excluding, List.contains_iff_mem, List.mem_map]
  constructor
  · rintro ⟨entry, member, same⟩
    obtain ⟨inside, kept⟩ := List.mem_filter.mp member
    exact ⟨entry, inside, by simpa using kept, by omega⟩
  · rintro ⟨entry, inside, kept, rfl⟩
    exact ⟨entry, List.mem_filter.mpr ⟨inside, by simpa using kept⟩, rfl⟩

theorem eq_of_position {entries : List (Nat × ChangeEvent)} {a b : Nat × ChangeEvent}
    (ordered : entries.Pairwise fun a b => a.1 < b.1) (first : a ∈ entries) (second : b ∈ entries)
    (same : a.1 = b.1) : a = b := by
  have distinct : (entries.map (·.1)).Nodup := by
    rw [List.nodup_iff_pairwise_ne, List.pairwise_map]
    exact ordered.imp Nat.ne_of_lt
  exact List.inj_on_of_nodup_map distinct first second same

/-- Acknowledging what was drained, without some ids, leaves the events of those ids
and all that was not drained. -/
theorem pending_acknowledge_excluding (formed : feed.WellFormed)
    (split : feed.pending = drained ++ rest) (ids : List String) :
    (feed.acknowledge ((batchOf drained).excluding ids)).pending =
      (drained.filter fun entry => ids.contains entry.2.checkId) ++ rest := by
  have ordered := formed.pending_ordered
  rw [split, List.pairwise_append] at ordered
  obtain ⟨drained_ordered, _, before⟩ := ordered
  rw [pending_acknowledge, split, List.filter_append]
  congr 1
  · apply List.filter_congr
    intro entry member
    have committed := contains_positions_excluding drained ids entry.1
    cases kept : ids.contains entry.2.checkId with
    | false =>
        rw [committed.mpr ⟨entry, member, by simpa using kept, rfl⟩]
        rfl
    | true =>
        rw [Bool.not_eq_true', Bool.eq_false_iff]
        intro found
        obtain ⟨other, inside, left_in, same⟩ := committed.mp found
        rw [eq_of_position drained_ordered inside member same] at left_in
        exact left_in (by simpa using kept)
  · rw [List.filter_eq_self]
    intro entry later
    rw [Bool.not_eq_true', Bool.eq_false_iff]
    intro found
    obtain ⟨other, inside, _, same⟩ := (contains_positions_excluding drained ids entry.1).mp found
    have apart := before other inside entry later
    omega

theorem WellFormed.acknowledge_excluding (formed : feed.WellFormed)
    (below : ∀ entry ∈ drained, entry.1 < feed.nextPosition) (ids : List String) :
    (feed.acknowledge ((batchOf drained).excluding ids)).WellFormed where
  below := formed.below
  ordered := formed.ordered
  past := by
    intro position member
    rcases List.mem_append.mp member with earlier | committed
    · exact formed.past position earlier
    · rw [positions_excluding] at committed
      obtain ⟨entry, inside, rfl⟩ := List.mem_map.mp committed
      have bound := below entry (List.mem_filter.mp inside).1
      simp only [acknowledge]
      omega

/-- A feed to which events are added, one after another. -/
def Grows : Feed → Feed → Prop :=
  Relation.ReflTransGen fun feed grown => ∃ event, grown = feed.publish event

/-- What was added to a feed comes last, also among what is pending. -/
structure Added (feed grown : Feed) (news : List (Nat × ChangeEvent)) : Prop where
  formed : grown.WellFormed
  entries : grown.entries = feed.entries ++ news
  pending : grown.pending = feed.pending ++ news
  next : feed.nextPosition ≤ grown.nextPosition

theorem Grows.added {grown : Feed} (grows : Grows feed grown) (formed : feed.WellFormed) :
    ∃ news, Added feed grown news := by
  induction grows with
  | refl => exact ⟨[], formed, by simp, by simp, Nat.le_refl _⟩
  | @tail middle _ _ last ih =>
      obtain ⟨news, formed', entries, pending, next⟩ := ih
      obtain ⟨event, rfl⟩ := last
      refine ⟨news ++ [(middle.nextPosition, event)], formed'.publish event, ?_, ?_, Nat.le_succ_of_le next⟩
      · simp only [publish, entries, List.append_assoc]
      · rw [pending_publish formed', pending, List.append_assoc]

end CheckKeeper.Memory.Feed
