import Mathlib.Order.Bounds.Basic
import CheckKeeper.Proofs.Accounting

namespace CheckKeeper.Batch

/-! Parts of batches.

What is left of a batch without the events of some ids has the positions of the events that are
left, and a high-water mark of its own.  All that parts have in common with one another follows
from two things: which events stand in a part beside which positions, and that no two well-formed
batches agree in this.
-/

/-- The events of a batch, each with its position if the batch has positions. -/
def placed (batch : Batch) : List (ChangeEvent × Option Int) :=
  if batch.positions = [] then batch.events.map fun event => (event, none)
  else batch.events.zip batch.positions

/-- The numbers of which the high-water mark is the highest: the positions, or else the sequence
numbers that the events have. -/
def numbers (batch : Batch) : List Int :=
  if batch.positions = [] then batch.events.filterMap (·.seq) else batch.positions.filterMap id

/-- The greatest of some numbers, or nothing if there are none. -/
def IsHighest (mark : Option Int) (numbers : List Int) : Prop :=
  match mark with
  | none => numbers = []
  | some top => IsGreatest {number | number ∈ numbers} top

/-- A batch has no positions or one for each event, and its high-water mark is its highest
number. -/
structure WellFormed (batch : Batch) : Prop where
  paired : batch.positions = [] ∨ batch.positions.length = batch.events.length
  numbered : none ∉ batch.positions
  topped : IsHighest batch.highWatermark batch.numbers

variable {batch other : Batch} {first second : Option Int} {numbers : List Int}
  {ids left right both rest : List String}

theorem isHighest_highest (tokens : List (Option Int)) :
    IsHighest (highest tokens) (tokens.filterMap id) := by
  unfold highest
  cases found : (tokens.filterMap id).max? with
  | none => exact List.max?_eq_none_iff.mp found
  | some top => exact List.max?_eq_some_iff.mp found

theorem IsHighest.unique (one : IsHighest first numbers) (another : IsHighest second numbers) :
    first = second := by
  cases first with
  | none =>
      obtain rfl : numbers = [] := one
      cases second with
      | none => rfl
      | some top => exact absurd another.1 List.not_mem_nil
  | some top =>
      cases second with
      | none =>
          obtain rfl : numbers = [] := another
          exact absurd one.1 List.not_mem_nil
      | some other => exact congrArg some (IsGreatest.unique one another)

theorem WellFormed.events_of_placed (formed : batch.WellFormed) :
    batch.placed.map (·.1) = batch.events := by
  unfold placed
  split
  · rw [List.map_map]
    exact List.map_id _
  · rename_i given
    exact List.map_fst_zip (Nat.le_of_eq (formed.paired.resolve_left given).symm)

theorem WellFormed.positions_of_placed (formed : batch.WellFormed) :
    (batch.placed.map (·.2)).filter (·.isSome) = batch.positions := by
  unfold placed
  split
  · rename_i without
    rw [without, List.filter_eq_nil_iff]
    intro position member
    obtain ⟨pair, inside, rfl⟩ := List.mem_map.mp member
    obtain ⟨event, _, rfl⟩ := List.mem_map.mp inside
    exact Bool.false_ne_true
  · rename_i given
    rw [List.map_snd_zip (Nat.le_of_eq (formed.paired.resolve_left given)), List.filter_eq_self]
    intro position member
    rw [Option.isSome_iff_ne_none]
    rintro rfl
    exact formed.numbered member

/-- Well-formed batches are equal if the same events stand beside the same positions. -/
theorem WellFormed.ext (formed : batch.WellFormed) (otherFormed : other.WellFormed)
    (same : batch.placed = other.placed) : batch = other := by
  have events : batch.events = other.events := by
    rw [← formed.events_of_placed, same, otherFormed.events_of_placed]
  have positions : batch.positions = other.positions := by
    rw [← formed.positions_of_placed, same, otherFormed.positions_of_placed]
  have numbers : batch.numbers = other.numbers := by
    rw [Batch.numbers, events, positions, Batch.numbers]
  have mark : batch.highWatermark = other.highWatermark :=
    formed.topped.unique (numbers ▸ otherFormed.topped)
  cases batch
  cases other
  cases events
  cases positions
  cases mark
  rfl

theorem excluding_nil (batch : Batch) : batch.excluding [] = batch := rfl

theorem excluding_of_ne_nil (some_ids : ids ≠ []) : batch.excluding ids =
    { events := batch.events.filter fun event => !ids.contains event.checkId
      positions := keepBeside ids batch.events batch.positions
      highWatermark := highest (if (keepBeside ids batch.events batch.positions).isEmpty then
          (batch.events.filter fun event => !ids.contains event.checkId).map (·.seq)
        else keepBeside ids batch.events batch.positions) } := by
  rw [excluding, if_neg (by rwa [List.isEmpty_iff])]

theorem paired_excluding (paired : batch.positions.length = batch.events.length)
    (ids : List String) :
    (batch.excluding ids).positions.length = (batch.excluding ids).events.length := by
  by_cases all : ids = []
  · rw [all, excluding_nil]
    exact paired
  · rw [excluding_of_ne_nil all]
    exact length_keepBeside paired ids

theorem positions_excluding_nil (without : batch.positions = []) (ids : List String) :
    (batch.excluding ids).positions = [] := by
  by_cases all : ids = []
  · rw [all, excluding_nil]
    exact without
  · rw [excluding_of_ne_nil all]
    dsimp only
    rw [without, keepBeside, List.zip_nil_right]
    rfl

theorem WellFormed.excluding (formed : batch.WellFormed) (ids : List String) :
    (batch.excluding ids).WellFormed where
  paired := formed.paired.imp (positions_excluding_nil · ids) (paired_excluding · ids)
  numbered := by
    rcases formed.paired with without | paired
    · rw [positions_excluding_nil without]
      exact List.not_mem_nil
    · by_cases all : ids = []
      · rw [all, excluding_nil]
        exact formed.numbered
      · rw [excluding_of_ne_nil all]
        exact fun missing =>
          formed.numbered ((keepBeside_sublist (Nat.le_of_eq paired) ids).mem missing)
  topped := by
    by_cases all : ids = []
    · rw [all, excluding_nil]
      exact formed.topped
    rw [excluding_of_ne_nil all]
    simp only [Batch.numbers, List.isEmpty_iff]
    split
    · have seqs := isHighest_highest
        ((batch.events.filter fun event => !ids.contains event.checkId).map (·.seq))
      rwa [List.filterMap_map] at seqs
    · exact isHighest_highest _

/-- From a well-formed batch ids can be left out. -/
theorem WellFormed.excluding? (formed : batch.WellFormed) (ids : List String) :
    batch.excluding? ids = .ok (batch.excluding ids) := by
  have tokens : batch.positionFault ids = none := by
    rcases formed.paired with without | paired
    · simp [positionFault, without]
    · exact positionFault_eq_none paired (fun _ => formed.numbered) ids
  rw [Batch.excluding?, tokens]

theorem placed_of_paired (paired : batch.positions.length = batch.events.length) :
    batch.placed = batch.events.zip batch.positions := by
  unfold placed
  split
  · rename_i without
    rw [without] at paired
    rw [List.eq_nil_of_length_eq_zero paired.symm]
    rfl
  · rfl

/-- What is left of a batch are the events of other ids, beside their own positions. -/
theorem WellFormed.placed_excluding (formed : batch.WellFormed) (ids : List String) :
    (batch.excluding ids).placed =
      batch.placed.filter fun pair => !ids.contains pair.1.checkId := by
  rcases formed.paired with without | paired
  · rw [placed, if_pos (positions_excluding_nil without ids), placed, if_pos without,
      excluding_events, List.filter_map]
    rfl
  · rw [placed_of_paired (paired_excluding paired ids), placed_of_paired paired]
    exact zip_excluding (positionFault_eq_none paired (fun _ => formed.numbered) ids)

theorem WellFormed.mem_placed (formed : batch.WellFormed) {pair : ChangeEvent × Option Int}
    (member : pair ∈ batch.placed) : pair.1 ∈ batch.events := by
  rw [← formed.events_of_placed]
  exact List.mem_map_of_mem member

/-- To leave out some ids and then others is to leave out all of them. -/
theorem WellFormed.excluding_excluding (formed : batch.WellFormed)
    (union : ∀ id, id ∈ both ↔ id ∈ left ∨ id ∈ right) :
    (batch.excluding left).excluding right = batch.excluding both := by
  have part := formed.excluding left
  refine (part.excluding right).ext (formed.excluding both) ?_
  rw [part.placed_excluding, formed.placed_excluding, formed.placed_excluding, List.filter_filter]
  refine List.filter_congr fun pair _ => ?_
  rw [Bool.eq_iff_iff]
  simp [union, and_comm]

/-- What is left without some ids and what is left without all others is the whole batch. -/
theorem WellFormed.perm_excluding (formed : batch.WellFormed)
    (others : ∀ id, id ∈ rest ↔ id ∉ ids ∧ ∃ event ∈ batch.events, event.checkId = id) :
    ((batch.excluding ids).placed ++ (batch.excluding rest).placed).Perm batch.placed := by
  have remaining : (batch.excluding rest).placed =
      batch.placed.filter fun pair => !!ids.contains pair.1.checkId := by
    rw [formed.placed_excluding]
    refine List.filter_congr fun pair member => ?_
    have listed : ∃ event ∈ batch.events, event.checkId = pair.1.checkId :=
      ⟨pair.1, formed.mem_placed member, rfl⟩
    rw [Bool.eq_iff_iff]
    simp [others, listed]
  rw [formed.placed_excluding, remaining]
  exact List.filter_append_perm _ _

/-- Leaving ids out of a well-formed batch keeps just the other events, in their order and with
their positions, and gives a well-formed batch; leaving out two sets of ids, one after the other,
is leaving out both; and a batch is made up of what is left without some ids and what is left
without all others. -/
theorem excluding_divides (formed : batch.WellFormed)
    (union : ∀ id, id ∈ both ↔ id ∈ left ∨ id ∈ right)
    (others : ∀ id, id ∈ rest ↔ id ∉ left ∧ ∃ event ∈ batch.events, event.checkId = id) :
    ∃ part again remaining, batch.excluding? left = .ok part ∧
      batch.excluding? both = .ok again ∧ batch.excluding? rest = .ok remaining ∧
      part.events = batch.events.filter (fun event => event.checkId ∉ left) ∧
      part.placed = batch.placed.filter (fun pair => pair.1.checkId ∉ left) ∧
      part.WellFormed ∧
      part.excluding? right = .ok again ∧
      (part.placed ++ remaining.placed).Perm batch.placed := by
  refine ⟨batch.excluding left, batch.excluding both, batch.excluding rest, formed.excluding? left,
    formed.excluding? both, formed.excluding? rest, ?_, ?_, formed.excluding left, ?_,
    formed.perm_excluding others⟩
  · rw [excluding_events]
    simp
  · rw [formed.placed_excluding]
    simp
  · rw [(formed.excluding left).excluding?, formed.excluding_excluding union]

/-- Events of three ids, two of them of one id, as a feed may deliver them again. -/
def redelivered : Batch where
  events := [⟨.insert, "orders", some 4, .null⟩, ⟨.insert, "stock", some 2, .null⟩,
    ⟨.update, "orders", none, .null⟩, ⟨.delete, "prices", some 9, .null⟩]
  highWatermark := some 8
  positions := [some 3, some 5, some 8, some 6]

theorem redelivered_divides :
    redelivered.WellFormed ∧
    ∃ part again remaining, redelivered.excluding? ["orders"] = .ok part ∧
      redelivered.excluding? ["stock", "orders"] = .ok again ∧
      redelivered.excluding? ["prices", "stock"] = .ok remaining ∧
      part.events = redelivered.events.filter (fun event => event.checkId ∉ ["orders"]) ∧
      part.placed = redelivered.placed.filter (fun pair => pair.1.checkId ∉ ["orders"]) ∧
      part.WellFormed ∧
      part.excluding? ["stock"] = .ok again ∧
      (part.placed ++ remaining.placed).Perm redelivered.placed := by
  have formed : redelivered.WellFormed := {
    paired := .inr rfl
    numbered := by decide
    topped := ⟨by decide, (by decide : ∀ number ∈ redelivered.numbers, number ≤ 8)⟩ }
  refine ⟨formed, excluding_divides formed ?_ ?_⟩
  · simp [or_comm]
  · intro id
    simp only [redelivered, List.mem_cons, List.not_mem_nil, or_false]
    constructor
    · rintro (rfl | rfl) <;> simp
    · rintro ⟨other, event, rfl | rfl | rfl | rfl, rfl⟩ <;> simp at other ⊢

end CheckKeeper.Batch
