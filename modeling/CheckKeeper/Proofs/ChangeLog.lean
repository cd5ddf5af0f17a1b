import Mathlib.Data.Finset.Basic
import Mathlib.Data.Finset.Dedup
import CheckKeeper.Proofs.Tables

namespace CheckKeeper

/-! The changes of rows that are captured, as a log of the table.

Operators write and delete rows, each at a time of its own.  The events that the feed captures
meanwhile can be replayed: they say which ids have come and gone, and lead to just those that the
table holds.
-/

/-- The ids that are there after an event, if it can come then: an insertion of an id that is
absent, an update or a deletion of one that is present. -/
def ChangeEvent.replay? (present : Finset String) (event : ChangeEvent) : Option (Finset String) :=
  match event.action with
  | .insert =>
      if event.checkId ∈ present then none else some (insert event.checkId present)
  | .update => if event.checkId ∈ present then some present else none
  | .delete => if event.checkId ∈ present then some (present.erase event.checkId) else none

/-- Replays a log from where nothing is there. -/
def replay? (log : List ChangeEvent) : Option (Finset String) :=
  log.foldlM ChangeEvent.replay? ∅

namespace Memory

open Calendar

/-- What an operator does to the table of definitions. -/
inductive RowDeed where
  | upsert (d : Definition)
  | delete (checkId : String)

def State.withClock (s : State) (now : Moment) : State :=
  s.withTables { s.tables with clock := now }

namespace RowDeed

def checkId : RowDeed → String
  | .upsert d => d.checkId
  | .delete checkId => checkId

/-- Carries a deed out, and tells whether it was done: whether a definition was taken, or a row
was there to be deleted. -/
def carryOut (s : State) (now : Moment) : RowDeed → Bool × State
  | .upsert d =>
      let (answer, after) := handle (.putDefinition d) (s.withClock now)
      (answer.isOk, after)
  | .delete checkId =>
      let (answer, after) := handle (.deleteDefinition checkId) (s.withClock now)
      (match answer with
        | .ok (some deleted) => deleted
        | _ => false, after)

/-- Whether a deed can be done: a definition of the kind that its id is declared with, or of any
kind if the id is not declared; the deletion of an id that is. -/
def admitted (tables : Tables) : RowDeed → Bool
  | .upsert d => (tables.row? d.checkId).all fun old => (old.checkKind d).isOk
  | .delete checkId => (tables.row? checkId).isSome

def action (tables : Tables) : RowDeed → ChangeAction
  | .upsert d => if (tables.row? d.checkId).isSome then .update else .insert
  | .delete _ => .delete

end RowDeed

/-- The state after deeds, each done at its time. -/
def afterRows (s : State) (deeds : List (Moment × RowDeed)) : State :=
  deeds.foldl (fun s deed => (deed.2.carryOut s deed.1).2) s

namespace Tables

/-- The events that a feed was given, in their order. -/
def recorded (tables : Tables) : List ChangeEvent :=
  tables.feed.entries.map (·.2)

def ids (tables : Tables) : List String :=
  tables.rows.map (·.checkId)

/-- What a deed may come to: a row is inserted, updated or deleted, and the feed is told; or the
deed is refused and nothing changes. -/
inductive Change (before : Tables) : RowDeed → Bool → Tables → Prop
  | inserted (d : Definition) (absent : before.row? d.checkId = none) :
      Change before (.upsert d) true
        ((before.setRow (before.stamped none d)).capture .insert d.checkId)
  | updated (d old : Definition) (there : before.row? d.checkId = some old)
      (allowed : old.checkKind d = .ok ()) :
      Change before (.upsert d) true
        ((before.setRow (before.stamped (some old) d)).capture .update d.checkId)
  | refused (d old : Definition) (failure : Failure) (there : before.row? d.checkId = some old)
      (refuses : old.checkKind d = .error failure) : Change before (.upsert d) false before
  | deleted (checkId : String) (there : (before.row? checkId).isSome = true) :
      Change before (.delete checkId) true
        ((before.removeRow checkId).capture .delete checkId)
  | missed (checkId : String) (absent : before.row? checkId = none) :
      Change before (.delete checkId) false before

end Tables

variable {s : State} {now : Moment} {deed : RowDeed} {before after : Tables} {changed : Bool}
  {checkId : String} {d : Definition}

open Tables

theorem RowDeed.carryOut_change (s : State) (now : Moment) (deed : RowDeed) :
    Change (s.withClock now).tables deed (deed.carryOut s now).1
      (deed.carryOut s now).2.tables := by
  cases deed with
  | upsert d =>
      simp only [carryOut, handle, putRow]
      cases found : (s.withClock now).tables.row? d.checkId with
      | none => exact .inserted d found
      | some old =>
          cases checked : old.checkKind d with
          | error failure =>
              simp only [checked]
              exact .refused d old failure found checked
          | ok _ =>
              simp only [checked]
              exact .updated d old found checked
  | delete checkId =>
      simp only [carryOut, handle]
      by_cases there : ((s.withClock now).tables.row? checkId).isSome = true
      · rw [if_pos there]
        exact .deleted checkId there
      · rw [if_neg there]
        exact .missed checkId (by simpa using there)

namespace Tables

theorem recorded_capture (tables : Tables) (captures : tables.captures = true)
    (action : ChangeAction) (checkId : String) :
    (tables.capture action checkId).recorded =
      tables.recorded ++ [tables.feed.captured tables.clock action checkId] := by
  simp [capture, captures, recorded, Feed.record, Feed.publish]

@[simp] theorem captures_capture (tables : Tables) (action : ChangeAction) (checkId : String) :
    (tables.capture action checkId).captures = tables.captures := by
  unfold capture
  split <;> rfl

theorem mem_ids : checkId ∈ before.ids ↔ (before.row? checkId).isSome = true := by
  simp [ids, row?, List.find?_isSome]

theorem ids_setRow (tables : Tables) (d : Definition) :
    (tables.setRow d).ids =
      if d.checkId ∈ tables.ids then tables.ids else tables.ids ++ [d.checkId] :=
  Keyed.map_key_put

theorem ids_removeRow (tables : Tables) (checkId : String) :
    (tables.removeRow checkId).ids = tables.ids.filter (· != checkId) := by
  simp [ids, removeRow, List.filter_map, Function.comp_def]

@[simp] theorem ids_capture (tables : Tables) (action : ChangeAction) (checkId : String) :
    (tables.capture action checkId).ids = tables.ids := by
  simp [ids]

/-- The feed is told of each deed that is done, and of no other. -/
theorem Change.recorded (change : Change before deed changed after)
    (captures : before.captures = true) :
    after.recorded = before.recorded ++
      if changed then [before.feed.captured before.clock (deed.action before) deed.checkId]
      else [] := by
  cases change with
  | inserted d absent =>
      simp only [RowDeed.action, absent, Option.isSome_none]
      exact recorded_capture (before.setRow _) captures _ _
  | updated d old there allowed =>
      simp only [RowDeed.action, there, Option.isSome_some]
      exact recorded_capture (before.setRow _) captures _ _
  | refused => simp
  | deleted checkId there => exact recorded_capture (before.removeRow _) captures _ _
  | missed => simp

theorem Change.admitted (change : Change before deed changed after) :
    changed = deed.admitted before := by
  cases change with
  | inserted d absent => simp [RowDeed.admitted, absent]
  | updated d old there allowed =>
      simp [RowDeed.admitted, there, allowed, Except.isOk, Except.toBool]
  | refused d old failure there refuses =>
      simp [RowDeed.admitted, there, refuses, Except.isOk, Except.toBool]
  | deleted checkId there => simp [RowDeed.admitted, there]
  | missed checkId absent => simp [RowDeed.admitted, absent]

theorem Change.unchanged (change : Change before deed changed after) (refused : changed = false) :
    after = before := by
  cases change with
  | inserted | updated | deleted => cases refused
  | refused | missed => rfl

/-- A log that can be replayed, and leads to the ids that the table holds. -/
structure Logged (tables : Tables) : Prop where
  captures : tables.captures = true
  distinct : tables.ids.Nodup
  replayed : replay? tables.recorded = some tables.ids.toFinset

theorem logged_empty (clock : Moment) : (empty clock true).Logged :=
  ⟨rfl, List.nodup_nil, rfl⟩

theorem Logged.withClock (logged : before.Logged) (now : Moment) :
    { before with clock := now }.Logged :=
  ⟨logged.captures, logged.distinct, logged.replayed⟩

theorem replay?_append {log : List ChangeEvent} {present : Finset String}
    (replayed : replay? log = some present) (event : ChangeEvent) :
    replay? (log ++ [event]) = event.replay? present := by
  unfold replay? at replayed ⊢
  rw [List.foldlM_append, replayed]
  simp

theorem toFinset_concat (ids : List String) (checkId : String) :
    (ids ++ [checkId]).toFinset = insert checkId ids.toFinset := by
  ext other
  simp only [List.mem_toFinset, List.mem_append, List.mem_singleton, Finset.mem_insert]
  exact or_comm

theorem toFinset_filter_ne (ids : List String) (checkId : String) :
    (ids.filter (· != checkId)).toFinset = ids.toFinset.erase checkId := by
  ext other
  simp [and_comm]

/-- One deed keeps the log replayable. -/
theorem Logged.change (logged : before.Logged) (change : Change before deed changed after) :
    after.Logged := by
  have told := change.recorded logged.captures
  cases change with
  | inserted d absent =>
      have fresh : d.checkId ∉ before.ids := by simp [mem_ids, absent]
      have ids : (before.setRow (before.stamped none d)).ids = before.ids ++ [d.checkId] :=
        (ids_setRow before _).trans (if_neg fresh)
      refine ⟨by rw [captures_capture]; exact logged.captures, ?_, ?_⟩
      · rw [ids_capture, ids]
        exact List.nodup_append_comm.mp (List.nodup_cons.mpr ⟨fresh, logged.distinct⟩)
      · rw [told, if_pos rfl, replay?_append logged.replayed, ids_capture, ids, toFinset_concat]
        simp [ChangeEvent.replay?, RowDeed.action, RowDeed.checkId, Feed.captured, absent, fresh]
  | updated d old there allowed =>
      have known : d.checkId ∈ before.ids := by simp [mem_ids, there]
      have ids : (before.setRow (before.stamped (some old) d)).ids = before.ids :=
        (ids_setRow before _).trans (if_pos known)
      refine ⟨by rw [captures_capture]; exact logged.captures, ?_, ?_⟩
      · rw [ids_capture, ids]
        exact logged.distinct
      · rw [told, if_pos rfl, replay?_append logged.replayed, ids_capture, ids]
        simp [ChangeEvent.replay?, RowDeed.action, RowDeed.checkId, Feed.captured, there, known]
  | refused => exact logged
  | deleted checkId there =>
      have known : checkId ∈ before.ids := mem_ids.mpr there
      refine ⟨by rw [captures_capture]; exact logged.captures, ?_, ?_⟩
      · rw [ids_capture, ids_removeRow]
        exact logged.distinct.filter _
      · rw [told, if_pos rfl, replay?_append logged.replayed, ids_capture, ids_removeRow,
          toFinset_filter_ne]
        simp [ChangeEvent.replay?, RowDeed.action, RowDeed.checkId, Feed.captured, known]
  | missed => exact logged

/-- A row has the kind and the time of creation of another. -/
def SameOrigin (row other : Definition) : Prop :=
  row.kind = other.kind ∧ row.createdAt = other.createdAt

theorem kind_eq_of_checkKind {old new : Definition} (allowed : old.checkKind new = .ok ()) :
    new.kind = old.kind := by
  unfold Definition.checkKind at allowed
  cases declared : old.kind with
  | error failure => simp [declared, Bind.bind, Except.bind] at allowed
  | ok kind =>
      cases requested : new.kind with
      | error failure => simp [declared, requested, Bind.bind, Except.bind] at allowed
      | ok other =>
          by_cases same : kind = other
          · rw [same]
          · simp [declared, requested, same, Bind.bind, Except.bind] at allowed

/-- A deed leaves a row with the kind and the time of creation that it had, unless it deletes
it. -/
theorem Change.sameOrigin (change : Change before deed changed after) {row : Definition}
    (there : before.row? checkId = some row) :
    (∃ kept, after.row? checkId = some kept ∧ SameOrigin kept row) ∨
      (changed = true ∧ deed = .delete checkId) := by
  have unchanged : ∃ kept, before.row? checkId = some kept ∧ SameOrigin kept row :=
    ⟨row, there, rfl, rfl⟩
  cases change with
  | inserted d absent =>
      have other : ¬ d.checkId = checkId := by
        intro same
        rw [same, there] at absent
        cases absent
      refine Or.inl ⟨row, ?_, rfl, rfl⟩
      rw [row?_capture, row?_setRow]
      exact (if_neg other).trans there
  | updated d old found allowed =>
      left
      rw [row?_capture, row?_setRow]
      by_cases same : d.checkId = checkId
      · rw [same, there] at found
        cases found
        refine ⟨before.stamped (some row) d, if_pos same, ?_, rfl⟩
        exact kind_eq_of_checkKind allowed
      · exact ⟨row, (if_neg same).trans there, rfl, rfl⟩
  | refused => exact Or.inl unchanged
  | deleted id found =>
      by_cases same : id = checkId
      · exact Or.inr ⟨rfl, by rw [same]⟩
      · refine Or.inl ⟨row, ?_, rfl, rfl⟩
        rw [row?_capture, row?_removeRow_other (Ne.symm same)]
        exact there
  | missed => exact Or.inl unchanged

end Tables

theorem Tables.Logged.afterRows (logged : s.tables.Logged) (deeds : List (Moment × RowDeed)) :
    (afterRows s deeds).tables.Logged := by
  induction deeds generalizing s with
  | nil => exact logged
  | cons deed later ih =>
      exact ih ((logged.withClock deed.1).change (deed.2.carryOut_change s deed.1))

/-- As long as no deletion of it is recorded, a row stays and keeps its kind and the time of its
creation. -/
theorem sameOrigin_afterRows (logged : s.tables.Logged) (deeds : List (Moment × RowDeed)) :
    ∃ news, (afterRows s deeds).tables.recorded = s.tables.recorded ++ news ∧
      ∀ checkId row, s.tables.row? checkId = some row →
        (∀ event ∈ news, event.checkId = checkId → event.action ≠ .delete) →
        ∃ kept, (afterRows s deeds).tables.row? checkId = some kept ∧ SameOrigin kept row := by
  induction deeds generalizing s with
  | nil => exact ⟨[], by simp [afterRows], fun _ row there _ => ⟨row, there, rfl, rfl⟩⟩
  | cons deed later ih =>
      have clocked := logged.withClock deed.1
      have change := deed.2.carryOut_change s deed.1
      have first := change.recorded clocked.captures
      obtain ⟨news, rest, keeps⟩ := ih (clocked.change change)
      refine ⟨_ ++ news, by rw [← List.append_assoc]; exact rest.trans (by rw [first]; rfl), ?_⟩
      intro checkId row there undeleted
      rcases change.sameOrigin there with ⟨kept, stays, same⟩ | ⟨changed, deletes⟩
      · obtain ⟨last, stays, again⟩ := keeps checkId kept stays fun event member =>
          undeleted event (List.mem_append_right _ member)
        exact ⟨last, stays, again.1.trans same.1, again.2.trans same.2⟩
      · rw [changed, deletes] at undeleted
        exact absurd rfl (undeleted _ (List.mem_append_left _ (List.mem_singleton_self _)) rfl)

/-- The log of changes tells of the table: it can be replayed at any time and leads to the ids that
the table holds, it has one event for each deed that is done and none for one that is refused, and
between an insertion and the next deletion a row keeps its kind and the time of its creation. -/
theorem log_of_deeds (clock : Moment) (deeds more : List (Moment × RowDeed)) :
    let s := afterRows (.start clock true) deeds
    let later := afterRows s more
    (replay? s.tables.recorded = some s.tables.ids.toFinset ∧ s.tables.ids.Nodup) ∧
    (∀ now deed,
      let done := RowDeed.carryOut s now deed
      done.1 = deed.admitted s.tables ∧
      done.2.tables.recorded = s.tables.recorded ++
        (if done.1 then [s.tables.feed.captured now (deed.action s.tables) deed.checkId] else []) ∧
      (done.1 = false → done.2.tables.rows = s.tables.rows)) ∧
    ∃ news, later.tables.recorded = s.tables.recorded ++ news ∧
      ∀ checkId row, s.tables.row? checkId = some row →
        (∀ event ∈ news, event.checkId = checkId → event.action ≠ .delete) →
        ∃ kept, later.tables.row? checkId = some kept ∧
          kept.kind = row.kind ∧ kept.createdAt = row.createdAt := by
  intro s later
  have logged : s.tables.Logged := (logged_empty clock).afterRows (s := .start clock true) deeds
  refine ⟨⟨logged.replayed, logged.distinct⟩, ?_, sameOrigin_afterRows logged more⟩
  intro now deed
  have change := deed.carryOut_change s now
  refine ⟨change.admitted, change.recorded logged.captures, fun refused => ?_⟩
  have same := congrArg Tables.rows (change.unchanged refused)
  exact same

end Memory

end CheckKeeper
