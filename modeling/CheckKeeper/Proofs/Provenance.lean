import CheckKeeper.Proofs.ChangeLog
import CheckKeeper.Proofs.Staleness

namespace CheckKeeper

/-! When a row was created, and by whom.

A definition that takes the place of another keeps the time at which the row was created, and brings
its own creator along.
-/

namespace Memory

open Calendar Tables

/-- The deeds that were done, of those that were tried. -/
def accepted : State → List (Moment × RowDeed) → List (Moment × RowDeed)
  | _, [] => []
  | s, deed :: later =>
      let (done, after) := deed.2.carryOut s deed.1
      if done then deed :: accepted after later else accepted after later

/-- The definitions that an id was written with, after one more deed that was done.  A deletion
of the id ends them. -/
def RowDeed.writes (checkId : String) (writings : List (Moment × Definition)) :
    Moment × RowDeed → List (Moment × Definition)
  | (now, .upsert d) => if d.checkId = checkId then writings ++ [(now, d)] else writings
  | (_, .delete other) => if other = checkId then [] else writings

/-- The definitions that an id was written with since it was last absent, in their order. -/
def writings (checkId : String) (deeds : List (Moment × RowDeed)) : List (Moment × Definition) :=
  deeds.foldl (RowDeed.writes checkId) []

/-- The row with the content of the last definition, and the time of creation of the first. -/
def lastWritten (first last : Moment × Definition) : Definition :=
  { last.2 with
    createdAt := first.2.createdAt.orElse (.moment first.1)
    updatedAt := .moment last.1 }

/-- The row with the content of the last definition, created when and by whom the first was. -/
def firstCreated (first last : Moment × Definition) : Definition :=
  { lastWritten first last with createdBy := first.2.createdBy }

def rowOf : List (Moment × Definition) → Option Definition
  | [] => none
  | first :: rest => some (lastWritten first (rest.getLastD first))

variable {s : State} {now : Moment} {deed : RowDeed} {before after : Tables} {changed : Bool}
  {checkId : String} {d : Definition} {written : List (Moment × Definition)}

@[simp] theorem Tables.checkId_stamped (tables : Tables) (existing : Option Definition)
    (d : Definition) : (tables.stamped existing d).checkId = d.checkId :=
  rfl

theorem lastWritten_eq_firstCreated_iff (first last : Moment × Definition) :
    lastWritten first last = firstCreated first last ↔ last.2.createdBy = first.2.createdBy := by
  simp [lastWritten, firstCreated]

theorem rowOf_concat_of_none (absent : rowOf written = none) (last : Moment × Definition) :
    rowOf (written ++ [last]) = some (lastWritten last last) := by
  cases written with
  | nil => rfl
  | cons first rest => cases absent

theorem rowOf_concat_of_some {old : Definition} (there : rowOf written = some old)
    (last : Moment × Definition) :
    rowOf (written ++ [last]) =
      some { last.2 with createdAt := old.createdAt, updatedAt := .moment last.1 } := by
  cases written with
  | nil => cases there
  | cons first rest =>
      cases there
      simp [rowOf, lastWritten]

theorem accepted_of_done {deed : Moment × RowDeed} (done : (deed.2.carryOut s deed.1).1 = true)
    (later : List (Moment × RowDeed)) :
    accepted s (deed :: later) = deed :: accepted (deed.2.carryOut s deed.1).2 later := by
  simp [accepted, done]

theorem accepted_of_undone {deed : Moment × RowDeed} (undone : (deed.2.carryOut s deed.1).1 = false)
    (later : List (Moment × RowDeed)) :
    accepted s (deed :: later) = accepted (deed.2.carryOut s deed.1).2 later := by
  simp [accepted, undone]

/-- One deed leaves the row that an id was written with. -/
theorem Tables.Change.row?_eq_rowOf (change : Change before deed changed after)
    (stands : before.row? checkId = rowOf written) :
    after.row? checkId = rowOf
      (if changed then RowDeed.writes checkId written (before.clock, deed) else written) := by
  cases change with
  | inserted d absent =>
      rw [if_pos rfl, row?_capture, row?_setRow, checkId_stamped]
      by_cases same : d.checkId = checkId
      · rw [same, stands] at absent
        have stored : before.stamped none d = lastWritten (before.clock, d) (before.clock, d) := rfl
        rw [RowDeed.writes, if_pos same, if_pos same, rowOf_concat_of_none absent, stored]
      · rw [RowDeed.writes, if_neg same, if_neg same]
        exact stands
  | updated d old there allowed =>
      rw [if_pos rfl, row?_capture, row?_setRow, checkId_stamped]
      by_cases same : d.checkId = checkId
      · rw [same, stands] at there
        rw [RowDeed.writes, if_pos same, if_pos same, rowOf_concat_of_some there]
        rfl
      · rw [RowDeed.writes, if_neg same, if_neg same]
        exact stands
  | refused => exact stands
  | deleted other found =>
      rw [if_pos rfl, row?_capture]
      by_cases same : other = checkId
      · rw [RowDeed.writes, if_pos same, same]
        exact row?_removeRow_self before checkId
      · rw [RowDeed.writes, if_neg same, row?_removeRow_other (Ne.symm same)]
        exact stands
  | missed => exact stands

theorem row?_afterRows (deeds : List (Moment × RowDeed))
    (stands : s.tables.row? checkId = rowOf written) :
    (afterRows s deeds).tables.row? checkId =
      rowOf ((accepted s deeds).foldl (RowDeed.writes checkId) written) := by
  induction deeds generalizing s written with
  | nil => exact stands
  | cons deed later ih =>
      have clocked : (s.withClock deed.1).tables.row? checkId = rowOf written := stands
      have rest := ih ((deed.2.carryOut_change s deed.1).row?_eq_rowOf clocked)
      cases done : (deed.2.carryOut s deed.1).1 with
      | true =>
          rw [done, if_pos rfl] at rest
          rw [accepted_of_done done]
          exact rest
      | false =>
          rw [done, if_neg Bool.false_ne_true] at rest
          rw [accepted_of_undone done]
          exact rest

/-- In memory the row of an id has the content of the definition that was written last, and the
time of creation of the one that was written first since the id was absent.  It names the creator
of the first exactly if the last does. -/
theorem row_of_deeds_iff (clock : Moment) (captures : Bool) (deeds : List (Moment × RowDeed))
    (checkId : String) :
    let s := afterRows (.start clock captures) deeds
    let found := (handle (.getDefinition checkId) s).1
    let written := writings checkId (accepted (.start clock captures) deeds)
    (written = [] → found = .ok none) ∧
    ∀ first rest, written = first :: rest →
      let last := rest.getLastD first
      found = .ok (some (lastWritten first last)) ∧
      (found = .ok (some (firstCreated first last)) ↔ last.2.createdBy = first.2.createdBy) := by
  intro s found written
  have nothing : (State.start clock captures).tables.row? checkId = rowOf [] := rfl
  have stands : s.tables.row? checkId = rowOf written := row?_afterRows deeds nothing
  have answer : found = .ok (rowOf written) := congrArg Except.ok stands
  refine ⟨fun none_written => by rw [answer, none_written]; rfl, ?_⟩
  intro first rest order last
  have row : found = .ok (some (lastWritten first last)) := by
    rw [answer, order]
    rfl
  refine ⟨row, ?_⟩
  have same_answer : ∀ d other : Definition,
      (Except.ok (some d) : Except Failure (Option Definition)) = .ok (some other) ↔ d = other := by
    simp
  rw [row]
  exact (same_answer _ _).trans (lastWritten_eq_firstCreated_iff first last)

/-- A check that is written again in another name. -/
def handedOver : List (Moment × RowDeed) :=
  [(.earliest, .upsert { Sync.sample with createdBy := .text "alice" }),
    (.earliest, .upsert { Sync.sample with createdBy := .text "bob" })]

/-- The row that was created in one name stands in the other. -/
theorem handedOver_renamed :
    let start := State.start .earliest true
    let found := (afterRows start handedOver).tables.row? "a"
    (writings "a" (accepted start handedOver)).map (·.2.createdBy.plain) = ["alice", "bob"] ∧
      (handle (.getDefinition "a") (afterRows start handedOver)).1 = .ok found ∧
      found.map (·.createdBy.plain) = some "bob" := by
  refine ⟨by decide +kernel, rfl, by decide +kernel⟩

end Memory

end CheckKeeper
