import CheckKeeper.Proofs.Decision
import CheckKeeper.Proofs.JsonText
import CheckKeeper.Proofs.Limits
import CheckKeeper.Proofs.Staleness

namespace CheckKeeper

/-! Rows as the table holds them.

Their columns are of the types of the table, whatever is written in them.  All that can keep such
a row from being read is a filter in which the reader runs into its limits, and all that can keep
the definition from being decided is a filter that is trapped.
-/

/-- The columns of the table that hold texts, besides the id. -/
def textColumns : List String :=
  ["check_name", "check_type", "schedule", "target_schema", "target_table", "columns_key",
    "key_columns", "row_filter", "source_query", "target_query", "created_by", "updated_by"]

def timeColumns : List String :=
  ["created_at", "updated_at"]

/-- Every column holds null or a value of its type, and there is an id. -/
structure Row.IsStored (row : Row) : Prop where
  id : ∃ checkId, row.find? "check_id" = some (.text checkId) ∧ checkId ≠ ""
  texts : ∀ column ∈ textColumns, (row.get column).TextOrNull
  times : ∀ column ∈ timeColumns,
    row.get column = .null ∨ ∃ point, (row.get column).toMoment = .ok point
  minutes : row.get "sla_minutes" = .null ∨ ∃ number, row.get "sla_minutes" = .int number
  threshold : row.get "threshold_ratio" = .null ∨ ∃ ratio, row.get "threshold_ratio" = .float ratio
  active : row.get "is_active" = .null ∨ ∃ flag, row.get "is_active" = .bool flag

/-- The filter is a text in which the reader runs into its limits. -/
def BeyondLimits (filter : Value) : Prop :=
  ∃ content fault, filter = .text content ∧ Text.isBlankText content = false ∧
    Json.read content = .error fault ∧ fault ≠ .malformed

open Compile Sql

section

variable {row : Row} {value filter : Value} {d : Definition}

theorem Value.TextOrNull.readKeyColumns (cell : value.TextOrNull) :
    ∃ columns, readKeyColumns value = .ok columns := by
  rcases cell with rfl | ⟨content, rfl⟩
  · exact ⟨_, rfl⟩
  · exact ⟨_, rfl⟩

theorem Value.TextOrNull.orElse (cell : value.TextOrNull) (otherwise : String) :
    ∃ content, value.orElse (.text otherwise) = .text content := by
  unfold Value.orElse
  split
  · rename_i given
    exact cell.text_of_given given
  · exact ⟨otherwise, rfl⟩

theorem Row.IsStored.keyColumns (stored : row.IsStored) :
    (Definition.keyColumnsOf row).TextOrNull := by
  have first := stored.texts "columns_key" (by decide)
  have second := stored.texts "key_columns" (by decide)
  unfold Definition.keyColumnsOf
  cases found : row.find? "columns_key" with
  | none => exact second
  | some value =>
      rw [Row.get, found] at first
      exact first

theorem Row.IsStored.time (stored : row.IsStored) (column : String)
    (listed : column ∈ timeColumns) :
    ∃ point, readUnlessNull (fun v => v.toMoment.map .moment) (row.get column) = .ok point := by
  unfold readUnlessNull
  split
  · exact ⟨_, rfl⟩
  · rename_i given
    rcases stored.times column listed with absent | ⟨point, read⟩
    · rw [absent] at given
      exact absurd rfl given
    · dsimp only
      rw [read]
      exact ⟨_, rfl⟩

theorem Row.IsStored.readMinutes (stored : row.IsStored) :
    readUnlessNull (fun v => v.toInt.map .int) (row.get "sla_minutes") =
      .ok (row.get "sla_minutes") := by
  rcases stored.minutes with absent | ⟨number, given⟩
  · rw [absent]
    rfl
  · rw [given]
    rfl

theorem Row.IsStored.readThreshold (stored : row.IsStored) :
    readUnlessNull (fun v => v.toFloat.map .float) (row.get "threshold_ratio") =
      .ok (row.get "threshold_ratio") := by
  rcases stored.threshold with absent | ⟨ratio, given⟩
  · rw [absent]
    rfl
  · rw [given]
    rfl

/-- To read a row is to read its filter: all else makes a definition without fail. -/
theorem Row.IsStored.ofRow (stored : row.IsStored) :
    ∃ definition : Value → Definition,
      Definition.ofRow row = (readRowFilter (row.get "row_filter")).map definition ∧
      ∀ filter : Value, (definition filter).rowFilter = filter ∧
        (filter.IsShown → WellTyped (definition filter)) := by
  obtain ⟨checkId, named, hasId⟩ := stored.id
  obtain ⟨keyColumns, keys⟩ := stored.keyColumns.readKeyColumns
  obtain ⟨createdAt, created⟩ := stored.time "created_at" (by decide)
  obtain ⟨updatedAt, updated⟩ := stored.time "updated_at" (by decide)
  have required : row.require "check_id" = .ok (.text checkId) := by
    rw [Row.require, named]
  refine ⟨fun filter => {
      checkId, hasId, keyColumns, createdAt, updatedAt
      checkName := (row.get "check_name").orElse (.text checkId)
      checkType := (row.get "check_type").orElse (.text "")
      schedule := (row.get "schedule").orElse (.text "")
      targetSchema := row.get "target_schema", targetTable := row.get "target_table"
      rowFilter := filter, slaMinutes := row.get "sla_minutes"
      sourceQuery := row.get "source_query", targetQuery := row.get "target_query"
      thresholdRatio := row.get "threshold_ratio"
      isActive := .bool ((row.get "is_active").isNull || (row.get "is_active").isGiven)
      createdBy := row.get "created_by", updatedBy := row.get "updated_by" }, ?_, ?_⟩
  · unfold Definition.ofRow
    rw [required, keys, stored.readMinutes, stored.readThreshold, created, updated]
    cases readRowFilter (row.get "row_filter") with
    | error failure => rfl
    | ok filter => exact dif_pos hasId
  · intro filter
    refine ⟨rfl, fun shown => {
      checkType := (stored.texts "check_type" (by decide)).orElse ""
      schedule := (stored.texts "schedule" (by decide)).orElse ""
      schema := stored.texts "target_schema" (by decide)
      table := stored.texts "target_table" (by decide)
      source := stored.texts "source_query" (by decide)
      target := stored.texts "target_query" (by decide)
      minutes := stored.minutes
      threshold := stored.threshold
      filter := shown }⟩

/-- What is read from a filter column can be shown: the reader has the same limits. -/
theorem isShown_of_readRowFilter {content : Value}
    (cell : content.TextOrNull) (read : readRowFilter content = .ok filter) : filter.IsShown := by
  rcases cell with rfl | ⟨content, rfl⟩
  · cases read
    rfl
  · unfold readRowFilter at read
    dsimp only at read
    split at read
    · cases read
      rfl
    · cases found : Json.read content with
      | ok value =>
          rw [found] at read
          cases read
          exact (Json.legible_read found).within
      | error fault =>
          rw [found] at read
          cases fault with
          | malformed =>
              cases read
              rfl
          | tooDeep => cases read
          | tooManyDigits count => cases read

theorem Row.IsStored.wellTyped (stored : row.IsStored) (read : Definition.ofRow row = .ok d) :
    readRowFilter (row.get "row_filter") = .ok d.rowFilter ∧ WellTyped d := by
  obtain ⟨definition, reads, made⟩ := stored.ofRow
  rw [reads] at read
  cases filtered : readRowFilter (row.get "row_filter") with
  | error failure =>
      rw [filtered] at read
      cases read
  | ok filter =>
      rw [filtered] at read
      cases read
      obtain ⟨kept, typed⟩ := made filter
      exact ⟨by rw [kept], typed (isShown_of_readRowFilter (stored.texts "row_filter" (by decide)) filtered)⟩

/-- A filter column is read unless the reader runs into its limits. -/
theorem readRowFilter_iff (cell : filter.TextOrNull) :
    (∃ read, readRowFilter filter = .ok read) ↔ ¬ BeyondLimits filter := by
  rcases cell with rfl | ⟨content, rfl⟩
  · refine iff_of_true ⟨_, rfl⟩ ?_
    rintro ⟨content, fault, same, _⟩
    cases same
  · have limits : BeyondLimits (.text content) ↔ Text.isBlankText content = false ∧
        ∃ fault, Json.read content = .error fault ∧ fault ≠ .malformed := by
      simp [BeyondLimits]
    rw [limits]
    unfold readRowFilter
    dsimp only
    split
    · rename_i blank
      refine iff_of_true ⟨_, rfl⟩ ?_
      rintro ⟨given, _⟩
      rw [blank] at given
      cases given
    · rename_i given
      rw [Bool.not_eq_true] at given
      cases read : Json.read content with
      | ok value =>
          refine iff_of_true ⟨_, rfl⟩ ?_
          rintro ⟨_, fault, same, _⟩
          cases same
      | error fault =>
          by_cases malformed : fault = .malformed
          · subst malformed
            refine iff_of_true ⟨_, rfl⟩ ?_
            rintro ⟨_, fault, same, other⟩
            cases same
            exact other rfl
          · refine iff_of_false ?_ fun within => within ⟨given, fault, rfl, malformed⟩
            rintro ⟨value, same⟩
            cases fault with
            | malformed => exact malformed rfl
            | tooDeep => cases same
            | tooManyDigits count => cases same

/-- Few brackets and short numbers are within the limits. -/
theorem not_beyondLimits {content : String} (shallow : Json.openings content.toList ≤ Json.depthLimit)
    (short : ¬ Json.HasLongNumber content.toList) : ¬ BeyondLimits (.text content) := by
  rintro ⟨_, fault, same, _, failed, other⟩
  cases same
  exact other (Json.malformed_of_read failed shallow short)

end

namespace Sync

open Memory Compile

variable {row : Row} {settings : Settings} {results : String} {d : Definition} {s : State}
  {ids : List String} {action : ChangeAction} {createdAt updatedAt : Value}

/-- With no call failing an action that brings a definition in step fails only if the definition
is not decided. -/
theorem apply_failed_iff (typed : WellTyped d) (path : Sql.pathOf settings.resultsTable = .ok results)
    (tidy : s.tables.Tidy ids)
    (there : s.tables.row? d.checkId = some { d with createdAt, updatedAt })
    (bringing : action ≠ .delete) :
    ∃ outcome, ((apply settings d.checkId action).run handle s).1 = .ok outcome ∧
      (outcome.failed = true ↔ Caught d settings.resultsTable) := by
  have caught_of_fails {failure : Failure}
      (fails : Fails nothing settings.resultsTable s.tables d.checkId action failure) :
      Caught d settings.resultsTable ∧ failure.isInterrupt = false := by
    rcases fails with befallen | ⟨_, ⟨absent, _⟩ | ⟨row, found, failed⟩⟩
    · exact absurd befallen not_befallen
    · rw [there] at absent
      cases absent
    · rw [there] at found
      cases found
      rw [compile_stamped] at failed
      exact typed.caught_of_error path failed
  have effect : Effect nothing settings.resultsTable d.checkId action s.tables
      ((apply settings d.checkId action).run handle s).2.tables
      ((apply settings d.checkId action).run handle s).1 :=
    (run_of_ends_nothing (apply_ends quiet_nothing tidy)).2
  have answers := effect.answers
  cases found : ((apply settings d.checkId action).run handle s).1 with
  | error failure =>
      rw [found] at answers
      obtain ⟨interrupt, fails⟩ := answers
      rw [(caught_of_fails fails).2] at interrupt
      cases interrupt
  | ok outcome =>
      rw [found] at answers
      obtain ⟨_, ended⟩ := answers
      refine ⟨outcome, rfl, ?_⟩
      split at ended
      · rename_i failed
        obtain ⟨failure, fails⟩ := ended
        exact iff_of_true failed (caught_of_fails fails).1
      · rename_i well
        refine iff_of_false well ?_
        obtain ⟨row, verdict, found, compiled, _⟩ := ended.brought bringing
        rw [there] at found
        cases found
        rw [compile_stamped] at compiled
        exact (typed.answered_iff path).mp ⟨verdict, compiled⟩

/-- A stored row makes a definition if its filter is within the limits of the reader.  The
definition gets a check or a reason and never both, and bringing it in step is no failure,
unless all that is left to decide is a filter that is trapped. -/
theorem row_decided_iff (settings : Settings) (stored : row.IsStored)
    (path : Sql.pathOf settings.resultsTable = .ok results) :
    ((∃ d, Definition.ofRow row = .ok d) ↔ ¬ BeyondLimits (row.get "row_filter")) ∧
    (∀ content, row.get "row_filter" = .text content →
      Json.openings content.toList ≤ Json.depthLimit → ¬ Json.HasLongNumber content.toList →
      ∃ d, Definition.ofRow row = .ok d) ∧
    ∀ d, Definition.ofRow row = .ok d →
      readRowFilter (row.get "row_filter") = .ok d.rowFilter ∧
      ((∃ verdict, compile d settings.resultsTable = .ok verdict ∧
        verdict.check?.isSome = !verdict.reason?.isSome) ↔ ¬ Caught d settings.resultsTable) ∧
      ∀ (s : State) (ids : List String) (action : ChangeAction) (createdAt updatedAt : Value),
        s.tables.Tidy ids → s.tables.row? d.checkId = some { d with createdAt, updatedAt } →
        action ≠ .delete →
        ∃ outcome, ((apply settings d.checkId action).run handle s).1 = .ok outcome ∧
          (outcome.failed = true ↔ Caught d settings.resultsTable) := by
  obtain ⟨definition, reads, _⟩ := stored.ofRow
  have readable : (∃ d, Definition.ofRow row = .ok d) ↔ ¬ BeyondLimits (row.get "row_filter") := by
    rw [← readRowFilter_iff (stored.texts "row_filter" (by decide)), reads]
    cases readRowFilter (row.get "row_filter") with
    | ok filter => exact iff_of_true ⟨_, rfl⟩ ⟨_, rfl⟩
    | error failure =>
        refine iff_of_false ?_ ?_
        · rintro ⟨d, same⟩
          cases same
        · rintro ⟨filter, same⟩
          cases same
  refine ⟨readable, ?_, ?_⟩
  · intro content written shallow short
    rw [readable, written]
    exact not_beyondLimits shallow short
  · intro d read
    obtain ⟨filtered, typed⟩ := stored.wellTyped read
    refine ⟨filtered, ?_, ?_⟩
    · rw [← typed.answered_iff path]
      simp only [verdict_either, and_true]
    · intro s ids action createdAt updatedAt tidy there bringing
      exact apply_failed_iff typed path tidy there bringing

/-- A row with a filter as it is written. -/
def filteredRow (filter : String) : Row :=
  [(.text "check_id", .text "a"), (.text "check_type", .text "UNIQUENESS"),
    (.text "columns_key", .text "id"), (.text "target_schema", .text "s"),
    (.text "target_table", .text "t"), (.text "schedule", .text "daily"),
    (.text "row_filter", .text filter)]

theorem isStored_filteredRow (filter : String) : (filteredRow filter).IsStored where
  id := ⟨"a", rfl, by decide⟩
  texts := by
    have absent : (Value.null).TextOrNull := Or.inl rfl
    have written (content : String) : (Value.text content).TextOrNull := Or.inr ⟨content, rfl⟩
    simp only [textColumns, List.forall_mem_cons]
    exact ⟨absent, written _, written _, written _, written _, written _, absent, written _, absent,
      absent, absent, absent, by simp⟩
  times := by
    simp only [timeColumns, List.forall_mem_cons]
    exact ⟨Or.inl rfl, Or.inl rfl, by simp⟩
  minutes := Or.inl rfl
  threshold := Or.inl rfl
  active := Or.inl rfl

/-- The tables with one row and nothing else. -/
def onlyRow (d : Definition) : State :=
  ⟨(Tables.empty .earliest true).setRow d, .start⟩

theorem tidy_onlyRow (d : Definition) : (onlyRow d).tables.Tidy [d.checkId] :=
  (Tables.tidy_empty .earliest [d.checkId]).setRow (by simp)

theorem row?_onlyRow (d : Definition) : (onlyRow d).tables.row? d.checkId = some d := by
  simp [onlyRow, Tables.row?_setRow]

/-- The second operator cannot be looked up, but the first is looked up and is none. -/
def unknownOperator : String :=
  "[\x7b\"column\": \"a\", \"op\": 5\x7d, \x7b\"column\": \"b\", \"op\": [\"=\"]\x7d]"

theorem unknownOperator_decided :
    ∃ d verdict outcome, Definition.ofRow (filteredRow unknownOperator) = .ok d ∧
      compile d (.text "results") = .ok verdict ∧ verdict.reason? = some .invalidParameter ∧
      ((apply ⟨.text "results", none⟩ d.checkId .insert).run handle (onlyRow d)).1 = .ok outcome ∧
      outcome.failed = false := by
  let settings : Settings := ⟨.text "results", none⟩
  have path : ∃ results, Sql.pathOf settings.resultsTable = .ok results := ⟨_, rfl⟩
  obtain ⟨results, path⟩ := path
  obtain ⟨_, within, decided⟩ := row_decided_iff settings (isStored_filteredRow unknownOperator) path
  have short : ¬ Json.HasLongNumber unknownOperator.toList := by
    rintro ⟨run, inside, _, long⟩
    have fits : unknownOperator.toList.length < Number.digitLimit := by decide
    exact absurd (inside.length_le.trans_lt fits) (Nat.not_lt.mpr long.le)
  obtain ⟨d, read⟩ := within unknownOperator rfl (by decide) short
  obtain ⟨_, answered, reconciled⟩ := decided d read
  have compiles : ((Definition.ofRow (filteredRow unknownOperator)).toOption.bind fun d =>
      (compile d (.text "results")).toOption.bind Verdict.reason?) = some .invalidParameter := by
    decide +kernel
  rw [read] at compiles
  change ((compile d (.text "results")).toOption.bind Verdict.reason?) = _ at compiles
  obtain ⟨verdict, compiled, reason⟩ := Option.bind_eq_some_iff.mp compiles
  have compiled := eq_ok_of_toOption compiled
  have free : ¬ Caught d settings.resultsTable :=
    answered.mp ⟨verdict, compiled, verdict_either verdict⟩
  obtain ⟨outcome, ran, failed⟩ :=
    reconciled (onlyRow d) [d.checkId] .insert d.createdAt d.updatedAt (tidy_onlyRow d)
      (row?_onlyRow d) (by decide)
  refine ⟨d, verdict, outcome, read, compiled, reason, ran, ?_⟩
  rw [← Bool.not_eq_true, failed]
  exact free

def listedOperator : String :=
  "[\x7b\"column\": \"a\", \"op\": [\"=\"]\x7d]"

/-- An operator that is a list is looked up before it is known to be no text. -/
theorem listedOperator_caught :
    (filteredRow listedOperator).IsStored ∧
    ∃ d type outcome, Definition.ofRow (filteredRow listedOperator) = .ok d ∧
      compile d (.text "results") = .error (.misuse (.unhashable type)) ∧
      ((apply ⟨.text "results", none⟩ d.checkId .insert).run handle (onlyRow d)).1 = .ok outcome ∧
      outcome.failed = true := by
  let settings : Settings := ⟨.text "results", none⟩
  have path : ∃ results, Sql.pathOf settings.resultsTable = .ok results := ⟨_, rfl⟩
  obtain ⟨results, path⟩ := path
  have stored := isStored_filteredRow listedOperator
  have reads : (Definition.ofRow (filteredRow listedOperator)).toOption.isSome = true ∧
      ((Definition.ofRow (filteredRow listedOperator)).toOption.bind fun d =>
        (compile d (.text "results")).toOption.map Verdict.checkId) = none := by
    decide +kernel
  obtain ⟨readable, unanswered⟩ := reads
  obtain ⟨d, read⟩ := Option.isSome_iff_exists.mp readable
  have read := eq_ok_of_toOption read
  obtain ⟨_, typed⟩ := stored.wellTyped read
  rw [read] at unanswered
  rcases typed.answered path with ⟨_, verdict, compiled⟩ | ⟨caught, type, failed⟩
  · change ((compile d settings.resultsTable).toOption.map Verdict.checkId) = none at unanswered
    rw [compiled] at unanswered
    cases unanswered
  · obtain ⟨outcome, ran, wrong⟩ := apply_failed_iff typed path (tidy_onlyRow d) (row?_onlyRow d)
      (by decide : ChangeAction.insert ≠ .delete)
    exact ⟨stored, d, type, outcome, read, failed, ran, wrong.mpr caught⟩

end Sync

end CheckKeeper
