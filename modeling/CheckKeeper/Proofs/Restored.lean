import CheckKeeper.Proofs.Conjunction
import CheckKeeper.Proofs.Embedding
import CheckKeeper.Proofs.JsonText
import CheckKeeper.Proofs.MomentText
import CheckKeeper.Proofs.Stored

namespace CheckKeeper

open Calendar Compile

/-! Definitions read again from the rows that stand for them.

A row may write a definition in many ways: names with blanks around them, JSON with other spaces, a
filter that is no JSON.  The row that stands for the definition writes it in one way, and is read
as the definition.
-/

variable {row : Row} {d : Definition} {value cell : Value} {columns : List String} {cs part : List Char}

/-- What key columns are as they were read: names without blanks around them and without commas. -/
def AreNames (columns : List String) : Prop :=
  ∀ column ∈ columns, column ≠ "" ∧ ',' ∉ column.toList ∧ Text.stripText column = column

theorem not_mem_of_mem_splitAt {separator : Char} (member : part ∈ Text.splitAt separator cs) :
    separator ∉ part := by
  induction cs generalizing part with
  | nil =>
      obtain rfl : part = [] := List.mem_singleton.mp member
      exact List.not_mem_nil
  | cons c cs ih =>
      unfold Text.splitAt at member
      split at member
      · rcases List.mem_cons.mp member with rfl | later
        · exact List.not_mem_nil
        · exact ih later
      · rename_i other
        split at member
        · obtain rfl := List.mem_singleton.mp member
          simpa using Ne.symm other
        · rename_i first later pieces
          rw [pieces] at ih
          rcases List.mem_cons.mp member with rfl | inside
          · rw [List.mem_cons, not_or]
            exact ⟨Ne.symm other, ih List.mem_cons_self⟩
          · exact ih (List.mem_cons_of_mem _ inside)

theorem areNames_of_read (written : cell.TextOrNull) (read : readKeyColumns cell = .ok columns) :
    AreNames columns := by
  rcases written with rfl | ⟨content, rfl⟩
  · cases read
    exact List.forall_mem_nil _
  · cases read
    intro column member
    obtain ⟨stripped, given⟩ := List.mem_filter.mp member
    obtain ⟨name, part, rfl⟩ := List.mem_map.mp stripped
    obtain ⟨part, inside, rfl⟩ := List.mem_map.mp part
    refine ⟨by simpa using given, ?_, ?_⟩
    · rw [Text.stripText, String.toList_ofList, String.toList_ofList]
      exact fun comma => not_mem_of_mem_splitAt inside (Sql.strip_subset _ comma)
    · rw [Text.stripText, Text.stripText, String.toList_ofList, Sql.strip_strip]

theorem AreNames.readKeyColumns (names : AreNames columns) :
    readKeyColumns ((Value.text (Text.join "," columns)).orElse .null) = .ok columns := by
  cases columns with
  | nil => rfl
  | cons first others =>
      have cut : Text.splitText ',' (Text.join "," (first :: others)) = first :: others :=
        Sql.splitText_join ',' "," rfl (List.cons_ne_nil _ _)
          fun column member => (names column member).2.1
      have given : Text.join "," (first :: others) ≠ "" := by
        intro empty
        rw [empty] at cut
        obtain ⟨rfl, _⟩ := List.cons.inj cut
        exact (names "" List.mem_cons_self).1 rfl
      have stripped : (first :: others).map Text.stripText = first :: others :=
        (List.map_congr_left fun column member => (names column member).2.2).trans (List.map_id _)
      have kept : (first :: others).filter (· != "") = first :: others :=
        List.filter_eq_self.mpr fun column member => bne_iff_ne.mpr (names column member).1
      have text : (Value.text (Text.join "," (first :: others))).orElse .null =
          .text (Text.join "," (first :: others)) :=
        if_pos (bne_iff_ne.mpr given)
      rw [text]
      simp only [CheckKeeper.readKeyColumns, cut]
      exact congrArg Except.ok ((congrArg (List.filter (· != "")) stripped).trans kept)

/-- A filter that was read from a cell is read again from its JSON text. -/
theorem exists_filterText (written : cell.TextOrNull) (read : readRowFilter cell = .ok d.rowFilter) :
    ∃ text, d.filterText = .ok text ∧ readRowFilter text = .ok d.rowFilter := by
  unfold Definition.filterText
  generalize d.rowFilter = filter at read ⊢
  have known : filter = .null ∨ Json.Legible Json.depthLimit filter := by
    rcases written with rfl | ⟨content, rfl⟩
    · cases read
      exact .inl rfl
    · unfold readRowFilter at read
      dsimp only at read
      split at read
      · cases read
        exact .inl rfl
      · cases found : Json.read content with
        | ok value =>
            rw [found] at read
            cases read
            exact .inr (Json.legible_read found)
        | error fault =>
            rw [found] at read
            cases fault with
            | malformed =>
                cases read
                exact .inr (.text content)
            | tooDeep => cases read
            | tooManyDigits count => cases read
  rcases known with rfl | legible
  · exact ⟨.null, rfl, rfl⟩
  · by_cases null : filter.isNull = true
    · refine ⟨.null, if_pos null, ?_⟩
      cases filter <;> first | rfl | cases null
    · obtain ⟨text, made, given, again⟩ := legible.exists_dump
      refine ⟨.text text, ?_, ?_⟩
      · rw [if_neg null, made]
        rfl
      · simp only [readRowFilter, given, again]
        rfl

theorem readUnlessNull_eq_ok {α : Type} {take : Value → Except Failure α} {wrap : α → Value}
    (read : readUnlessNull (fun v => (take v).map wrap) cell = .ok value) :
    (cell = .null ∧ value = .null) ∨ ∃ taken, take cell = .ok taken ∧ value = wrap taken := by
  unfold readUnlessNull at read
  split at read
  · rename_i null
    cases read
    refine .inl ⟨?_, rfl⟩
    cases cell <;> first | rfl | cases null
  · dsimp only at read
    cases taken : take cell with
    | error failure =>
        rw [taken] at read
        cases read
    | ok found =>
        rw [taken] at read
        cases read
        exact .inr ⟨found, rfl, rfl⟩

theorem readMinutes_again (read : readUnlessNull (fun v => v.toInt.map .int) cell = .ok value) :
    readUnlessNull (fun v => v.toInt.map .int) value = .ok value := by
  rcases readUnlessNull_eq_ok read with ⟨_, rfl⟩ | ⟨number, _, rfl⟩ <;> rfl

theorem readThreshold_again
    (read : readUnlessNull (fun v => v.toFloat.map .float) cell = .ok value) :
    readUnlessNull (fun v => v.toFloat.map .float) value = .ok value := by
  rcases readUnlessNull_eq_ok read with ⟨_, rfl⟩ | ⟨number, _, rfl⟩ <;> rfl

/-- The time that is read where one was written. -/
def Value.asRead : Value → Value
  | .moment point => .moment point.asRead
  | other => other

theorem exists_timeText (read : readUnlessNull (fun v => v.toMoment.map .moment) cell = .ok value) :
    ∃ text, Definition.timeText value = .ok text ∧
      readUnlessNull (fun v => v.toMoment.map .moment) text = .ok value.asRead := by
  rcases readUnlessNull_eq_ok read with ⟨_, rfl⟩ | ⟨point, _, rfl⟩
  · exact ⟨.null, rfl, rfl⟩
  · refine ⟨.text point.render, rfl, ?_⟩
    have read : (Value.text point.render).toMoment = .ok point.asRead := by
      rw [Value.toMoment_text, point.read_render]
      rfl
    simp only [readUnlessNull, read]
    rfl

/-- Only a moment that was given as such can have an offset that is read as none. -/
theorem asRead_eq_self_iff (read : readUnlessNull (fun v => v.toMoment.map .moment) cell = .ok value) :
    value.asRead = value ↔ ∀ point, cell = .moment point → point.Kept := by
  rcases readUnlessNull_eq_ok read with ⟨rfl, rfl⟩ | ⟨point, taken, rfl⟩
  · exact iff_of_true rfl fun _ same => nomatch same
  · rw [Value.asRead, Value.moment.injEq, point.asRead_eq_self_iff]
    constructor
    · rintro kept other rfl
      cases taken
      exact kept
    · intro kept
      unfold Value.toMoment at taken
      split at taken
      · cases taken
        exact kept _ rfl
      · obtain ⟨text, _, taken⟩ := bind_eq_ok taken
        cases moment : Moment.read text with
        | error failure =>
            rw [moment] at taken
            cases taken
        | ok found =>
            rw [moment] at taken
            cases taken
            exact Moment.kept_of_read moment

theorem orElse_orElse (value otherwise : Value) :
    (value.orElse otherwise).orElse otherwise = value.orElse otherwise := by
  unfold Value.orElse
  by_cases given : value.isGiven = true
  · simp [given]
  · simp [given]

/-- Cells under the names of their columns. -/
def Row.ofCells (cells : List (String × Value)) : Row :=
  cells.map fun (name, cell) => (.text name, cell)

/-- What each field of a definition has to do with the row that it was read from. -/
structure Definition.ReadFrom (row : Row) (d : Definition) : Prop where
  id : ∃ cell, row.require "check_id" = .ok cell ∧ cell.written = .ok d.checkId
  name : (row.get "check_name").orElse (.text d.checkId) = d.checkName
  type : (row.get "check_type").orElse (.text "") = d.checkType
  schedule : (row.get "schedule").orElse (.text "") = d.schedule
  schema : row.get "target_schema" = d.targetSchema
  table : row.get "target_table" = d.targetTable
  keys : readKeyColumns (keyColumnsOf row) = .ok d.keyColumns
  filter : readRowFilter (row.get "row_filter") = .ok d.rowFilter
  minutes : readUnlessNull (fun v => v.toInt.map .int) (row.get "sla_minutes") = .ok d.slaMinutes
  source : row.get "source_query" = d.sourceQuery
  target : row.get "target_query" = d.targetQuery
  threshold : readUnlessNull (fun v => v.toFloat.map .float) (row.get "threshold_ratio") =
    .ok d.thresholdRatio
  active : Value.bool ((row.get "is_active").isNull || (row.get "is_active").isGiven) = d.isActive
  created : readUnlessNull (fun v => v.toMoment.map .moment) (row.get "created_at") = .ok d.createdAt
  updated : readUnlessNull (fun v => v.toMoment.map .moment) (row.get "updated_at") = .ok d.updatedAt
  creator : row.get "created_by" = d.createdBy
  updater : row.get "updated_by" = d.updatedBy

theorem ofRow_eq_ok_iff : Definition.ofRow row = .ok d ↔ d.ReadFrom row := by
  constructor
  · intro read
    unfold Definition.ofRow at read
    obtain ⟨cell, named, read⟩ := bind_eq_ok read
    obtain ⟨checkId, written, read⟩ := bind_eq_ok read
    obtain ⟨keyColumns, keyed, read⟩ := bind_eq_ok read
    obtain ⟨rowFilter, filtered, read⟩ := bind_eq_ok read
    obtain ⟨slaMinutes, timed, read⟩ := bind_eq_ok read
    obtain ⟨thresholdRatio, limited, read⟩ := bind_eq_ok read
    obtain ⟨createdAt, created, read⟩ := bind_eq_ok read
    obtain ⟨updatedAt, updated, read⟩ := bind_eq_ok read
    split at read
    · cases read
      exact ⟨⟨cell, named, written⟩, rfl, rfl, rfl, rfl, rfl, keyed, filtered, timed, rfl, rfl, limited,
        rfl, created, updated, rfl, rfl⟩
    · cases read
  · intro from_row
    obtain ⟨cell, named, written⟩ := from_row.id
    unfold Definition.ofRow
    rw [named, from_row.keys, from_row.filter, from_row.minutes, from_row.threshold,
      from_row.created, from_row.updated]
    simp only [bind, Except.bind, written, from_row.name, from_row.type, from_row.schedule,
      from_row.schema, from_row.table, from_row.source, from_row.target, from_row.active,
      from_row.creator, from_row.updater]
    exact dif_pos d.hasId

/-- The definition that is read where one was written. -/
def Definition.asRead (d : Definition) : Definition :=
  { d with createdAt := d.createdAt.asRead, updatedAt := d.updatedAt.asRead }

/-- The definition is read from its row, but for the offsets that are read as none. -/
theorem Definition.ReadFrom.toRow (from_row : d.ReadFrom row)
    (keys : ∃ cell, row.find? "columns_key" = some cell ∧ cell.TextOrNull)
    (filter : (row.get "row_filter").TextOrNull) :
    ∃ cells, d.toRow = .ok cells ∧ d.asRead.ReadFrom (Row.ofCells cells) := by
  obtain ⟨keyCell, found, written⟩ := keys
  have keyed : Definition.keyColumnsOf row = keyCell := by
    rw [Definition.keyColumnsOf, found]
    rfl
  have names := areNames_of_read written (keyed ▸ from_row.keys)
  obtain ⟨filterText, filterMade, filterAgain⟩ := exists_filterText filter from_row.filter
  obtain ⟨createdText, createdMade, createdAgain⟩ := exists_timeText from_row.created
  obtain ⟨updatedText, updatedMade, updatedAgain⟩ := exists_timeText from_row.updated
  have again (column : String) (otherwise : Value) {kept : Value}
      (same : (row.get column).orElse otherwise = kept) : kept.orElse otherwise = kept :=
    same ▸ orElse_orElse _ _
  have active : Value.bool (d.isActive.isNull || d.isActive.isGiven) = d.isActive := by
    rw [← from_row.active]
    rfl
  cases made : d.toRow with
  | error failure =>
      rw [Definition.toRow, filterMade, createdMade, updatedMade] at made
      cases made
  | ok cells =>
      rw [Definition.toRow, filterMade, createdMade, updatedMade] at made
      cases made
      exact ⟨_, rfl, {
        id := ⟨.text d.checkId, rfl, rfl⟩
        name := again _ _ from_row.name
        type := again _ _ from_row.type
        schedule := again _ _ from_row.schedule
        schema := rfl
        table := rfl
        keys := names.readKeyColumns
        filter := filterAgain
        minutes := readMinutes_again from_row.minutes
        source := rfl
        target := rfl
        threshold := readThreshold_again from_row.threshold
        active
        created := createdAgain
        updated := updatedAgain
        creator := rfl
        updater := rfl }⟩

/-- A definition is read again from its row, and written again as it was, unless one of its times
was given as a moment whose offset is less than a second and not nought. -/
theorem row_restored_iff (keys : ∃ cell, row.find? "columns_key" = some cell ∧ cell.TextOrNull)
    (filter : (row.get "row_filter").TextOrNull) (read : Definition.ofRow row = .ok d) :
    ∃ cells again, d.toRow = .ok cells ∧ Definition.ofRow (Row.ofCells cells) = .ok again ∧
      (again = d ∧ again.toRow = .ok cells ↔
        ∀ column ∈ timeColumns, ∀ point, row.get column = .moment point → point.Kept) := by
  have from_row := ofRow_eq_ok_iff.mp read
  obtain ⟨cells, made, reread⟩ := from_row.toRow keys filter
  have same : d.asRead = d ↔
      d.createdAt.asRead = d.createdAt ∧ d.updatedAt.asRead = d.updatedAt := by
    obtain ⟨⟩ := d
    simp [Definition.asRead]
  refine ⟨cells, d.asRead, made, ofRow_eq_ok_iff.mpr reread, ?_⟩
  rw [timeColumns, List.forall_mem_cons, List.forall_mem_singleton, ← asRead_eq_self_iff from_row.created,
    ← asRead_eq_self_iff from_row.updated, ← same]
  exact ⟨And.left, fun same => ⟨same, same.symm ▸ made⟩⟩

/-- A row as an operator might write it. -/
def handwritten : Row :=
  [(.text "check_id", .text "orders"), (.text "check_type", .text "uniqueness "),
    (.text "columns_key", .text " id,, région ,"), (.text "row_filter", .text "status = 'new'"),
    (.text "created_at", .text "2024-W09-4 12"),
    (.text "updated_at",
      .moment { Moment.earliest with offset := some ⟨5 * hour + 30 * minute, by decide⟩ })]

theorem handwritten_restored : ∃ d cells again, Definition.ofRow handwritten = .ok d ∧
    d.toRow = .ok cells ∧ Definition.ofRow (Row.ofCells cells) = .ok again ∧ again = d ∧
    again.toRow = .ok cells := by
  have reads : (Definition.ofRow handwritten).toOption.isSome = true := by decide +kernel
  obtain ⟨d, found⟩ := Option.isSome_iff_exists.mp reads
  have read := eq_ok_of_toOption found
  obtain ⟨cells, again, made, reread, restored⟩ :=
    row_restored_iff ⟨_, rfl, .inr ⟨_, rfl⟩⟩ (.inr ⟨_, rfl⟩) read
  refine ⟨d, cells, again, read, made, reread, restored.mpr ?_⟩
  intro column listed point given
  simp only [timeColumns, List.mem_cons, List.not_mem_nil, or_false] at listed
  rcases listed with rfl | rfl
  · cases given
  · cases given
    rintro offset same
    cases same
    exact .inr (by decide)

/-- A moment one microsecond off universal time. -/
def offByLittle : Moment :=
  { Moment.earliest with offset := some ⟨1, by decide⟩ }

theorem offByLittle_not_kept : ¬ offByLittle.Kept := by
  intro kept
  rcases kept _ rfl with nought | large
  · exact absurd nought (by decide)
  · exact absurd large (by decide)

def slightlyOff : Row :=
  [(.text "check_id", .text "orders"), (.text "columns_key", .null),
    (.text "created_at", .moment offByLittle)]

theorem slightlyOff_changed : ∃ d cells again, Definition.ofRow slightlyOff = .ok d ∧
    d.toRow = .ok cells ∧ Definition.ofRow (Row.ofCells cells) = .ok again ∧ again ≠ d := by
  have reads : (Definition.ofRow slightlyOff).toOption.isSome = true := by decide +kernel
  obtain ⟨d, found⟩ := Option.isSome_iff_exists.mp reads
  have from_row := ofRow_eq_ok_iff.mp (eq_ok_of_toOption found)
  obtain ⟨cells, made, reread⟩ := from_row.toRow ⟨_, rfl, .inl rfl⟩ (.inl rfl)
  refine ⟨d, cells, d.asRead, eq_ok_of_toOption found, made, ofRow_eq_ok_iff.mpr reread, ?_⟩
  intro same
  have kept := (asRead_eq_self_iff from_row.created).mp (congrArg Definition.createdAt same)
  exact offByLittle_not_kept (kept _ rfl)

end CheckKeeper
