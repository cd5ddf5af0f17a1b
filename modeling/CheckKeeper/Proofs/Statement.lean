import CheckKeeper.Proofs.Erasure

namespace CheckKeeper

/-! What the statement of a check is made of.

Of a filter a statement shows the columns, the comparisons, and which values are null; of a
definition it shows the target and the key columns besides, or two queries.  All else is bound
to parameters.  Names stand between back quotes, so that a statement without them shows how many
columns there are, and what is asked of them.
-/

namespace Sql

/-- A comparison, and whether it is with null. -/
abbrev Mark : Type :=
  Comparison × Bool

/-- A condition without its value. -/
abbrev Shape : Type :=
  Value × Mark

def Condition.shape (condition : Condition) : Shape :=
  (condition.column, condition.comparison, condition.value.isNull)

def shapesOf (filter : Value) : Except Failure (List Shape) :=
  (Condition.ofFilter filter).map (·.map Condition.shape)

/-- How the condition with this index goes on behind its column. -/
def ending (index : Nat) (mark : Mark) : String :=
  if mark.2 then if mark.1 = .eq then " IS NULL" else " IS NOT NULL"
  else " " ++ mark.1.symbol ++ " @" ++ Condition.parameterName index

def conjuncts : Nat → List (String × Mark) → List String
  | _, [] => []
  | index, (column, mark) :: rest => (column ++ ending index mark) :: conjuncts (index + 1) rest

def clause (conditions : List (String × Mark)) : String :=
  if conditions.isEmpty then "" else "WHERE " ++ Text.join " AND " (conjuncts 0 conditions)

/-- A column as statements write it, if it is accepted. -/
def written (column : Value) : String :=
  (Sql.column column).toOption.getD ""

def writtenShapes (shapes : List Shape) : List (String × Mark) :=
  shapes.map fun (column, mark) => (written column, mark)

def unnamed (marks : List Mark) : List (String × Mark) :=
  marks.map fun mark => ("", mark)

variable {filter : Value} {condition : Condition} {conditions : List Condition} {index : Nat}
  {text name : String} {bound : List Parameter} {mark : Mark}
  {parts : List (String × List Parameter)}

theorem written_of_column {column : Value} (accepted : Sql.column column = .ok name) :
    written column = name := by
  rw [written, accepted]
  rfl

theorem toSql_eq_ok (made : condition.toSql index = .ok (text, bound)) :
    IsQuoted (written condition.column) ∧
      text = written condition.column ++ ending index condition.shape.2 := by
  obtain ⟨name, accepted, rest⟩ := Compile.bind_eq_ok made
  rw [written_of_column accepted]
  refine ⟨isQuoted_of_column accepted, ?_⟩
  obtain ⟨column, comparison, value⟩ := condition
  simp only [Condition.shape] at rest ⊢
  split at rest
  · rename_i null
    rw [null]
    cases comparison with
    | eq =>
        cases rest
        rfl
    | ne =>
        cases rest
        rfl
    | _ => cases rest
  · rename_i given
    rw [Bool.not_eq_true] at given
    cases rest
    rw [given]
    simp only [ending, String.append_assoc, Bool.false_eq_true, if_false]

theorem toSqlFrom_eq_ok (made : Condition.toSqlFrom index conditions = .ok parts) :
    (∀ shape ∈ conditions.map Condition.shape, IsQuoted (written shape.1)) ∧
      parts.map (·.1) = conjuncts index (writtenShapes (conditions.map Condition.shape)) := by
  induction conditions generalizing index parts with
  | nil =>
      cases made
      exact ⟨by simp, rfl⟩
  | cons condition conditions ih =>
      obtain ⟨⟨text, bound⟩, first, rest⟩ := Compile.bind_eq_ok made
      obtain ⟨later, following, rest⟩ := Compile.bind_eq_ok rest
      cases rest
      obtain ⟨quoted, spelled⟩ := toSql_eq_ok first
      obtain ⟨all_quoted, all_spelled⟩ := ih following
      refine ⟨List.forall_mem_cons.mpr ⟨quoted, all_quoted⟩, ?_⟩
      rw [List.map_cons, spelled, all_spelled]
      rfl

theorem isEmpty_conjuncts (index : Nat) (conditions : List (String × Mark)) :
    (conjuncts index conditions).isEmpty = conditions.isEmpty := by
  cases conditions <;> rfl

/-- The clause of an accepted filter shows nothing of the values. -/
theorem whereClause_eq_ok (made : whereClause filter = .ok (text, bound)) :
    ∃ shapes, shapesOf filter = .ok shapes ∧ text = clause (writtenShapes shapes) ∧
      ∀ shape ∈ shapes, IsQuoted (written shape.1) := by
  obtain ⟨conditions, normalized, rest⟩ := Compile.bind_eq_ok made
  obtain ⟨parts, spelled, rest⟩ := Compile.bind_eq_ok rest
  obtain ⟨quoted, texts⟩ := toSqlFrom_eq_ok spelled
  have shapes : shapesOf filter = .ok (conditions.map Condition.shape) := by
    rw [shapesOf, normalized]
    rfl
  refine ⟨_, shapes, ?_, quoted⟩
  have empty : parts.isEmpty = (writtenShapes (conditions.map Condition.shape)).isEmpty := by
    rw [← isEmpty_conjuncts 0, ← texts, List.isEmpty_map]
  dsimp only at rest
  rw [empty, texts] at rest
  unfold clause
  split at rest
  · rename_i none_there
    cases rest
    rw [if_pos none_there]
  · rename_i some_there
    cases rest
    rw [if_neg some_there]

theorem plain_parameterName (index : Nat) : Plain (Condition.parameterName index) := by
  apply Plain.append (by decide)
  intro member
  have digits : (Number.renderInt (index : Nat)).toList = Nat.toDigits 10 index :=
    String.toList_ofList
  rw [digits] at member
  have digit := Nat.isDigit_of_mem_toDigits (by decide) (by decide) member
  cases digit

theorem plain_ending (index : Nat) (mark : Mark) : Plain (ending index mark) := by
  have symbol (comparison : Comparison) : Plain (" " ++ comparison.symbol ++ " @") := by
    cases comparison <;> decide
  unfold ending
  split
  · split <;> decide
  · exact (symbol mark.1).append (plain_parameterName index)

theorem erases_conjuncts {shapes : List Shape} (quoted : ∀ shape ∈ shapes, IsQuoted (written shape.1))
    (index : Nat) :
    List.Forall₂ Erases (conjuncts index (writtenShapes shapes))
      (conjuncts index (unnamed (shapes.map (·.2)))) := by
  induction shapes generalizing index with
  | nil => exact .nil
  | cons shape shapes ih =>
      obtain ⟨own, later⟩ := List.forall_mem_cons.mp quoted
      have first := own.erases.append (erases_of_plain (plain_ending index shape.2))
      exact .cons first (ih later (index + 1))

theorem erases_clause {shapes : List Shape}
    (quoted : ∀ shape ∈ shapes, IsQuoted (written shape.1)) :
    Erases (clause (writtenShapes shapes)) (clause (unnamed (shapes.map (·.2)))) := by
  have empty : (writtenShapes shapes).isEmpty = (unnamed (shapes.map (·.2))).isEmpty := by
    simp [writtenShapes, unnamed]
  unfold clause
  rw [empty]
  split
  · exact erases_of_plain (by decide)
  · have joined : Erases (Text.join " AND " _) (Text.join " AND " _) :=
      erases_join (by decide) (erases_conjuncts quoted 0)
    exact (erases_of_plain (by decide)).append joined

theorem clause_eq_empty (conditions : List (String × Mark)) :
    clause conditions = "" ↔ conditions = [] := by
  unfold clause
  cases conditions with
  | nil => simp
  | cons first rest => simp

end Sql

namespace Compile

open Sql

/-- A line with closed segments, which is empty only if nothing is left of it. -/
structure ErasesLine (line left : String) : Prop extends Erases line left where
  empty : line = "" ↔ left = ""

variable {line lineLeft text rest : String} {lines linesLeft : List String}

theorem erasesLine_of_plain (plain : Plain line) : ErasesLine line line :=
  ⟨erases_of_plain plain, Iff.rfl⟩

/-- Behind the start of a line, which is not empty, anything may follow. -/
theorem erasesLine_of_start (plain : Plain line) (given : line ≠ "") (behind : Erases text rest) :
    ErasesLine (line ++ text) (line ++ rest) where
  toErases := (erases_of_plain plain).append behind
  empty := by simp [given]

theorem ErasesLine.append_plain (start : ErasesLine line lineLeft) (plain : Plain text) :
    ErasesLine (line ++ text) (lineLeft ++ text) where
  toErases := start.toErases.append (erases_of_plain plain)
  empty := by
    rw [String.append_eq_empty_iff, String.append_eq_empty_iff, start.empty]

theorem erases_joinLines (each : List.Forall₂ ErasesLine lines linesLeft) :
    Erases (joinLines lines) (joinLines linesLeft) := by
  have kept : List.Forall₂ Erases (lines.filter (· != "")) (linesLeft.filter (· != "")) := by
    induction each with
    | nil => exact .nil
    | @cons line lineLeft lines linesLeft first _ ih =>
        have alike : (line != "") = (lineLeft != "") := by
          rw [Bool.eq_iff_iff, bne_iff_ne, bne_iff_ne]
          exact not_congr first.empty
        rw [List.filter_cons, List.filter_cons, alike]
        split
        · exact .cons first.toErases ih
        · exact ih
  exact erases_join (by decide) kept

variable {results date keys target condition conditionLeft : String} {d e : Definition}
  {check other : CompiledCheck} {kind : CheckKind}

theorem erasesLine_insertLine (quoted : Erases results "") :
    ErasesLine (insertLine results) (insertLine "") := by
  have start : ErasesLine ("INSERT INTO " ++ results) ("INSERT INTO " ++ "") :=
    erasesLine_of_start (by decide) (by decide) quoted
  have columns : Plain resultColumns := by decide
  exact ((start.append_plain (by decide)).append_plain columns).append_plain (by decide)

theorem erases_freshnessStatement (results_quoted : Erases results "") (date_quoted : Erases date "")
    (target_quoted : Erases target "") (clause_left : ErasesLine condition conditionLeft) :
    Erases (freshnessStatement results date target condition)
      (freshnessStatement "" "" "" conditionLeft) := by
  apply erases_joinLines
  simp only [List.forall₂_cons, List.Forall₂.nil, and_true]
  and_intros
  -- lines without names stay as they are
  any_goals exact erasesLine_of_plain (by decide)
  · exact erasesLine_insertLine results_quoted
  · exact (erasesLine_of_start (by decide) (by decide) date_quoted).append_plain (by decide)
  · exact (erasesLine_of_start (by decide) (by decide) date_quoted).append_plain (by decide)
  · exact erasesLine_of_start (by decide) (by decide) target_quoted
  · exact clause_left

theorem erases_uniquenessStatement {keysLeft : String} (results_quoted : Erases results "")
    (keys_left : Erases keys keysLeft) (target_quoted : Erases target "")
    (clause_left : ErasesLine condition conditionLeft) :
    Erases (uniquenessStatement results keys target condition)
      (uniquenessStatement "" keysLeft "" conditionLeft) := by
  have indented : ErasesLine (if condition = "" then "" else "  " ++ condition)
      (if conditionLeft = "" then "" else "  " ++ conditionLeft) := by
    simp only [clause_left.empty]
    split
    · exact erasesLine_of_plain (by decide)
    · exact erasesLine_of_start (by decide) (by decide) clause_left.toErases
  apply erases_joinLines
  simp only [List.forall₂_cons, List.Forall₂.nil, and_true]
  and_intros
  any_goals exact erasesLine_of_plain (by decide)
  · exact erasesLine_insertLine results_quoted
  · exact erasesLine_of_start (by decide) (by decide) target_quoted
  · exact indented
  · exact (erasesLine_of_start (by decide) (by decide) keys_left).append_plain (by decide)
  · exact erasesLine_of_start (by decide) (by decide) keys_left

/-- The statement of a kind whose checks have a target, from what it is written of. -/
def template (kind : CheckKind) (results : String) (keys : List String) (target condition : String) :
    String :=
  match kind with
  | .freshness => freshnessStatement results (keys.headD "") target condition
  | .uniqueness => uniquenessStatement results (Text.join ", " keys) target condition
  | _ => ""

/-- The statement with empty names for so many key columns and a condition for each mark. -/
def outline (kind : CheckKind) (keys : Nat) (marks : List Mark) : String :=
  template kind "" (List.replicate keys "") "" (clause (unnamed marks))

theorem erases_template {columns : List String} {shapes : List Shape} (kind : CheckKind)
    (results_quoted : IsQuoted results) (target_quoted : IsQuoted target)
    (columns_quoted : ∀ column ∈ columns, IsQuoted column)
    (shapes_quoted : ∀ shape ∈ shapes, IsQuoted (written shape.1)) :
    Erases (template kind results columns target (clause (writtenShapes shapes)))
      (outline kind columns.length (shapes.map (·.2))) := by
  have nothing : Erases "" "" := erases_of_plain (by decide)
  have clause_left : ErasesLine (clause (writtenShapes shapes))
      (clause (unnamed (shapes.map (·.2)))) :=
    ⟨erases_clause shapes_quoted, by simp [clause_eq_empty, writtenShapes, unnamed]⟩
  unfold outline template
  cases kind with
  | freshness =>
      have blank : (List.replicate columns.length "").headD "" = "" := by cases columns <;> rfl
      dsimp only
      rw [blank]
      refine erases_freshnessStatement results_quoted.erases ?_ target_quoted.erases clause_left
      cases columns with
      | nil => exact nothing
      | cons date later => exact (columns_quoted date List.mem_cons_self).erases
  | uniqueness =>
      have joined : Erases (Text.join ", " columns)
          (Text.join ", " (List.replicate columns.length "")) :=
        erases_join (by decide) (erases_names columns_quoted)
      exact erases_uniquenessStatement results_quoted.erases joined target_quoted.erases clause_left
  | consistency => exact nothing
  | unsupported => exact nothing

variable {resultsTable : Value} {message otherMessage statement : String}
  {parameters : List Parameter}

theorem declared_eq_ok {α : Type} {found : Except Failure α} {value : α}
    (made : declared found = .ok value) : found = .ok value := by
  cases found with
  | ok first =>
      cases made
      rfl
  | error failure => cases made

theorem statement_of_checkOf (made : checkOf d kind statement parameters = .ok check) :
    check.statement = statement := by
  obtain ⟨schedule, rfl⟩ := checkOf_eq_ok made
  rfl

/-- What the template of a check is filled with: the names and the filter of its definition. -/
structure Filled (d : Definition) (kind : CheckKind) (results statement : String)
    (columns : List String) (target : String) (shapes : List Shape) : Prop where
  accepted : (d.keyColumns.mapM fun column => Sql.column (.text column)) = .ok columns
  located : Sql.target d.targetSchema d.targetTable = .ok target
  shaped : shapesOf d.rowFilter = .ok shapes
  quoted : ∀ shape ∈ shapes, IsQuoted (written shape.1)
  filled : statement = template kind results columns target (clause (writtenShapes shapes))

/-- What a check on a target rests on besides its filter: the key columns and the target as
statements write them, and a parameter of its own. -/
def ground (kind : CheckKind) (d : Definition) : Except Refusal (List String × String × Parameter) :=
  match kind with
  | .freshness => do
      let column ← dateColumn d
      let minutes ← agreedMinutes d
      let date ← declared (Sql.column (.text column))
      let target ← declared (Sql.target d.targetSchema d.targetTable)
      return ([date], target, ⟨"sla_minutes", "INT64", .int minutes⟩)
  | .uniqueness =>
      if d.keyColumns.isEmpty then
        .error (.reason .missingKeyColumn "UNIQUENESS requires key columns in columns_key")
      else do
        let columns ← declared (d.keyColumns.mapM fun column => Sql.column (.text column))
        let target ← declared (Sql.target d.targetSchema d.targetTable)
        return (columns, target, .ofText "keys" (.text (keyList d)))
  | _ => .error (unsupported d)

/-- Checks of the kinds with a target are made alike: the ground, then the filter. -/
theorem ofKind_eq_ground (other : kind ≠ .consistency) (d : Definition) (results : String) :
    ofKind kind d results = (do
      let (columns, target, own) ← ground kind d
      let (condition, bound) ← declared (Sql.whereClause d.rowFilter)
      checkOf d kind (template kind results columns target condition)
        (commonParameters d ++ [own] ++ bound)) := by
  cases kind with
  | freshness => simp only [ofKind, freshness, ground, template, bind_assoc, pure_bind, List.headD_cons]
  | uniqueness =>
      simp only [ofKind, uniqueness, ground, template]
      split
      · rfl
      · simp only [bind_assoc, pure_bind]
  | consistency => exact absurd rfl other
  | unsupported => rfl

theorem keyColumns_of_dateColumn {column : String} (found : dateColumn d = .ok column) :
    d.keyColumns = [column] := by
  unfold dateColumn at found
  split at found
  · cases found
  · rename_i only
    cases found
    exact only
  · cases found

theorem ground_eq_ok {columns : List String} {target : String} {own : Parameter}
    (found : ground kind d = .ok (columns, target, own)) :
    (d.keyColumns.mapM fun column => Sql.column (.text column)) = .ok columns ∧
      Sql.target d.targetSchema d.targetTable = .ok target := by
  cases kind with
  | freshness =>
      obtain ⟨column, key, rest⟩ := bind_eq_ok found
      obtain ⟨minutes, _, rest⟩ := bind_eq_ok rest
      obtain ⟨date, accepted, rest⟩ := bind_eq_ok rest
      obtain ⟨target, located, rest⟩ := bind_eq_ok rest
      cases rest
      refine ⟨?_, declared_eq_ok located⟩
      rw [keyColumns_of_dateColumn key, List.mapM_cons, declared_eq_ok accepted]
      rfl
  | uniqueness =>
      simp only [ground] at found
      split at found
      · cases found
      · obtain ⟨columns, accepted, rest⟩ := bind_eq_ok found
        obtain ⟨target, located, rest⟩ := bind_eq_ok rest
        cases rest
        exact ⟨declared_eq_ok accepted, declared_eq_ok located⟩
  | consistency => cases found
  | unsupported => cases found

theorem filled_of_ofKind (other : kind ≠ .consistency) (made : ofKind kind d results = .ok check) :
    ∃ columns target shapes, Filled d kind results check.statement columns target shapes := by
  rw [ofKind_eq_ground other] at made
  obtain ⟨⟨columns, target, own⟩, grounded, rest⟩ := bind_eq_ok made
  obtain ⟨⟨condition, bound⟩, filtered, rest⟩ := bind_eq_ok rest
  obtain ⟨accepted, located⟩ := ground_eq_ok grounded
  obtain ⟨shapes, shaped, spelled, quoted⟩ := whereClause_eq_ok (declared_eq_ok filtered)
  refine ⟨columns, target, shapes, accepted, located, shaped, quoted, ?_⟩
  rw [statement_of_checkOf rest, spelled]

/-- What a check on two queries rests on: the bodies of both and a threshold. -/
theorem consistency_of_ofKind (made : ofKind .consistency d results = .ok check) :
    ∃ source target sourceBody targetBody threshold ratio,
      d.sourceQuery.toTextOrEmpty "strip" = .ok source ∧
      d.targetQuery.toTextOrEmpty "strip" = .ok target ∧
      subquery (Text.stripText source) = .ok sourceBody ∧
      subquery (Text.stripText target) = .ok targetBody ∧
      thresholdOf d = .ok threshold ∧ threshold.toFloat = .ok ratio ∧
      checkOf d .consistency (consistencyStatement results sourceBody targetBody)
        (commonParameters d ++ [⟨"threshold_ratio", "FLOAT64", .float ratio⟩]) = .ok check := by
  obtain ⟨source, first, rest⟩ := bind_eq_ok made
  obtain ⟨target, second, rest⟩ := bind_eq_ok rest
  dsimp only at rest
  split at rest
  · cases rest
  · obtain ⟨sourceBody, first_body, rest⟩ := bind_eq_ok rest
    obtain ⟨targetBody, second_body, rest⟩ := bind_eq_ok rest
    obtain ⟨threshold, read, rest⟩ := bind_eq_ok rest
    obtain ⟨ratio, number, rest⟩ := bind_eq_ok rest
    exact ⟨source, target, sourceBody, targetBody, threshold, ratio, declared_eq_ok first,
      declared_eq_ok second, first_body, second_body, declared_eq_ok read, declared_eq_ok number,
      rest⟩

theorem queries_of_ofKind (made : ofKind .consistency d results = .ok check) :
    ∃ source target sourceBody targetBody,
      d.sourceQuery.toTextOrEmpty "strip" = .ok source ∧
      d.targetQuery.toTextOrEmpty "strip" = .ok target ∧
      subquery (Text.stripText source) = .ok sourceBody ∧
      subquery (Text.stripText target) = .ok targetBody ∧
      check.statement = consistencyStatement results sourceBody targetBody := by
  obtain ⟨source, target, sourceBody, targetBody, _, _, first, second, first_body, second_body, _, _,
    checked⟩ := consistency_of_ofKind made
  exact ⟨source, target, sourceBody, targetBody, first, second, first_body, second_body,
    statement_of_checkOf checked⟩

/-- Two definitions that declare the same of what the statement of a kind shows. -/
def SameShown (kind : CheckKind) (d e : Definition) : Prop :=
  match kind with
  | .consistency => d.sourceQuery = e.sourceQuery ∧ d.targetQuery = e.targetQuery
  | _ =>
      d.targetSchema = e.targetSchema ∧ d.targetTable = e.targetTable ∧
        d.keyColumns = e.keyColumns ∧ shapesOf d.rowFilter = shapesOf e.rowFilter

theorem statement_eq_of_sameShown (made : ofKind kind d results = .ok check)
    (made_other : ofKind kind e results = .ok other) (shown : SameShown kind d e) :
    check.statement = other.statement := by
  by_cases queries : kind = .consistency
  · subst queries
    obtain ⟨source, target, sourceBody, targetBody, first, second, first_body, second_body, told⟩ :=
      queries_of_ofKind made
    obtain ⟨source', target', sourceBody', targetBody', first', second', first_body', second_body',
      told'⟩ := queries_of_ofKind made_other
    obtain ⟨same_source, same_target⟩ := shown
    rw [same_source, first', Except.ok.injEq] at first
    rw [same_target, second', Except.ok.injEq] at second
    subst first second
    rw [first_body', Except.ok.injEq] at first_body
    rw [second_body', Except.ok.injEq] at second_body
    rw [told, told', first_body, second_body]
  · obtain ⟨columns, target, shapes, filled⟩ := filled_of_ofKind queries made
    obtain ⟨columns', target', shapes', filled'⟩ := filled_of_ofKind queries made_other
    have shown : d.targetSchema = e.targetSchema ∧ d.targetTable = e.targetTable ∧
        d.keyColumns = e.keyColumns ∧ shapesOf d.rowFilter = shapesOf e.rowFilter := by
      cases kind with
      | consistency => exact absurd rfl queries
      | _ => exact shown
    obtain ⟨schema, table, keys, same_shapes⟩ := shown
    have same_columns : columns = columns' :=
      Except.ok.inj (filled.accepted.symm.trans (keys ▸ filled'.accepted))
    have same_target : target = target' :=
      Except.ok.inj (filled.located.symm.trans (schema ▸ table ▸ filled'.located))
    have same_shapes : shapes = shapes' :=
      Except.ok.inj (filled.shaped.symm.trans (same_shapes.trans filled'.shaped))
    rw [filled.filled, filled'.filled, same_columns, same_target, same_shapes]

theorem Filled.erases {columns : List String} {target : String} {shapes : List Shape}
    (filled : Filled d kind results statement columns target shapes) (quoted : IsQuoted results) :
    Erases statement (outline kind d.keyColumns.length (shapes.map (·.2))) := by
  have columns_quoted : ∀ column ∈ columns, IsQuoted column := by
    intro column member
    obtain ⟨key, _, accepted⟩ := exists_of_mem_mapM filled.accepted member
    exact isQuoted_of_column accepted
  rw [filled.filled, (forall₂_of_mapM filled.accepted).length_eq]
  exact erases_template kind quoted (isQuoted_of_target filled.located) columns_quoted filled.quoted

/-- Statements show nothing but names, queries and the shape of a filter: two definitions of one
kind that agree on these have one statement, and the names come between back quotes that none of
them can close. -/
theorem statement_conceals (compiled : compile d resultsTable = .ok (.valid check message))
    (compiled_other : compile e resultsTable = .ok (.valid other otherMessage))
    (same_kind : d.kind = e.kind) :
    (SameShown check.kind d e → check.statement = other.statement) ∧
    (check.kind ≠ .consistency →
      (∃ shapes, shapesOf d.rowFilter = .ok shapes ∧
        Erases check.statement
          (outline check.kind d.keyColumns.length (shapes.map (·.2)))) ∧
      ∃ shapes, shapesOf e.rowFilter = .ok shapes ∧
        Erases other.statement
          (outline check.kind e.keyColumns.length (shapes.map (·.2)))) := by
  obtain ⟨results, kind, path, parsed, made⟩ := ofKind_of_compile compiled
  obtain ⟨results', kind', path', parsed', made'⟩ := ofKind_of_compile compiled_other
  have own_kind : check.kind = kind :=
    Except.ok.inj ((kind_of_valid compiled).symm.trans parsed)
  obtain rfl : results = results' := Except.ok.inj (path.symm.trans path')
  obtain rfl : kind = kind' :=
    Except.ok.inj (parsed.symm.trans (same_kind.trans parsed'))
  rw [own_kind]
  refine ⟨statement_eq_of_sameShown made made', fun named => ⟨?_, ?_⟩⟩
  · obtain ⟨columns, target, shapes, filled⟩ := filled_of_ofKind named made
    exact ⟨shapes, filled.shaped, filled.erases (isQuoted_of_pathOf path)⟩
  · obtain ⟨columns, target, shapes, filled⟩ := filled_of_ofKind named made'
    exact ⟨shapes, filled.shaped, filled.erases (isQuoted_of_pathOf path)⟩

/-- A key among the rows from an amount on, which is not the same for all. -/
def amountsFrom (checkId : String) (least : Int) (hasId : checkId ≠ "") : Definition where
  checkId := checkId
  checkName := .text "amounts"
  checkType := .text "UNIQUENESS"
  schedule := .text "daily"
  targetSchema := .text "s"
  targetTable := .text "t"
  keyColumns := ["id"]
  rowFilter := .list [.ofFields
    [("column", .text "amount"), ("op", .text ">="), ("value", .int least)]]
  slaMinutes := .null
  sourceQuery := .null
  targetQuery := .null
  thresholdRatio := .null
  isActive := .bool true
  createdAt := .null
  updatedAt := .null
  createdBy := .null
  updatedBy := .null
  hasId := hasId

theorem amounts_concealed :
    ∃ check other text otherText,
      compile (amountsFrom "a" 5 (by decide)) (.text "results") = .ok (.valid check text) ∧
      compile (amountsFrom "b" 900 (by decide)) (.text "results") = .ok (.valid other otherText) ∧
      check.statement = other.statement ∧
      Erases check.statement (outline .uniqueness 1 [(.ge, false)]) := by
  have now : ((compile (amountsFrom "a" 5 (by decide)) (.text "results")).toOption.bind
          Verdict.check?).isSome = true ∧
      ((compile (amountsFrom "b" 900 (by decide)) (.text "results")).toOption.bind
          Verdict.check?).isSome = true ∧
      (amountsFrom "a" 5 (by decide)).kind.toOption = some .uniqueness := by decide +kernel
  obtain ⟨compiles, compiles_other, parsed⟩ := now
  obtain ⟨check, text, compiled⟩ := valid_of_check? compiles
  obtain ⟨other, otherText, compiled_other⟩ := valid_of_check? compiles_other
  have kind : check.kind = .uniqueness := by
    rw [kind_of_valid compiled] at parsed
    exact Option.some.inj parsed
  have concealed := statement_conceals compiled compiled_other rfl
  rw [kind] at concealed
  obtain ⟨same, quoted⟩ := concealed
  obtain ⟨⟨shapes, shaped, erased⟩, _⟩ := quoted (by decide)
  have marks : shapes.map (·.2) = [(.ge, false)] := by
    cases shaped
    rfl
  rw [marks] at erased
  exact ⟨check, other, text, otherText, compiled, compiled_other,
    same ⟨rfl, rfl, rfl, rfl⟩, erased⟩

end Compile

end CheckKeeper
