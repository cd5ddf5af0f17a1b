import CheckKeeper.Check.Kind
import CheckKeeper.Json.Writer

namespace CheckKeeper

/-! Declared checks.

A definition is one row of the table that operators write to.  It always has an
id.  The other columns hold what the operator wrote there; whether that makes a
check is for the compiler to say.
-/

structure Definition where
  checkId : String
  checkName : Value
  checkType : Value
  schedule : Value
  targetSchema : Value
  targetTable : Value
  keyColumns : List String
  rowFilter : Value
  slaMinutes : Value
  sourceQuery : Value
  targetQuery : Value
  thresholdRatio : Value
  isActive : Value
  createdAt : Value
  updatedAt : Value
  createdBy : Value
  updatedBy : Value
  hasId : checkId ≠ ""

/-- The key columns that a value names: a text names them between commas, anything
else item by item.  Blanks around a name do not count, nor do empty names. -/
def readKeyColumns (value : Value) : Except Failure (List String) := do
  let names ←
    match value with
    | .null => pure []
    | .text content => pure (Text.splitText ',' content)
    | other => do
        let items ← other.toItems
        (items.filter (!·.isNull)).mapM Value.written
  return (names.map Text.stripText).filter (· != "")

/-- The row filter that a value declares: a text is read as JSON, and stays a text
if it is none.  A blank text declares no filter. -/
def readRowFilter (value : Value) : Except Failure Value :=
  match value with
  | .text content =>
      if Text.isBlankText content then .ok .null
      else
        match Json.read content with
        | .ok filter => .ok filter
        | .error .malformed => .ok (.text content)
        | .error fault => .error fault.toFailure
  | other => .ok other

def readUnlessNull (read : Value → Except Failure Value) (value : Value) : Except Failure Value :=
  if value.isNull then .ok .null else read value

namespace Definition

/-- The fields of a definition before it is known that it has an id. -/
structure Draft where
  checkId : Value
  checkName : Value := .null
  checkType : Value := .null
  schedule : Value := .text ""
  targetSchema : Value := .null
  targetTable : Value := .null
  keyColumns : Value := .null
  rowFilter : Value := .null
  slaMinutes : Value := .null
  sourceQuery : Value := .null
  targetQuery : Value := .null
  thresholdRatio : Value := .null
  isActive : Value := .bool true
  createdAt : Value := .null
  updatedAt : Value := .null
  createdBy : Value := .null
  updatedBy : Value := .null

/-- The names that a draft knows its fields by. -/
def Draft.set (draft : Draft) (field : String) (value : Value) : Option Draft :=
  match field with
  | "check_id" => some { draft with checkId := value }
  | "check_name" => some { draft with checkName := value }
  | "check_type" => some { draft with checkType := value }
  | "schedule" => some { draft with schedule := value }
  | "target_schema" => some { draft with targetSchema := value }
  | "target_table" => some { draft with targetTable := value }
  | "key_columns" => some { draft with keyColumns := value }
  | "row_filter" => some { draft with rowFilter := value }
  | "sla_minutes" => some { draft with slaMinutes := value }
  | "source_query" => some { draft with sourceQuery := value }
  | "target_query" => some { draft with targetQuery := value }
  | "threshold_ratio" => some { draft with thresholdRatio := value }
  | "is_active" => some { draft with isActive := value }
  | "created_at" => some { draft with createdAt := value }
  | "updated_at" => some { draft with updatedAt := value }
  | "created_by" => some { draft with createdBy := value }
  | "updated_by" => some { draft with updatedBy := value }
  | _ => none

/-- Sets fields one after another; a name that no field has is refused. -/
def Draft.setAll (draft : Draft) : List (String × Value) → Except Failure Draft
  | [] => .ok draft
  | (field, value) :: rest =>
      match draft.set field value with
      | some changed => changed.setAll rest
      | none => .error (.misuse (.unknownField "CheckDefinition" field))

def ofDraft (draft : Draft) : Except Failure Definition :=
  if draft.checkId.isGiven then
    let checkId := draft.checkId.plain
    if hasId : checkId ≠ "" then do
      let keyColumns ← readKeyColumns draft.keyColumns
      return {
        checkId, keyColumns, hasId
        checkName := draft.checkName, checkType := draft.checkType
        schedule := draft.schedule
        targetSchema := draft.targetSchema, targetTable := draft.targetTable
        rowFilter := draft.rowFilter, slaMinutes := draft.slaMinutes
        sourceQuery := draft.sourceQuery, targetQuery := draft.targetQuery
        thresholdRatio := draft.thresholdRatio, isActive := draft.isActive
        createdAt := draft.createdAt, updatedAt := draft.updatedAt
        createdBy := draft.createdBy, updatedBy := draft.updatedBy }
    else .error (.rule .noCheckId)
  else .error (.rule .noCheckId)

def toDraft (d : Definition) : Draft where
  checkId := .text d.checkId
  checkName := d.checkName
  checkType := d.checkType
  schedule := d.schedule
  targetSchema := d.targetSchema
  targetTable := d.targetTable
  keyColumns := .ofTexts d.keyColumns
  rowFilter := d.rowFilter
  slaMinutes := d.slaMinutes
  sourceQuery := d.sourceQuery
  targetQuery := d.targetQuery
  thresholdRatio := d.thresholdRatio
  isActive := d.isActive
  createdAt := d.createdAt
  updatedAt := d.updatedAt
  createdBy := d.createdBy
  updatedBy := d.updatedBy

def withChanges (d : Definition) (changes : List (String × Value)) : Except Failure Definition := do
  ofDraft (← d.toDraft.setAll changes)

/-- The fields that a new definition cannot do without. -/
def requiredFields : List String :=
  ["check_id", "check_name", "check_type"]

def ofFields (fields : List (String × Value)) : Except Failure Definition := do
  let draft ← Draft.setAll { checkId := .null } fields
  match requiredFields.find? fun field => !fields.any (·.1 == field) with
  | some absent => .error (.misuse (.missingField "CheckDefinition" absent))
  | none => ofDraft draft

/-- The key columns of a row, under the first of the two names that it has. -/
def keyColumnsOf (row : Row) : Value :=
  (row.find? "columns_key").getD (row.get "key_columns")

/-- Reads a definition from a row of the table or an entry of a file. -/
def ofRow (row : Row) : Except Failure Definition := do
  let checkId ← (← row.require "check_id").written
  let keyColumns ← readKeyColumns (keyColumnsOf row)
  let rowFilter ← readRowFilter (row.get "row_filter")
  let slaMinutes ← readUnlessNull (fun v => v.toInt.map .int) (row.get "sla_minutes")
  let thresholdRatio ← readUnlessNull (fun v => v.toFloat.map .float) (row.get "threshold_ratio")
  let createdAt ← readUnlessNull (fun v => v.toMoment.map .moment) (row.get "created_at")
  let updatedAt ← readUnlessNull (fun v => v.toMoment.map .moment) (row.get "updated_at")
  if hasId : checkId ≠ "" then
    return {
      checkId, hasId
      checkName := (row.get "check_name").orElse (.text checkId)
      checkType := (row.get "check_type").orElse (.text "")
      schedule := (row.get "schedule").orElse (.text "")
      targetSchema := row.get "target_schema", targetTable := row.get "target_table"
      keyColumns, rowFilter, slaMinutes
      sourceQuery := row.get "source_query", targetQuery := row.get "target_query"
      thresholdRatio
      isActive := .bool ((row.get "is_active").isNull || (row.get "is_active").isGiven)
      createdAt, updatedAt
      createdBy := row.get "created_by", updatedBy := row.get "updated_by" }
  else throw (.rule .noCheckId)

def kind (d : Definition) : Except Failure CheckKind :=
  CheckKind.parse d.checkType

/-- Refuses a new definition of another kind for an id that is declared. -/
def checkKind (old new : Definition) : Except Failure Unit := do
  let declared ← old.kind
  let requested ← new.kind
  if declared = requested then return ()
  else .error (.typeChange new.checkId old.checkType new.checkType)

/-- Whether the check is to have a job. -/
def active (d : Definition) : Bool :=
  d.isActive.isGiven

def timeText (value : Value) : Except Failure Value :=
  if value.isGiven then
    match value with
    | .moment point => .ok (.text point.render)
    | .day date => .ok (.text date.render)
    | other => .error (.noMember other.typeName "isoformat")
  else .ok .null

def filterText (d : Definition) : Except Failure Value :=
  if d.rowFilter.isNull then .ok .null
  else (Json.dump .strict d.rowFilter).map Value.text

/-- The row that stands for the definition in the table. -/
def toRow (d : Definition) : Except Failure (List (String × Value)) := do
  let rowFilter ← d.filterText
  let createdAt ← timeText d.createdAt
  let updatedAt ← timeText d.updatedAt
  return [
    ("check_id", .text d.checkId),
    ("check_name", d.checkName),
    ("check_type", d.checkType),
    ("target_schema", d.targetSchema),
    ("target_table", d.targetTable),
    ("columns_key", (Value.text (Text.join "," d.keyColumns)).orElse .null),
    ("row_filter", rowFilter),
    ("sla_minutes", d.slaMinutes),
    ("source_query", d.sourceQuery),
    ("target_query", d.targetQuery),
    ("threshold_ratio", d.thresholdRatio),
    ("schedule", d.schedule),
    ("is_active", d.isActive),
    ("created_at", createdAt),
    ("updated_at", updatedAt),
    ("created_by", d.createdBy),
    ("updated_by", d.updatedBy)]

/-- The target as declared, with a dot between schema and table. -/
def targetLocation (d : Definition) : Except Failure String :=
  (Value.textsFrom 0 ([d.targetSchema, d.targetTable].filter Value.isGiven)).map (Text.join ".")

end Definition

end CheckKeeper
