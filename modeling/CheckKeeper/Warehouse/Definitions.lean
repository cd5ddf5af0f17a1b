import CheckKeeper.Warehouse.Client
import CheckKeeper.Check.Definition

namespace CheckKeeper.Warehouse.Definitions

/-! The table of definitions in the warehouse: one row for each declared check.

A definition is written by one statement that updates the row of its id or inserts
one; who created the row is written once.
-/

/-- The columns that are written, with their types. -/
def columns : List (String × String) :=
  [("check_id", "STRING"),
    ("check_name", "STRING"),
    ("check_type", "STRING"),
    ("target_schema", "STRING"),
    ("target_table", "STRING"),
    ("columns_key", "STRING"),
    ("row_filter", "STRING"),
    ("sla_minutes", "INT64"),
    ("source_query", "STRING"),
    ("target_query", "STRING"),
    ("threshold_ratio", "FLOAT64"),
    ("schedule", "STRING"),
    ("is_active", "BOOL"),
    ("created_by", "STRING"),
    ("updated_by", "STRING")]

def columnNames : List String :=
  columns.map (·.1)

/-- The columns that an update sets. -/
def updatedColumns : List String :=
  columnNames.filter fun name => !(["check_id", "created_by"].contains name)

def byId (checkId : String) : List Parameter :=
  [.ofText "check_id" (.text checkId)]

def selectOne (table checkId : String) : Query :=
  ⟨"SELECT * FROM " ++ table ++ " WHERE check_id = @check_id LIMIT 1", byId checkId⟩

def selectAll (table : String) : Query :=
  ⟨"SELECT * FROM " ++ table ++ " ORDER BY check_id", []⟩

def deleteOne (table checkId : String) : Query :=
  ⟨"DELETE FROM " ++ table ++ " WHERE check_id = @check_id", byId checkId⟩

def mergeText (table : String) : String :=
  let sets := Text.join ", " (updatedColumns.map fun name => name ++ " = @" ++ name)
  let names := Text.join ", " columnNames
  let values := Text.join ", " (columnNames.map fun name => "@" ++ name)
  "MERGE " ++ table ++ " T USING (SELECT @check_id AS check_id) S ON T.check_id = S.check_id " ++
    "WHEN MATCHED THEN UPDATE SET " ++ sets ++ ", updated_at = CURRENT_TIMESTAMP() " ++
    "WHEN NOT MATCHED THEN INSERT (" ++ names ++ ", created_at, updated_at) VALUES (" ++ values ++
    ", CURRENT_TIMESTAMP(), CURRENT_TIMESTAMP())"

def merge (table : String) (row : List (String × Value)) : Query :=
  ⟨mergeText table, columns.map fun (name, type) => ⟨name, type, (row.lookup name).getD .null⟩⟩

def get (table checkId : String) : Remote (Option Definition) := do
  let found ← Remote.execute .store ("Reading definition " ++ checkId) (selectOne table checkId)
  match found.rows with
  | [] => return none
  | row :: _ => .ofExcept ((Definition.ofRow row).map some)

/-- Writes a definition, unless its id is declared with another kind. -/
def put (table : String) (d : Definition) : Remote Unit := do
  if let some existing ← get table d.checkId then
    .ofExcept (existing.checkKind d)
  let row ← .ofExcept d.toRow
  let _ ← Remote.execute .store ("Upserting definition " ++ d.checkId) (merge table row)

def delete (table checkId : String) : Remote Bool := do
  let done ← Remote.execute .store ("Deleting definition " ++ checkId) (deleteOne table checkId)
  return changedRows done.affected

def list (table : String) : Remote (List Definition) := do
  let found ← Remote.execute .store "Listing definitions" (selectAll table)
  .ofExcept (found.rows.mapM Definition.ofRow)

end CheckKeeper.Warehouse.Definitions
