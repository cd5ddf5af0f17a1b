import CheckKeeper.Compile.Refusal

namespace CheckKeeper.Compile

/-! Uniqueness: no two rows may share their key.

The rows that pass the filter are grouped by the key columns, and the groups of
more than one row are counted.
-/

def uniquenessStatement (results keys target condition : String) : String :=
  joinLines [
    insertLine results,
    "WITH filtered AS (",
    "  SELECT * FROM " ++ target,
    if condition = "" then "" else "  " ++ condition,
    "),",
    "duplicates AS (",
    "  SELECT " ++ keys ++ ", COUNT(*) AS occurrences",
    "  FROM filtered",
    "  GROUP BY " ++ keys,
    "  HAVING COUNT(*) > 1",
    ")",
    "SELECT",
    "  @check_id,",
    "  @check_name,",
    "  'UNIQUENESS',",
    "  CASE WHEN COUNT(*) = 0 THEN 'OK' ELSE 'KO' END,",
    "  TO_JSON(STRUCT(",
    "    COUNT(*) AS duplicate_count,",
    "    @keys AS keys,",
    "    (SELECT COUNT(*) FROM filtered) AS total_rows",
    "  )),",
    "  @run_time",
    "FROM duplicates"]

/-- The names of the key columns, as results show them. -/
def keyList (d : Definition) : String :=
  Text.join "," d.keyColumns

def uniqueness (d : Definition) (results : String) : Except Refusal CompiledCheck := do
  if d.keyColumns.isEmpty then
    .error (.reason .missingKeyColumn "UNIQUENESS requires key columns in columns_key")
  else
    let columns ← declared (d.keyColumns.mapM fun column => Sql.column (.text column))
    let target ← declared (Sql.target d.targetSchema d.targetTable)
    let (condition, bound) ← declared (Sql.whereClause d.rowFilter)
    checkOf d .uniqueness (uniquenessStatement results (Text.join ", " columns) target condition)
      (commonParameters d ++ [.ofText "keys" (.text (keyList d))] ++ bound)

end CheckKeeper.Compile
