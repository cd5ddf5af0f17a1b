import CheckKeeper.Compile.Refusal

namespace CheckKeeper.Compile

/-! Freshness: the newest date of the target must not be older than is agreed.

The boundary itself is fresh.  A target without dates is stale.
-/

/-- The agreed age in minutes: a number above nought. -/
def agreedMinutes (d : Definition) : Except Refusal Int := do
  let unusable := Refusal.reason .invalidParameter "FRESHNESS requires a positive sla_minutes"
  if d.slaMinutes.isNull then .error unusable
  else if ← declared (d.slaMinutes.isAtMost (.int 0)) then .error unusable
  else declared d.slaMinutes.toInt

def dateColumn (d : Definition) : Except Refusal String :=
  match d.keyColumns with
  | [] => .error (.reason .missingKeyColumn "FRESHNESS requires a date column in columns_key")
  | [column] => .ok column
  | columns =>
      .error (.reason .invalidParameter
        ("FRESHNESS expects a single date column, got " ++ Text.join ", " columns))

def freshnessStatement (results date target condition : String) : String :=
  joinLines [
    insertLine results,
    "SELECT",
    "  @check_id,",
    "  @check_name,",
    "  'FRESHNESS',",
    "  CASE",
    "    WHEN TIMESTAMP(MAX(" ++ date ++
      ")) >= TIMESTAMP_SUB(@run_time, INTERVAL @sla_minutes MINUTE)",
    "    THEN 'OK'",
    "    ELSE 'KO'",
    "  END,",
    "  TO_JSON(STRUCT(",
    "    TIMESTAMP(MAX(" ++ date ++ ")) AS max_date,",
    "    @sla_minutes AS sla_minutes,",
    "    COUNT(*) AS total_rows",
    "  )),",
    "  @run_time",
    "FROM " ++ target,
    condition]

def freshness (d : Definition) (results : String) : Except Refusal CompiledCheck := do
  let column ← dateColumn d
  let minutes ← agreedMinutes d
  let date ← declared (Sql.column (.text column))
  let target ← declared (Sql.target d.targetSchema d.targetTable)
  let (condition, bound) ← declared (Sql.whereClause d.rowFilter)
  checkOf d .freshness (freshnessStatement results date target condition)
    (commonParameters d ++ [⟨"sla_minutes", "INT64", .int minutes⟩] ++ bound)

end CheckKeeper.Compile
