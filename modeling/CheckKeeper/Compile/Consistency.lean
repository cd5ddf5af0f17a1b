import CheckKeeper.Compile.Refusal

namespace CheckKeeper.Compile

/-! Consistency: two queries must agree on every metric that both have.

Every row of a query is turned into pairs of a metric and its value, and the pairs
of one metric are compared.  Where nothing is declared, a hundredth is allowed.
-/

/-- The lines that turn the rows of a query into metrics. -/
def metricsPart (name rows : String) : String :=
  joinLines [
    name ++ " AS (",
    "  SELECT metric, LAX_FLOAT64(row_json[metric]) AS value",
    "  FROM (SELECT TO_JSON(r) AS row_json FROM " ++ rows ++ " AS r),",
    "    UNNEST(JSON_KEYS(row_json, 1)) AS metric",
    ")"]

def consistencyStatement (results source target : String) : String :=
  joinLines [
    insertLine results,
    "WITH source_rows AS (",
    source,
    "),",
    "target_rows AS (",
    target,
    "),",
    metricsPart "source_metrics" "source_rows" ++ ",",
    metricsPart "target_metrics" "target_rows" ++ ",",
    "diffs AS (",
    "  SELECT",
    "    s.metric,",
    "    s.value AS source_value,",
    "    t.value AS target_value,",
    "    CASE",
    "      WHEN s.value = 0 AND t.value = 0 THEN 0",
    "      WHEN s.value = 0 OR t.value = 0 THEN 1",
    "      ELSE ABS(s.value - t.value) / ABS(s.value)",
    "    END AS rel_diff",
    "  FROM source_metrics AS s",
    "  JOIN target_metrics AS t ON s.metric = t.metric",
    "  WHERE s.value IS NOT NULL AND t.value IS NOT NULL",
    ")",
    "SELECT",
    "  @check_id,",
    "  @check_name,",
    "  'CONSISTENCY',",
    "  CASE WHEN COUNTIF(rel_diff > @threshold_ratio) > 0 THEN 'KO' ELSE 'OK' END,",
    "  COALESCE(",
    "    JSON_OBJECT(",
    "      ARRAY_AGG(metric ORDER BY metric),",
    "      ARRAY_AGG(STRUCT(source_value, target_value, rel_diff) ORDER BY metric)",
    "    ),",
    "    JSON '\x7b\x7d'",
    "  ),",
    "  @run_time",
    "FROM diffs"]

def defaultThreshold : Float := 0.01

/-- The threshold as declared, or the default one if there is none above nought. -/
def thresholdOf (d : Definition) : Except Failure Value := do
  if d.thresholdRatio.isNull then return .float defaultThreshold
  else if ← d.thresholdRatio.isAtMost (.int 0) then return .float defaultThreshold
  else return d.thresholdRatio

def consistency (d : Definition) (results : String) : Except Refusal CompiledCheck := do
  let source := Text.stripText (← declared (d.sourceQuery.toTextOrEmpty "strip"))
  let target := Text.stripText (← declared (d.targetQuery.toTextOrEmpty "strip"))
  if source = "" || target = "" then
    .error (.reason .missingQuery "CONSISTENCY requires both source_query and target_query")
  else
    let sourceBody ← subquery source
    let targetBody ← subquery target
    let threshold ← declared (thresholdOf d)
    let ratio ← declared threshold.toFloat
    checkOf d .consistency (consistencyStatement results sourceBody targetBody)
      (commonParameters d ++ [⟨"threshold_ratio", "FLOAT64", .float ratio⟩])

end CheckKeeper.Compile
