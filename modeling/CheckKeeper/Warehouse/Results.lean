import CheckKeeper.Warehouse.Jobs
import CheckKeeper.Result

namespace CheckKeeper.Warehouse.Results

/-! The table of results in the warehouse.  Jobs append to it; here it is only
read. -/

def recentQuery (table checkId : String) (limit : Int) : Query :=
  ⟨"SELECT check_id, check_name, check_type, result, details, executed_at FROM " ++ table ++
      " WHERE check_id = @check_id ORDER BY executed_at DESC LIMIT @limit",
    [.ofText "check_id" (.text checkId), ⟨"limit", "INT64", .int limit⟩]⟩

def recent (table checkId : String) (limit : Int) : Remote (List CheckResult) := do
  let found ← Remote.execute .store ("Reading results for " ++ checkId)
    (recentQuery table checkId limit)
  .ofExcept (found.rows.mapM fun row => Jobs.readColumn row "details" >>= CheckResult.ofRow)

end CheckKeeper.Warehouse.Results
