import CheckKeeper.Preview.Evaluate
import CheckKeeper.Proofs.Conjunction

namespace CheckKeeper.Preview

open Calendar Sql Compile

/-! Previews of checks on a target.

Such a preview filters the sample rows by the clause of the statement, and then looks at what is
left of them.  It does so at a point in time, which is that of the run, or now if none is given.
-/

variable {d : Definition} {check : CompiledCheck} {message : String} {resultsTable source target : Value}
  {rows : List Row} {runTime : Option Moment} {now : Moment}

/-- Sample rows as they are handed over. -/
def rowList (rows : List Row) : Value :=
  .list (rows.map .record)

/-- Where the filter asks for an order, the cells of the rows have one. -/
def Fits (d : Definition) (rows : List Row) : Prop :=
  ∀ conditions, Condition.ofFilter d.rowFilter = .ok conditions →
    ∀ row ∈ rows, ∀ condition ∈ conditions, Suits condition row

theorem Fits.of_subset {more : List Row} (fits : Fits d more) (subset : rows ⊆ more) : Fits d rows :=
  fun conditions normalized row member => fits conditions normalized row (subset member)

theorem exists_whereClause (compiled : compile d resultsTable = .ok (.valid check message))
    (targeted : check.kind ≠ .consistency) :
    ∃ clause, whereClause d.rowFilter = .ok clause := by
  obtain ⟨results, _, made⟩ := ofKind_of_valid compiled
  rw [ofKind_eq_ground targeted] at made
  obtain ⟨_, _, rest⟩ := bind_eq_ok made
  obtain ⟨clause, filtered, _⟩ := bind_eq_ok rest
  exact ⟨clause, declared_eq_ok filtered⟩

/-- Whether a row passes the filter of a valid check does not depend on the other rows. -/
theorem exists_filter (compiled : compile d resultsTable = .ok (.valid check message))
    (targeted : check.kind ≠ .consistency) :
    ∃ passed : Row → Bool, ∀ rows, Fits d rows →
      filterRows d.rowFilter (rows.map .record) = .ok ((rows.filter passed).map .record) := by
  obtain ⟨⟨text, bound⟩, accepted⟩ := exists_whereClause compiled targeted
  obtain ⟨_, predicates, _, read, _⟩ := readClause_of_whereClause accepted
  refine ⟨passes predicates, fun rows fits => ?_⟩
  obtain ⟨found, again, _, kept⟩ := filterRows_as_clause accepted fits
  obtain rfl : predicates = found := Option.some.inj (read.symm.trans again)
  exact kept

theorem kept_unique {filter : Value} {samples : List Value} {kept others : List Row}
    (filtered : filterRows filter samples = .ok (kept.map .record))
    (again : filterRows filter samples = .ok (others.map .record)) : kept = others := by
  have injective : Function.Injective Value.record := fun _ _ => Value.record.inj
  exact List.map_injective_iff.mpr injective (Except.ok.inj (filtered.symm.trans again))

theorem samplesOf_rowList (rows : List Row) : samplesOf (rowList rows) = .ok (rows.map .record) := by
  cases rows <;> rfl

theorem cell_record (column : String) (row : Row) : cell column (.record row) = .ok (row.get column) :=
  rfl

/-- The point in time that a preview is made for. -/
def runAt (runTime : Option Moment) (now : Moment) : Moment :=
  (runTime.map Moment.inUtc).getD now

/-- What a preview of a check on a target finds. -/
def findings (kind : CheckKind) (d : Definition) (rows : List Row) (runTime : Moment) :
    Except Failure (ResultStatus × Value) :=
  match kind with
  | .freshness => freshness d (rows.map .record) runTime
  | _ => uniqueness d (rows.map .record)

/-- The result that tells what was found. -/
def report (d : Definition) (kind : CheckKind) (executedAt : Moment) (found : ResultStatus × Value) :
    CheckResult where
  checkId := .text d.checkId
  checkName := d.checkName
  checkType := .text kind.name
  status := found.1
  details := found.2
  executedAt := some executedAt

theorem evaluate_eq_report
    (compiled : compile d (.text defaultResultsTable) = .ok (.valid check message))
    (targeted : check.kind = .freshness ∨ check.kind = .uniqueness) :
    evaluate d ⟨rowList rows, source, target⟩ (.ofMoment? runTime) now =
      (findings check.kind d rows (runAt runTime now)).map
        (report d check.kind (runAt runTime now)) := by
  have clock : instantOf (.ofMoment? runTime) = .ok (runTime.map Moment.inUtc) := by
    cases runTime <;> rfl
  have moment : (runTime.map Moment.inUtc).getD now = runAt runTime now := rfl
  unfold evaluate
  rw [compiled]
  dsimp only [bind, Except.bind]
  rw [clock, samplesOf_rowList]
  dsimp only
  rw [moment]
  rcases targeted with kind | kind
  · rw [kind]
    dsimp only [findings]
    cases freshness d (rows.map .record) (runAt runTime now) <;> rfl
  · rw [kind]
    dsimp only [findings]
    cases uniqueness d (rows.map .record) <;> rfl

end CheckKeeper.Preview
