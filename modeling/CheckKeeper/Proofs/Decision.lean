import CheckKeeper.Proofs.FilterFaults
import CheckKeeper.Proofs.Statement

namespace CheckKeeper

/-! Which definitions the compiler decides.

A fault of a definition whose columns are of their types is a reason to be given, wherever it
lies.  What is looked at comes in an order: the filter is last, so that one that cannot be looked
at does no harm where there is another reason before it.
-/

namespace Compile

open Sql

variable {α : Type} {d : Definition} {kind : CheckKind} {results : String} {resultsTable : Value}
  {scheduled : Bool}

def IsReason : Refusal → Prop
  | .reason _ _ => True
  | .failure _ => False

/-- The columns of the definition are of their types, and its filter can be shown. -/
structure WellTyped (d : Definition) : Prop where
  checkType : ∃ content, d.checkType = .text content
  schedule : ∃ content, d.schedule = .text content
  schema : d.targetSchema.TextOrNull
  table : d.targetTable.TextOrNull
  source : d.sourceQuery.TextOrNull
  target : d.targetQuery.TextOrNull
  minutes : d.slaMinutes = .null ∨ ∃ number, d.slaMinutes = .int number
  threshold : d.thresholdRatio = .null ∨ ∃ ratio, d.thresholdRatio = .float ratio
  filter : d.rowFilter.IsShown

theorem failsIn_declared {found : Except Failure α} (faults : FailsIn IsFault found) :
    FailsIn IsReason (declared found) := by
  cases found with
  | ok value => exact failsIn_ok value
  | error failure =>
      have known := faults failure rfl
      cases failure with
      | identifier fault => exact failsIn_error trivial
      | rowFilter fault => exact failsIn_error trivial
      | _ => exact known.elim

theorem failsIn_read {β : Type} {found : Except Failure α} {value : α} {next : α → Except Refusal β}
    (read : found = .ok value) (rest : FailsIn IsReason (next value)) :
    FailsIn IsReason (declared found >>= next) := by
  rw [read]
  exact rest

theorem failsIn_subquery (sql : String) : FailsIn IsReason (subquery sql) := by
  unfold subquery
  cases Sql.prepare sql with
  | ok body => exact failsIn_ok body
  | error fault => exact failsIn_error trivial

theorem failsIn_dateColumn (d : Definition) : FailsIn IsReason (dateColumn d) := by
  unfold dateColumn
  split
  · exact failsIn_error trivial
  · exact failsIn_ok _
  · exact failsIn_error trivial

theorem WellTyped.agreedMinutes (typed : WellTyped d) : FailsIn IsReason (agreedMinutes d) := by
  unfold Compile.agreedMinutes
  rcases typed.minutes with absent | ⟨number, given⟩
  · rw [absent]
    exact failsIn_error trivial
  · rw [given]
    refine failsIn_bind (failsIn_ok _) fun low => ?_
    split
    · exact failsIn_error trivial
    · exact failsIn_ok _

theorem WellTyped.ground (typed : WellTyped d) (kind : CheckKind) :
    FailsIn IsReason (ground kind d) := by
  have target := failsIn_declared (failsIn_target typed.schema typed.table)
  unfold Compile.ground
  cases kind with
  | freshness =>
      refine failsIn_bind (failsIn_dateColumn d) fun column => ?_
      refine failsIn_bind typed.agreedMinutes fun minutes => ?_
      refine failsIn_bind (failsIn_declared (failsIn_column (Value.isShown_text column))) fun date => ?_
      exact failsIn_bind target fun _ => failsIn_ok _
  | uniqueness =>
      dsimp only
      split
      · exact failsIn_error trivial
      · refine failsIn_bind (failsIn_declared ?_) fun columns => ?_
        · exact failsIn_mapM fun column _ => failsIn_column (Value.isShown_text column)
        · exact failsIn_bind target fun _ => failsIn_ok _
  | consistency => exact failsIn_error trivial
  | unsupported => exact failsIn_error trivial

theorem WellTyped.checkOf (typed : WellTyped d) (kind : CheckKind) (statement : String)
    (parameters : List Parameter) :
    ∃ check, checkOf d kind statement parameters = .ok check := by
  obtain ⟨schedule, given⟩ := typed.schedule
  rw [checkOf_eq, given]
  exact ⟨_, rfl⟩

theorem WellTyped.failsIn_checkOf (typed : WellTyped d) (kind : CheckKind) (statement : String)
    (parameters : List Parameter) :
    FailsIn IsReason (Compile.checkOf d kind statement parameters) := by
  obtain ⟨check, made⟩ := typed.checkOf kind statement parameters
  rw [made]
  exact failsIn_ok check

/-- The threshold is a number without further ado. -/
theorem WellTyped.thresholdOf (typed : WellTyped d) : ∃ ratio, thresholdOf d = .ok (.float ratio) := by
  unfold Compile.thresholdOf
  rcases typed.threshold with absent | ⟨ratio, given⟩
  · rw [absent]
    exact ⟨_, rfl⟩
  · rw [given]
    have compared : ∃ low, (Value.float ratio).isAtMost (.int 0) = .ok low := ⟨_, rfl⟩
    obtain ⟨low, compared⟩ := compared
    rw [compared]
    cases low
    · exact ⟨ratio, rfl⟩
    · exact ⟨_, rfl⟩

theorem WellTyped.consistency (typed : WellTyped d) (results : String) :
    FailsIn IsReason (consistency d results) := by
  obtain ⟨source, source_read⟩ := typed.source.toTextOrEmpty "strip"
  obtain ⟨target, target_read⟩ := typed.target.toTextOrEmpty "strip"
  obtain ⟨ratio, threshold⟩ := typed.thresholdOf
  refine failsIn_read source_read ?_
  refine failsIn_read target_read ?_
  dsimp only
  split
  · exact failsIn_error trivial
  · refine failsIn_bind (failsIn_subquery _) fun sourceBody => ?_
    refine failsIn_bind (failsIn_subquery _) fun targetBody => ?_
    refine failsIn_read threshold ?_
    have number : (Value.float ratio).toFloat = .ok ratio := rfl
    refine failsIn_read number ?_
    exact typed.failsIn_checkOf _ _ _

theorem exists_toVerdict {found : Except Refusal CompiledCheck} (reasons : FailsIn IsReason found) :
    ∃ verdict, toVerdict d found = .ok verdict := by
  cases found with
  | ok check => exact ⟨_, rfl⟩
  | error refusal =>
      cases refusal with
      | reason reason text => exact ⟨_, rfl⟩
      | failure failure => exact (reasons _ rfl).elim

theorem compile_eq (path : pathOf resultsTable = .ok results)
    (schedule : hasSchedule d = .ok scheduled) (parsed : d.kind = .ok kind) :
    compile d resultsTable = (if (!scheduled && kind != .unsupported) = true then
        toVerdict d (.error (.reason .invalidParameter "schedule is required"))
      else toVerdict d (ofKind kind d results)) := by
  unfold compile
  rw [path, schedule, parsed]
  rfl

theorem WellTyped.exists_schedule (typed : WellTyped d) : ∃ scheduled, hasSchedule d = .ok scheduled := by
  obtain ⟨schedule, given⟩ := typed.schedule
  unfold Compile.hasSchedule
  rw [given]
  split
  · exact ⟨_, rfl⟩
  · exact ⟨_, rfl⟩

theorem exists_kind (cell : d.checkType.TextOrNull) : ∃ kind, d.kind = .ok kind := by
  obtain ⟨content, read⟩ := cell.toTextOrEmpty "strip"
  unfold Definition.kind CheckKind.parse
  rw [read]
  exact ⟨_, rfl⟩

theorem WellTyped.exists_kind (typed : WellTyped d) : ∃ kind, d.kind = .ok kind :=
  Compile.exists_kind (Or.inr typed.checkType)

/-- The definition makes a check on a target if its filter is left out, so that all depends
on the filter. -/
def Asks (d : Definition) (resultsTable : Value) : Prop :=
  ∃ check message, compile { d with rowFilter := .null } resultsTable = .ok (.valid check message) ∧
    check.kind ≠ .consistency

theorem asks_iff (path : pathOf resultsTable = .ok results)
    (schedule : hasSchedule d = .ok scheduled) (parsed : d.kind = .ok kind)
    (in_order : ¬ (!scheduled && kind != .unsupported) = true) (other : kind ≠ .consistency) :
    Asks d resultsTable ↔ ∃ check, ofKind kind { d with rowFilter := .null } results = .ok check := by
  have without := compile_eq (d := { d with rowFilter := .null }) path schedule parsed
  rw [if_neg in_order] at without
  constructor
  · rintro ⟨check, message, compiled, _⟩
    obtain ⟨results', kind', path', parsed', made⟩ := ofKind_of_compile compiled
    obtain rfl : results = results' := Except.ok.inj (path.symm.trans path')
    obtain rfl : kind = kind' := Except.ok.inj (parsed.symm.trans parsed')
    exact ⟨check, made⟩
  · rintro ⟨check, made⟩
    rw [made] at without
    have own_kind : check.kind = kind :=
      Except.ok.inj ((kind_of_valid without).symm.trans parsed)
    exact ⟨check, "", without, own_kind ▸ other⟩

/-- All that is left to decide is the filter, and it is trapped. -/
def Caught (d : Definition) (resultsTable : Value) : Prop :=
  Asks d resultsTable ∧ IsTrapped d.rowFilter

/-- A check on a target is decided by its ground and then by its filter. -/
theorem WellTyped.ofKind (typed : WellTyped d) (other : kind ≠ .consistency) (results : String) :
    let caught := (∃ check, ofKind kind { d with rowFilter := .null } results = .ok check) ∧
      IsTrapped d.rowFilter
    (¬ caught ∧ FailsIn IsReason (ofKind kind d results)) ∨
      (caught ∧ ∃ type, ofKind kind d results = .error (.failure (.misuse (.unhashable type)))) := by
  have unfiltered : Compile.ground kind { d with rowFilter := .null } = Compile.ground kind d := by
    cases kind <;> rfl
  rw [ofKind_eq_ground other, ofKind_eq_ground other, unfiltered]
  have reasons := typed.ground kind
  cases grounded : Compile.ground kind d with
  | error refusal =>
      refine Or.inl ⟨?_, failsIn_error (reasons refusal grounded)⟩
      rintro ⟨⟨check, same⟩, _⟩
      cases same
  | ok ground =>
      have typed' : WellTyped { d with rowFilter := .null } := { typed with filter := rfl }
      rcases whereClause_faultsUnless typed.filter with ⟨safe, faults⟩ | ⟨caught, type, failed⟩
      · refine Or.inl ⟨fun both => safe both.2, ?_⟩
        refine failsIn_bind (failsIn_ok _) fun _ => ?_
        refine failsIn_bind (failsIn_declared faults) fun _ => ?_
        exact typed.failsIn_checkOf _ _ _
      · refine Or.inr ⟨⟨typed'.checkOf _ _ _, caught⟩, type, ?_⟩
        rw [failed]
        rfl

/-- A definition whose columns are of their types is answered, unless all that is left to decide
is a filter that is trapped. -/
theorem WellTyped.answered (typed : WellTyped d) (path : pathOf resultsTable = .ok results) :
    (¬ Caught d resultsTable ∧ ∃ verdict, compile d resultsTable = .ok verdict) ∨
      (Caught d resultsTable ∧
        ∃ type, compile d resultsTable = .error (.misuse (.unhashable type))) := by
  obtain ⟨scheduled, schedule⟩ := typed.exists_schedule
  obtain ⟨kind, parsed⟩ := typed.exists_kind
  rw [compile_eq path schedule parsed]
  split
  · rename_i unscheduled
    have without := compile_eq (d := { d with rowFilter := .null }) path schedule parsed
    rw [if_pos unscheduled] at without
    refine Or.inl ⟨?_, _, rfl⟩
    rintro ⟨⟨check, message, compiled, _⟩, _⟩
    rw [without] at compiled
    cases compiled
  · rename_i in_order
    by_cases queries : kind = .consistency
    · subst queries
      refine Or.inl ⟨?_, exists_toVerdict (typed.consistency results)⟩
      rintro ⟨⟨check, message, compiled, other⟩, _⟩
      exact other (Except.ok.inj ((kind_of_valid compiled).symm.trans parsed))
    · unfold Caught
      rw [asks_iff path schedule parsed in_order queries]
      rcases typed.ofKind queries results with ⟨safe, reasons⟩ | ⟨caught, type, failed⟩
      · exact Or.inl ⟨safe, exists_toVerdict reasons⟩
      · refine Or.inr ⟨caught, type, ?_⟩
        rw [failed]
        rfl

theorem verdict_either (verdict : Verdict) : verdict.check?.isSome = !verdict.reason?.isSome := by
  cases verdict with
  | valid check message => rfl
  | invalid checkId reason message => rfl

theorem WellTyped.caught_of_error (typed : WellTyped d) (path : pathOf resultsTable = .ok results)
    {failure : Failure} (failed : compile d resultsTable = .error failure) :
    Caught d resultsTable ∧ failure.isInterrupt = false := by
  rcases typed.answered path with ⟨_, verdict, compiled⟩ | ⟨caught, type, same⟩
  · rw [compiled] at failed
    cases failed
  · rw [same] at failed
    cases failed
    exact ⟨caught, rfl⟩

theorem WellTyped.answered_iff (typed : WellTyped d) (path : pathOf resultsTable = .ok results) :
    (∃ verdict, compile d resultsTable = .ok verdict) ↔ ¬ Caught d resultsTable := by
  rcases typed.answered path with ⟨safe, compiled⟩ | ⟨caught, type, failed⟩
  · exact iff_of_true compiled safe
  · refine iff_of_false ?_ fun safe => safe caught
    rintro ⟨verdict, compiled⟩
    rw [failed] at compiled
    cases compiled

end Compile

end CheckKeeper
