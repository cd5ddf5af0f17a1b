import CheckKeeper.Proofs.Flaws
import CheckKeeper.Proofs.Numerals

namespace CheckKeeper.Compile

/-! The order in which a definition is looked at.

Each step of the compiler tells of its own flaws, so that the verdict is the first on the list of
the kind that applies, and where none does there is a check.
-/

open Sql

variable {α : Type} {d : Definition} {kind : CheckKind} {results : String} {resultsTable : Value}
  {reason : InvalidReason} {flaws : List Flaw} {told : Option Finding}

theorem blank_text (content : String) :
    Blank (.text content) ↔ Text.isBlankText content = true := by
  simp [Blank]

/-- A cell that is read for its text is found empty if it is blank, and else holds the text. -/
theorem read_cell {cell : Value} (typed : cell.TextOrNull) (member : String) :
    ∃ content, cell.toTextOrEmpty member = .ok content ∧
      (Text.stripText content = "" ↔ Blank cell) ∧ (¬ Blank cell → cell = .text content) := by
  rcases typed with rfl | ⟨content, rfl⟩
  · have blank : Blank .null := by simp [Blank]
    exact ⟨"", rfl, iff_of_true rfl blank, fun given => absurd blank given⟩
  · refine ⟨content, ?_, ?_, fun _ => rfl⟩
    · by_cases empty : content = ""
      · subst empty
        rfl
      · simp [Value.toTextOrEmpty, Value.isGiven, Value.toText, empty]
    · rw [Text.stripText_eq_empty, blank_text]

theorem exists_schedule (cell : d.schedule.TextOrNull) :
    ∃ scheduled, hasSchedule d = .ok scheduled ∧ (scheduled = false ↔ Blank d.schedule) := by
  unfold hasSchedule
  rcases cell with absent | ⟨content, given⟩
  · rw [absent]
    exact ⟨false, rfl, iff_of_true rfl (by simp [Blank])⟩
  · rw [given, blank_text]
    by_cases empty : content = ""
    · subst empty
      exact ⟨false, rfl, iff_of_true rfl rfl⟩
    · refine ⟨!Text.isBlankText content, ?_, by simp⟩
      simp [Value.isGiven, Value.toText, empty, bind, Except.bind, pure, Except.pure]

theorem isAtMost_int (a b : Int) : (Value.int a).isAtMost (.int b) = .ok (decide (a ≤ b)) := by
  have ordered : (Value.int a).isAtMost (.int b) = .ok (some (compare (a * 1) (b * 1)) == some .lt ||
      some (compare (a * 1) (b * 1)) == some .eq) := rfl
  have either (order : Ordering) : (some order == some .lt || some order == some .eq) = order.isLE := by
    cases order <;> rfl
  have decided : (compare a b).isLE = decide (a ≤ b) := by
    rw [Bool.eq_iff_iff, Int.isLE_compare, decide_eq_true_eq]
  rw [ordered, either, Int.mul_one, Int.mul_one, decided]

theorem tells_subquery {query : Value} {content : String} (given : query = .text content) :
    Tells [(Unsafe query, .reason .unsafeQuery)] (subquery (Text.stripText content)) := by
  refine tells_mapError (fun failure _ => ⟨failure.message, rfl⟩) ?_
  rw [Unsafe, given]
  have prepared : Rejected (Sql.prepare (Text.stripText content)) ↔
      Rejected (Sql.checkReadOnly (Text.stripText content).toList) := rejected_bind_ok
  rw [prepared]
  simp

theorem tells_dateColumn (d : Definition) :
    Tells [(d.keyColumns = [], .reason .missingKeyColumn),
      (1 < d.keyColumns.length, .reason .invalidParameter)] (dateColumn d) := by
  unfold dateColumn
  cases d.keyColumns with
  | nil => exact .here rfl
  | cons column others =>
      cases others with
      | nil => exact .later (by simp) (.later (by simp) .nothing)
      | cons second others => exact .later (by simp) (.here (by simp))

theorem Typed.agreedMinutes (typed : Typed d) :
    Tells [(¬ ∃ minutes, d.slaMinutes = .int minutes ∧ 0 < minutes, .reason .invalidParameter)]
      (agreedMinutes d) := by
  unfold Compile.agreedMinutes
  rcases typed.minutes with absent | ⟨number, given⟩
  · rw [absent]
    exact .here (by simp)
  · rw [given]
    refine tells_read (isAtMost_int number 0) ?_
    split
    · rename_i low
      rw [decide_eq_true_eq] at low
      refine .here ?_
      intro agreed
      obtain ⟨minutes, same, positive⟩ := agreed
      cases same
      omega
    · rename_i high
      rw [decide_eq_true_eq, Int.not_le] at high
      exact .later (not_not.mpr ⟨number, rfl, high⟩) .nothing

/-- A text is rejected for what it is, and anything else only if it can be shown. -/
theorem tells_column (name : Value) :
    Tells (unshownFlaws (fun failure => name.excess? Json.depthLimit = some failure) ++
      [(Rejected (Sql.column name), .reason .invalidIdentifier)]) (declared (Sql.column name)) := by
  refine tells_unshown (fun failure => Value.excess?_cases name) (fun failure excess => ?_) ?_ Iff.rfl
  · unfold Sql.column
    split
    · cases excess
    · rw [Value.refusal_of_excess excess]
  · cases excess : name.excess? Json.depthLimit with
    | none => exact (column_faults excess).mono fun failure known => Or.inl (ofFailure_identifier known)
    | some failure =>
        unfold Sql.column
        split
        · cases excess
        · rw [Value.refusal_of_excess excess]
          exact failsIn_error (Or.inr rfl)

theorem tells_toSql (index : Nat) (condition : Condition) :
    Tells (demandFlaws condition.toDemand) (declared (condition.toSql index)) := by
  unfold Condition.toSql demandFlaws
  rw [declared_bind, ← List.singleton_append, ← List.append_assoc]
  refine (tells_column _).bind fun column _ => ?_
  obtain ⟨name, comparison, value⟩ := condition
  by_cases given : value = .null
  · subst given
    cases comparison with
    | eq => exact .later (by simp [Condition.toDemand, Comparison.symbol]) .nothing
    | ne => exact .later (by simp [Condition.toDemand, Comparison.symbol]) .nothing
    | _ => exact .here (by simp [Condition.toDemand, Comparison.symbol])
  · have present : value.isNull = false := by
      cases value with
      | null => exact absurd rfl given
      | _ => rfl
    simp only [present, Bool.false_eq_true, if_false]
    exact .later (fun null => given null.1) .nothing

theorem tells_toSqlFrom (index : Nat) (conditions : List Condition) :
    Tells ((conditions.map Condition.toDemand).flatMap demandFlaws)
      (declared (Condition.toSqlFrom index conditions)) := by
  induction conditions generalizing index with
  | nil => exact .nothing
  | cons condition conditions ih =>
      unfold Condition.toSqlFrom
      rw [declared_bind, List.map_cons, List.flatMap_cons]
      refine (tells_toSql index condition).bind fun first _ => ?_
      rw [declared_bind]
      exact (ih (index + 1)).bind_ok fun later => ⟨_, rfl⟩

theorem Typed.ofFilter (typed : Typed d) :
    Tells (unshownFlaws (Unshown d.rowFilter) ++
      [(¬ WellShaped d.rowFilter, .reason .invalidParameter)])
      (declared (Condition.ofFilter d.rowFilter)) := by
  refine tells_unshown (fun _ => Unshown.cases) (fun _ => ofFilter_of_unshown) ?_ rejected_ofFilter
  exact (ofFilter_faults typed.operators).mono fun _ => Or.imp_left ofFailure_rowFilter

theorem Typed.whereClause (typed : Typed d) :
    Tells (filterFlaws d.rowFilter) (declared (Sql.whereClause d.rowFilter)) := by
  unfold Sql.whereClause filterFlaws
  rw [declared_bind, ← List.singleton_append, ← List.append_assoc]
  refine typed.ofFilter.bind fun conditions read => ?_
  rw [declared_bind, demands_of_ofFilter (declared_eq_ok read)]
  refine (tells_toSqlFrom 0 conditions).bind_ok fun parts => ?_
  dsimp only
  split
  · exact ⟨_, rfl⟩
  · exact ⟨_, rfl⟩

/-- Behind the columns, checks on a target go on alike. -/
theorem Typed.located (typed : Typed d)
    {next : String → String × List Parameter → Except Refusal CompiledCheck}
    (made : ∀ target clause, ∃ check, next target clause = .ok check) :
    Tells (targetFlaws d) (do
      let target ← declared (Sql.target d.targetSchema d.targetTable)
      let clause ← declared (Sql.whereClause d.rowFilter)
      next target clause) := by
  refine Tells.bind (tells_identifier (target_faults typed.schema typed.table) Iff.rfl) ?_
  intro target _
  exact typed.whereClause.bind_ok (made target)

theorem exists_checkOf (cell : d.schedule.TextOrNull) (scheduled : ¬ Blank d.schedule)
    (kind : CheckKind) (statement : String) (parameters : List Parameter) :
    ∃ check, checkOf d kind statement parameters = .ok check := by
  obtain ⟨schedule, _, _, given⟩ := read_cell cell "strip"
  rw [checkOf_eq, given scheduled]
  exact ⟨_, rfl⟩

theorem Typed.freshness (typed : Typed d) (scheduled : ¬ Blank d.schedule) (results : String) :
    Tells (flawsOfKind .freshness d) (freshness d results) := by
  refine Tells.bind (tells_dateColumn d) fun column alone => ?_
  refine Tells.bind typed.agreedMinutes fun minutes _ => ?_
  have named : Rejected (Sql.column (.text column)) ↔
      ∃ column ∈ d.keyColumns, Rejected (Sql.column (.text column)) := by
    rw [keyColumns_of_dateColumn alone]
    simp
  refine Tells.bind (tells_identifier (column_faults (Value.isShown_text column)) named) fun date _ => ?_
  exact typed.located fun _ _ => exists_checkOf typed.schedule scheduled _ _ _

theorem Typed.uniqueness (typed : Typed d) (scheduled : ¬ Blank d.schedule) (results : String) :
    Tells (flawsOfKind .uniqueness d) (uniqueness d results) := by
  unfold Compile.uniqueness
  split
  · rename_i none_there
    exact .here (List.isEmpty_iff.mp none_there)
  · rename_i some_there
    rw [List.isEmpty_iff] at some_there
    refine Tells.behind (.later some_there .nothing) ?_
    have faults : FailsIn IsIdentifierFault
        (d.keyColumns.mapM fun column => Sql.column (.text column)) :=
      failsIn_mapM fun column _ => column_faults (Value.isShown_text column)
    refine Tells.bind (tells_identifier faults rejected_mapM) fun columns _ => ?_
    exact typed.located fun _ _ => exists_checkOf typed.schedule scheduled _ _ _

theorem Typed.ratio (typed : Typed d) :
    ∃ threshold, thresholdOf d = .ok threshold ∧
      ((Fits d ∧ ∃ ratio, threshold.toFloat = .ok ratio) ∨
        (¬ Fits d ∧ threshold.toFloat = .error (.overflow .integerToFloat))) := by
  unfold thresholdOf Fits
  rcases typed.threshold with absent | ⟨ratio, given⟩ | ⟨number, given⟩
  · rw [absent]
    exact ⟨.float defaultThreshold, rfl, Or.inl ⟨by simp, defaultThreshold, rfl⟩⟩
  · rw [given]
    have compared : ∃ low, (Value.float ratio).isAtMost (.int 0) = .ok low := ⟨_, rfl⟩
    obtain ⟨low, compared⟩ := compared
    rw [compared]
    cases low with
    | false => exact ⟨.float ratio, rfl, Or.inl ⟨by simp, ratio, rfl⟩⟩
    | true => exact ⟨.float defaultThreshold, rfl, Or.inl ⟨by simp, defaultThreshold, rfl⟩⟩
  · rw [given, isAtMost_int]
    by_cases low : number ≤ 0
    · rw [decide_eq_true low]
      refine ⟨.float defaultThreshold, rfl, Or.inl ⟨?_, defaultThreshold, rfl⟩⟩
      intro other same positive
      cases same
      omega
    · rw [decide_eq_false low]
      refine ⟨.int number, rfl, ?_⟩
      have nearest : (Value.int number).toFloat =
          if Number.isInfinite (Number.ofInt number) = true then .error (.overflow .integerToFloat)
          else .ok (Number.ofInt number) := rfl
      rw [nearest]
      by_cases large : Number.isInfinite (Number.ofInt number) = true
      · refine Or.inr ⟨fun held => ?_, if_pos large⟩
        rw [held number rfl (by omega)] at large
        cases large
      · refine Or.inl ⟨?_, _, if_neg large⟩
        intro other same _
        cases same
        simpa using large

theorem Typed.consistency (typed : Typed d) (scheduled : ¬ Blank d.schedule) (results : String) :
    Tells (flawsOfKind .consistency d) (consistency d results) := by
  obtain ⟨source, source_read, source_blank, source_text⟩ := read_cell typed.source "strip"
  obtain ⟨target, target_read, target_blank, target_text⟩ := read_cell typed.target "strip"
  obtain ⟨threshold, found, ratio⟩ := typed.ratio
  refine tells_read source_read ?_
  refine tells_read target_read ?_
  dsimp only
  split
  · rename_i missing
    rw [Bool.or_eq_true, decide_eq_true_eq, decide_eq_true_eq, source_blank, target_blank] at missing
    exact .here missing
  · rename_i present
    rw [Bool.or_eq_true, decide_eq_true_eq, decide_eq_true_eq, source_blank, target_blank] at present
    obtain ⟨source_given, target_given⟩ := not_or.mp present
    refine Tells.behind (.later present .nothing) ?_
    refine Tells.bind (tells_subquery (source_text source_given)) fun sourceBody _ => ?_
    refine Tells.bind (tells_subquery (target_text target_given)) fun targetBody _ => ?_
    refine tells_read found ?_
    -- Nothing is wrong any more, but the threshold may still be beyond the range.
    rcases ratio with ⟨held, ratio, number⟩ | ⟨beyond, large⟩
    · refine tells_read number ?_
      obtain ⟨check, made⟩ := exists_checkOf typed.schedule scheduled .consistency
        (consistencyStatement results sourceBody targetBody)
        (commonParameters d ++ [⟨"threshold_ratio", "FLOAT64", .float ratio⟩])
      rw [made]
      exact .later (not_not.mpr held) .nothing
    · rw [large]
      exact .here beyond

theorem Typed.ofKind (typed : Typed d) (scheduled : ¬ Blank d.schedule)
    (supported : kind ≠ .unsupported) (results : String) :
    Tells (flawsOfKind kind d) (ofKind kind d results) := by
  cases kind with
  | freshness => exact typed.freshness scheduled results
  | uniqueness => exact typed.uniqueness scheduled results
  | consistency => exact typed.consistency scheduled results
  | unsupported => exact absurd rfl supported

/-- What is found out, as the compiler answers it: a verdict without a reason or with the one that is
to be given, or the failure. -/
def Answers (found : Except Failure Verdict) : Option Finding → Prop
  | none => ∃ verdict, found = .ok verdict ∧ verdict.reason? = none
  | some (.reason reason) => ∃ verdict, found = .ok verdict ∧ verdict.reason? = some reason
  | some (.failure failure) => found = .error failure

/-- The answer is what goes with the first flaw. -/
def Concludes (flaws : List Flaw) (found : Except Failure Verdict) : Prop :=
  ∃ told, FirstOf flaws told ∧ Answers found told

theorem Concludes.answers {found : Except Failure Verdict} (concluded : Concludes flaws found)
    (first : FirstOf flaws told) : Answers found told := by
  obtain ⟨other, own, answers⟩ := concluded
  rwa [own.unique first] at answers

theorem Concludes.exists_reason_iff {found : Except Failure Verdict}
    (concluded : Concludes flaws found) :
    (∃ verdict, found = .ok verdict ∧ verdict.reason? = some reason) ↔
      FirstOf flaws (some (.reason reason)) := by
  constructor
  · rintro ⟨verdict, rfl, given⟩
    obtain ⟨told, first, answers⟩ := concluded
    cases told with
    | none =>
        obtain ⟨_, same, clear⟩ := answers
        cases same
        cases given.symm.trans clear
    | some finding =>
        cases finding with
        | reason other =>
            obtain ⟨_, same, own⟩ := answers
            cases same
            cases given.symm.trans own
            exact first
        | failure failure => cases answers
  · exact concluded.answers

theorem Tells.toVerdict {found : Except Refusal CompiledCheck} (told : Tells flaws found) :
    Concludes flaws (toVerdict d found) := by
  cases found with
  | ok check => exact ⟨_, told, .valid check "", rfl, rfl⟩
  | error refusal =>
      cases refusal with
      | reason reason text => exact ⟨_, told, _, rfl, rfl⟩
      | failure failure => exact ⟨_, told, rfl⟩

theorem Typed.concludes (typed : Typed d) (path : pathOf resultsTable = .ok results)
    (parsed : d.kind = .ok kind) :
    Concludes (flawsOf kind d) (compile d resultsTable) := by
  obtain ⟨scheduled, schedule, given⟩ := exists_schedule typed.schedule
  rw [compile_eq path schedule parsed]
  -- Of an unsupported kind the schedule is not looked at.
  by_cases other : kind = .unsupported
  · subst other
    have refused : Tells (flawsOf .unsupported d) (Compile.ofKind .unsupported d results) := .here rfl
    rw [if_neg (by simp)]
    exact refused.toVerdict
  · cases scheduled with
    | false =>
        have unscheduled : FirstOf (flawsOf kind d) (some (.reason .invalidParameter)) :=
          .later other (.here (given.mp rfl))
        exact ⟨_, unscheduled, _, if_pos (by simpa using other), rfl⟩
    | true =>
        have planned : ¬ Blank d.schedule := fun blank => Bool.noConfusion (given.mpr blank)
        rw [if_neg (by simp)]
        exact ((typed.ofKind planned other results).behind
          (.later other (.later planned .nothing))).toVerdict

theorem supported_of_mem :
    ∀ flaw ∈ flawsOfKind kind d, flaw.2 ≠ .reason .unsupportedCheckType := by
  have hidden (unshown : Failure → Prop) :
      ∀ flaw ∈ unshownFlaws unshown, flaw.2 ≠ .reason .unsupportedCheckType := by
    simp [unshownFlaws]
  have filtered : ∀ flaw ∈ filterFlaws d.rowFilter, flaw.2 ≠ .reason .unsupportedCheckType := by
    refine List.forall_mem_append.mpr ⟨hidden _, List.forall_mem_cons.mpr ⟨by simp, ?_⟩⟩
    intro flaw asked
    obtain ⟨demand, _, own⟩ := List.mem_flatMap.mp asked
    rcases List.mem_append.mp own with unshown | own
    · exact hidden _ flaw unshown
    · rcases List.mem_pair.mp own with rfl | rfl <;> simp
  cases kind with
  | freshness =>
      simp only [flawsOfKind, columnFlaws, targetFlaws, List.forall_mem_cons]
      exact ⟨by simp, by simp, by simp, by simp, by simp, filtered⟩
  | uniqueness =>
      simp only [flawsOfKind, columnFlaws, targetFlaws, List.forall_mem_cons]
      exact ⟨by simp, by simp, by simp, filtered⟩
  | consistency => simp [flawsOfKind]
  | unsupported => simp [flawsOfKind]

theorem unsupported_of_firstOf
    (first : FirstOf (flawsOf kind d) (some (.reason .unsupportedCheckType))) :
    kind = .unsupported := by
  cases first with
  | here same => exact same
  | later _ first =>
      cases first with
      | later _ first =>
          obtain ⟨flaw, member, reason, _⟩ := first.exists_mem
          exact absurd reason (supported_of_mem flaw member)

/-- The answer to a definition is what goes with the first of its flaws.  Most of these have a reason;
those that have a failure are an integer threshold beyond the range of numbers with a fraction, and
what a message about the filter would have to show but cannot. -/
theorem concludes_in_order (typed : Typed d) (path : pathOf resultsTable = .ok results) :
    ∃ kind, d.kind = .ok kind ∧
      Concludes (flawsOf kind d) (compile d resultsTable) ∧
      ((∃ verdict, compile d resultsTable = .ok verdict ∧
        verdict.reason? = some .unsupportedCheckType) ↔ kind = .unsupported) ∧
      (kind = .consistency → ∀ keyColumns schema table filter,
        compile { d with keyColumns, targetSchema := schema, targetTable := table, rowFilter := filter }
          resultsTable = compile d resultsTable) := by
  obtain ⟨kind, parsed⟩ := exists_kind typed.checkType
  have concluded := typed.concludes path parsed
  refine ⟨kind, parsed, concluded, concluded.exists_reason_iff.trans ?_, ?_⟩
  · constructor
    · exact unsupported_of_firstOf
    · rintro rfl
      exact .here rfl
  · intro queries keyColumns schema table filter
    obtain ⟨scheduled, schedule, _⟩ := exists_schedule typed.schedule
    let changed : Definition :=
      { d with keyColumns, targetSchema := schema, targetTable := table, rowFilter := filter }
    have compiled := compile_eq (d := changed) path schedule parsed
    rw [compile_eq path schedule parsed, queries]
    rw [queries] at compiled
    exact compiled

/-- Two queries that agree within a whole number, for the examples. -/
def agreement (threshold : Int) : Definition where
  checkId := "match"
  checkName := .text "match"
  checkType := .text "CONSISTENCY"
  schedule := .text "daily"
  targetSchema := .null
  targetTable := .null
  keyColumns := []
  rowFilter := .null
  slaMinutes := .null
  sourceQuery := .text "SELECT 1"
  targetQuery := .text "SELECT 1"
  thresholdRatio := .int threshold
  isActive := .bool true
  createdAt := .null
  updatedAt := .null
  createdBy := .null
  updatedBy := .null
  hasId := by decide

theorem agreement_typed (threshold : Int) : Typed (agreement threshold) where
  checkType := Or.inr ⟨_, rfl⟩
  schedule := Or.inr ⟨_, rfl⟩
  schema := Or.inl rfl
  table := Or.inl rfl
  source := Or.inr ⟨_, rfl⟩
  target := Or.inr ⟨_, rfl⟩
  minutes := Or.inl rfl
  threshold := Or.inr (Or.inr ⟨_, rfl⟩)
  operators entries listed := by cases listed

/-- Of two flaws the one that comes first is told: there are no minutes, and no target. -/
theorem concludes_unhurried :
    let unhurried : Definition :=
      { agreement 1 with checkType := .text "FRESHNESS", keyColumns := ["day"] }
    Typed unhurried ∧ pathOf (.text "results") = .ok "\x60results\x60" ∧
      ∃ verdict, compile unhurried (.text "results") = .ok verdict ∧
        verdict.reason? = some .invalidParameter := by
  intro unhurried
  have typed : Typed unhurried := { agreement_typed 1 with checkType := Or.inr ⟨_, rfl⟩ }
  have path : pathOf (.text "results") = .ok "\x60results\x60" := rfl
  obtain ⟨kind, parsed, concluded, _⟩ := concludes_in_order typed path
  have freshness : unhurried.kind.toOption = some .freshness := by decide +kernel
  obtain rfl : CheckKind.freshness = kind :=
    Except.ok.inj ((eq_ok_of_toOption freshness).symm.trans parsed)
  have scheduled : ¬ Blank unhurried.schedule := fun blank => absurd (blank _ rfl) (by decide)
  have first : FirstOf (flawsOf .freshness unhurried) (some (.reason .invalidParameter)) :=
    .later (by decide) (.later scheduled (.later (by decide) (.later (by decide)
      (.here (by simp [unhurried, agreement])))))
  exact ⟨typed, path, concluded.answers first⟩

/-- A list that holds a list, and so on: `depth` of them. -/
def nested : Nat → Value
  | 0 => .null
  | depth + 1 => .list [nested depth]

theorem excess?_nested {depth levels : Nat} (deeper : levels < depth) :
    (nested depth).excess? levels = some .tooDeep := by
  induction levels generalizing depth with
  | zero =>
      cases depth with
      | zero => cases deeper
      | succ depth => rfl
  | succ levels ih =>
      cases depth with
      | zero => cases deeper
      | succ depth =>
          rw [nested, Value.excess?, Value.excessOfItems?, ih (Nat.lt_of_succ_lt_succ deeper),
            Option.some_or]

theorem excess?_power {digits : Nat} (many : Number.digitLimit ≤ digits) (depth : Nat) :
    (Value.int (10 ^ digits)).excess? depth = some (.rule .tooManyDigits) := by
  have long : Number.digitLimit < Number.decimalLength (10 ^ digits) := by
    rw [← Nat.not_le, Number.decimalLength_le_iff (by decide), Nat.not_lt]
    exact Nat.pow_le_pow_right (by decide) many
  have magnitude : (10 ^ digits : Int).natAbs = 10 ^ digits := Int.natAbs_pow 10 digits
  rw [Value.excess?, magnitude, if_pos long]

/-- A unique column, among rows that a list of one entry filters. -/
def listing (entry : Value) : Definition :=
  { agreement 1 with
    checkType := .text "UNIQUENESS"
    targetSchema := .text "s"
    targetTable := .text "t"
    keyColumns := ["id"]
    rowFilter := .list [entry] }

theorem listing_typed {entry : Value} (noRecord : ∀ row, entry ≠ .record row) :
    Typed (listing entry) where
  checkType := Or.inr ⟨_, rfl⟩
  schedule := Or.inr ⟨_, rfl⟩
  schema := Or.inr ⟨_, rfl⟩
  table := Or.inr ⟨_, rfl⟩
  source := Or.inr ⟨_, rfl⟩
  target := Or.inr ⟨_, rfl⟩
  minutes := Or.inl rfl
  threshold := Or.inr (Or.inr ⟨_, rfl⟩)
  operators := by
    intro entries listed given member row operator same
    cases listed
    cases List.mem_singleton.mp member
    exact absurd same (noRecord row)

/-- The only entry is no condition, and what cannot be shown of it takes the place of the reason. -/
theorem compile_listing {entry : Value} {failure : Failure} (noRecord : ∀ row, entry ≠ .record row)
    (excess : entry.excess? Json.depthLimit = some failure) :
    compile (listing entry) (.text "results") = .error failure := by
  have nameless : ¬ NamesColumn entry := fun ⟨row, same, _⟩ => noRecord row same
  have hidden : Unshown (.list [entry]) failure := ⟨[], entry, [], rfl, by simp, nameless, excess⟩
  have scheduled : ¬ Blank (listing entry).schedule := fun blank => absurd (blank _ rfl) (by decide)
  have columned : ¬ ∃ column ∈ (listing entry).keyColumns, Rejected (Sql.column (.text column)) := by
    rintro ⟨column, member, rejected⟩
    cases List.mem_singleton.mp member
    have accepted : (Sql.column (.text "id")).isOk = true := by decide
    exact not_rejected accepted rejected
  have located : ¬ Rejected (Sql.target (listing entry).targetSchema (listing entry).targetTable) := by
    have accepted : (Sql.target (.text "s") (.text "t")).isOk = true := by decide
    exact not_rejected accepted
  have filtered : FirstOf (filterFlaws (.list [entry])) (some (.failure failure)) := by
    rcases hidden.cases with rfl | rfl
    · exact .here hidden
    · refine .later (fun deep => ?_) (.here hidden)
      cases (ofFilter_of_unshown hidden).symm.trans (ofFilter_of_unshown deep)
  have first : FirstOf (flawsOf .uniqueness (listing entry)) (some (.failure failure)) :=
    .later (by decide) (.later scheduled (.later (by simp [listing]) (.later columned
      (.later located filtered))))
  have path : pathOf (.text "results") = .ok "\x60results\x60" := rfl
  have uniqueness : (listing entry).kind.toOption = some .uniqueness := by
    change (CheckKind.parse (.text "UNIQUENESS")).toOption = _
    decide +kernel
  exact ((listing_typed noRecord).concludes path (eq_ok_of_toOption uniqueness)).answers first

/-- The failures cannot be left out: where no reason is to be given there may be no verdict, and where
one is to be given it may not come to that. -/
theorem unanswered_beyond_range :
    (Typed (listing (.int (10 ^ 4300))) ∧
      compile (listing (.int (10 ^ 4300))) (.text "results") = .error (.rule .tooManyDigits)) ∧
    (Typed (listing (nested 991)) ∧
      compile (listing (nested 991)) (.text "results") = .error .tooDeep) ∧
    ¬ ∀ (d : Definition) (resultsTable : Value) (results : String), Typed d →
      pathOf resultsTable = .ok results →
      ∃ kind verdict, d.kind = .ok kind ∧ compile d resultsTable = .ok verdict ∧
        FirstOf ((flawsOf kind d).filter fun flaw => flaw.2.isReason)
          (verdict.reason?.map Finding.reason) := by
  have number : ∀ row, Value.int (10 ^ 4300) ≠ .record row := fun _ same => nomatch same
  have list : ∀ row, nested 991 ≠ .record row := fun _ same => nomatch same
  have deeper : Json.depthLimit < 991 := by simp [Json.depthLimit]
  have deep : (nested 991).excess? Json.depthLimit = some .tooDeep := excess?_nested deeper
  refine ⟨⟨listing_typed number, compile_listing number (excess?_power (Nat.le_refl _) _)⟩,
    ⟨listing_typed list, compile_listing list deep⟩, ?_⟩
  intro answered
  have path : pathOf (.text "results") = .ok "\x60results\x60" := rfl
  obtain ⟨_, verdict, _, compiled, _⟩ := answered _ _ _ (agreement_typed (10 ^ 400)) path
  have failed : (compile (agreement (10 ^ 400)) (.text "results")).isOk = false := by
    decide +kernel
  rw [compiled] at failed
  cases failed

end CheckKeeper.Compile
