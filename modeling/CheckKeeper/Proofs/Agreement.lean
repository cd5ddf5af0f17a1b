import CheckKeeper.Proofs.Metrics
import CheckKeeper.Proofs.Precedence

namespace CheckKeeper

open Calendar

/-! Previews of consistency checks.

The statement of a check compares each number of a name in the source with each one in the target.
A preview compares the last ones.
-/

namespace Compile

variable {d : Definition} {check : CompiledCheck} {message : String}
  {resultsTable value threshold : Value} {low : Bool}

theorem threshold_of_compile (compiled : compile d resultsTable = .ok (.valid check message))
    (queries : check.kind = .consistency) : ∃ threshold, thresholdOf d = .ok threshold := by
  obtain ⟨results, _, made⟩ := ofKind_of_valid compiled
  rw [queries] at made
  obtain ⟨_, _, _, _, threshold, _, _, _, _, _, read, _⟩ := consistency_of_ofKind made
  exact ⟨threshold, read⟩

/-- A threshold that can be compared is a number. -/
theorem exact_of_isAtMost (compared : value.isAtMost (.int 0) = .ok low) :
    ∃ limit, value.exactValue? = some limit ∧
      (low = false → limit.compare? (.ofInt 0) ≠ some .lt) := by
  have numeric (limit : Exact) (order : value.isAtMost (.int 0) =
      .ok (limit.compare? (.ofInt 0) == some .lt || limit.compare? (.ofInt 0) == some .eq))
      (high : low = false) : limit.compare? (.ofInt 0) ≠ some .lt := by
    rw [order, high, Except.ok.injEq, Bool.or_eq_false_iff, beq_eq_false_iff_ne] at compared
    exact compared.1
  cases value with
  | bool flag => exact ⟨_, rfl, numeric _ rfl⟩
  | int number => exact ⟨_, rfl, numeric _ rfl⟩
  | float number => exact ⟨_, rfl, numeric _ rfl⟩
  | _ => cases compared

/-- The threshold that counts is a number, and not one below nought. -/
theorem exact_of_thresholdOf (read : thresholdOf d = .ok threshold) :
    ∃ limit, threshold.exactValue? = some limit ∧ limit.compare? (.ofInt 0) ≠ some .lt := by
  have default_exact : ∃ limit, (Value.float defaultThreshold).exactValue? = some limit ∧
      limit.compare? (.ofInt 0) ≠ some .lt := ⟨_, rfl, by decide⟩
  unfold thresholdOf at read
  split at read
  · cases read
    exact default_exact
  · obtain ⟨low, compared, rest⟩ := bind_eq_ok read
    cases low with
    | true =>
        cases rest
        exact default_exact
    | false =>
        cases rest
        obtain ⟨limit, known, high⟩ := exact_of_isAtMost compared
        exact ⟨limit, known, high rfl⟩

end Compile

namespace Preview

open Compile (thresholdOf threshold_of_compile exact_of_thresholdOf bind_eq_ok agreement
  kind_of_valid eq_ok_of_toOption)

variable {d : Definition} {check : CompiledCheck} {message name : String} {threshold : Value}
  {limit : Exact} {s t : Float} {source target : List Sample} {first second : Metrics}

/-- The two numbers are further apart than the threshold allows. -/
def Exceeds (threshold : Value) (s t : Float) : Prop :=
  (Value.float (difference s t)).isGreater threshold = .ok true

theorem isGreater_float (number : Float) (known : threshold.exactValue? = some limit) :
    (Value.float number).isGreater threshold =
      .ok ((Exact.ofFloat number).compare? limit == some .gt) := by
  cases threshold <;> cases known <;> rfl

theorem isLess_one (known : threshold.exactValue? = some limit) :
    threshold.isLess (.int 1) = .ok (limit.compare? (.ofInt 1) == some .lt) := by
  cases threshold <;> cases known <;> rfl

theorem difference_of_noughts (first : (s == 0.0) = true) (second : (t == 0.0) = true) :
    difference s t = 0.0 := by
  simp only [difference, first, second, Bool.and_self, if_true]

theorem difference_of_nought (one : (s == 0.0) ≠ (t == 0.0)) : difference s t = 1.0 := by
  unfold difference
  cases first : s == 0.0 <;> cases second : t == 0.0
  · rw [first, second] at one
    exact absurd rfl one
  · rfl
  · rfl
  · rw [first, second] at one
    exact absurd rfl one

theorem ofFloat_zero : ∃ denominator, Exact.ofFloat 0.0 = .ratio 0 denominator :=
  ⟨_, rfl⟩

theorem ofFloat_one : ∃ denominator : Nat, 0 < denominator ∧
    Exact.ofFloat 1.0 = .ratio denominator denominator :=
  ⟨4503599627370496, by decide, by rfl⟩

theorem zero_not_above (high : limit.compare? (.ofInt 0) ≠ some .lt) (denominator : Nat) :
    (Exact.ratio 0 denominator).compare? limit ≠ some .gt := by
  cases limit with
  | undefined => nofun
  | infinity negative =>
      cases negative with
      | true => exact absurd rfl high
      | false => nofun
  | ratio n e =>
      simp only [Exact.compare?, Exact.ofInt, ne_eq, Option.some.injEq, Int.compare_eq_gt,
        Int.compare_eq_lt] at high ⊢
      have scaled : 0 ≤ n * (denominator : Int) := Int.mul_nonneg (by omega) (by omega)
      omega

theorem one_above_iff {denominator : Nat} (positive : 0 < denominator) :
    (Exact.ratio denominator denominator).compare? limit = some .gt ↔
      limit.compare? (.ofInt 1) = some .lt := by
  cases limit with
  | undefined => exact iff_of_false nofun nofun
  | infinity negative => cases negative <;> simp [Exact.compare?, Exact.ofInt]
  | ratio n e =>
      simp only [Exact.compare?, Exact.ofInt, Option.some.injEq, Int.compare_eq_gt,
        Int.compare_eq_lt, Int.natCast_one, Int.mul_one, Int.one_mul]
      rw [Int.mul_comm]
      exact Int.mul_lt_mul_left (by omega)

/-- Where both numbers are nought, no threshold is exceeded. -/
theorem not_exceeds_of_noughts (read : thresholdOf d = .ok threshold)
    (first : (s == 0.0) = true) (second : (t == 0.0) = true) : ¬ Exceeds threshold s t := by
  obtain ⟨limit, known, high⟩ := exact_of_thresholdOf read
  obtain ⟨denominator, nought⟩ := ofFloat_zero
  unfold Exceeds
  rw [difference_of_noughts first second, isGreater_float _ known, nought, Except.ok.injEq,
    beq_iff_eq]
  exact zero_not_above high _

/-- Where one of the numbers is nought, it is the thresholds below one that are exceeded. -/
theorem exceeds_of_nought (read : thresholdOf d = .ok threshold) (one : (s == 0.0) ≠ (t == 0.0)) :
    Exceeds threshold s t ↔ threshold.isLess (.int 1) = .ok true := by
  obtain ⟨limit, known, _⟩ := exact_of_thresholdOf read
  obtain ⟨denominator, positive, unit⟩ := ofFloat_one
  unfold Exceeds
  rw [difference_of_nought one, isGreater_float _ known, isLess_one known, unit, Except.ok.injEq,
    Except.ok.injEq, beq_iff_eq, beq_iff_eq]
  exact one_above_iff positive

/-- Some row of the source and some row of the target hold numbers of one name that are too far
apart. -/
def RowsApart (threshold : Value) (source target : List Sample) : Prop :=
  ∃ row ∈ source, ∃ other ∈ target, ∃ name s t,
    (name, s) ∈ row.numbers ∧ (name, t) ∈ other.numbers ∧ Exceeds threshold s t

/-- The last numbers of some name are too far apart. -/
def LastApart (threshold : Value) (source target : List Sample) : Prop :=
  ∃ name s t, last? source name = some s ∧ last? target name = some t ∧ Exceeds threshold s t

theorem rowsApart_of_lastApart (apart : LastApart threshold source target) :
    RowsApart threshold source target := by
  obtain ⟨name, s, t, first, second, exceeds⟩ := apart
  obtain ⟨row, given, held⟩ := mem_numbers_of_last? first
  obtain ⟨other, given', held'⟩ := mem_numbers_of_last? second
  exact ⟨row, given, other, given', name, s, t, held, held', exceeds⟩

/-- Where no name has two numbers on a side, the last ones are all there are. -/
theorem lastApart_of_rowsApart (distinct : ((numbers source).map (·.1)).Nodup)
    (distinct' : ((numbers target).map (·.1)).Nodup) (apart : RowsApart threshold source target) :
    LastApart threshold source target := by
  obtain ⟨row, given, other, given', name, s, t, held, held', exceeds⟩ := apart
  exact ⟨name, s, t, last?_of_mem distinct given held, last?_of_mem distinct' given' held', exceeds⟩

/-- Where each side comes to one metric of the same name, these are compared. -/
theorem lastApart_single (folded : metricsOf (source.map .ofFields) = .ok [(name, s)])
    (folded' : metricsOf (target.map .ofFields) = .ok [(name, t)]) :
    LastApart threshold source target ↔ Exceeds threshold s t := by
  have alone {other : String} {number held : Float} :
      [(name, number)].lookup other = some held ↔ other = name ∧ number = held := by
    rw [List.lookup_cons]
    cases same : other == name <;> simp_all
  obtain ⟨_, last⟩ := metricsOf_eq_ok folded
  obtain ⟨_, last'⟩ := metricsOf_eq_ok folded'
  constructor
  · rintro ⟨other, s', t', held, held', exceeds⟩
    rw [← last, alone] at held
    rw [← last', alone] at held'
    obtain ⟨-, rfl⟩ := held
    obtain ⟨-, rfl⟩ := held'
    exact exceeds
  · intro exceeds
    refine ⟨name, s, t, ?_, ?_, exceeds⟩
    · rw [← last, alone]
      exact ⟨rfl, rfl⟩
    · rw [← last', alone]
      exact ⟨rfl, rfl⟩

def Deviation.isAbove (limit : Exact) (deviation : Deviation) : Bool :=
  (Exact.ofFloat deviation.size).compare? limit == some .gt

theorem mapM_isGreater (known : threshold.exactValue? = some limit) (found : List Deviation) :
    (found.mapM fun deviation => (Value.float deviation.size).isGreater threshold) =
      .ok (found.map (Deviation.isAbove limit)) := by
  simp only [isGreater_float _ known]
  exact List.mapM_pure

/-- The metrics of two sides deviate too much if their last numbers are too far apart. -/
theorem contains_isAbove_iff (known : threshold.exactValue? = some limit)
    (folded : metricsOf (source.map .ofFields) = .ok first)
    (folded' : metricsOf (target.map .ofFields) = .ok second) :
    ((deviations first second).map (Deviation.isAbove limit)).contains true = true ↔
      LastApart threshold source target := by
  have exceeds_iff (deviation : Deviation) : true = deviation.isAbove limit ↔
      Exceeds threshold deviation.source deviation.target := by
    rw [Exceeds, isGreater_float _ known, Except.ok.injEq, eq_comm]
    rfl
  obtain ⟨_, held⟩ := metricsOf_eq_ok folded
  obtain ⟨_, held'⟩ := metricsOf_eq_ok folded'
  rw [List.contains_iff_mem, List.mem_map]
  constructor
  · rintro ⟨deviation, member, exceeds⟩
    obtain ⟨number, number'⟩ := mem_deviations.mp member
    rw [held] at number
    rw [held'] at number'
    exact ⟨_, _, _, number, number', (exceeds_iff deviation).mp exceeds.symm⟩
  · rintro ⟨name, s, t, number, number', exceeds⟩
    rw [← held] at number
    rw [← held'] at number'
    have above := (exceeds_iff ⟨name, s, t⟩).mpr exceeds
    exact ⟨⟨name, s, t⟩, mem_deviations.mpr ⟨number, number'⟩, above.symm⟩

theorem consistency_of_folded (read : thresholdOf d = .ok threshold)
    (known : threshold.exactValue? = some limit) {samples samples' : List Value}
    (folded : metricsOf samples = .ok first) (folded' : metricsOf samples' = .ok second) :
    consistency d samples samples' = .ok
      (statusOf (!((deviations first second).map (Deviation.isAbove limit)).contains true),
        .ofFields ((deviations first second).map Deviation.toField)) := by
  unfold consistency
  rw [read, folded, folded']
  change ((deviations first second).mapM (fun deviation =>
    (Value.float deviation.size).isGreater threshold) >>= _) = _
  rw [mapM_isGreater known]
  rfl

theorem folded_of_consistency {answer : ResultStatus × Value} {samples samples' : List Value}
    (done : consistency d samples samples' = .ok answer) :
    ∃ first second, metricsOf samples = .ok first ∧ metricsOf samples' = .ok second := by
  obtain ⟨_, _, rest⟩ := bind_eq_ok done
  obtain ⟨first, folded, rest⟩ := bind_eq_ok rest
  obtain ⟨second, folded', _⟩ := bind_eq_ok rest
  exact ⟨first, second, folded, folded'⟩

/-- The status that two sides come to. -/
def Comes (threshold : Value) (source target : List Sample) (status : ResultStatus) : Prop :=
  (LastApart threshold source target ∧ status = .ko) ∨
    (¬ LastApart threshold source target ∧ status = .ok)

/-- Two sides are compared by their last numbers, unless a number is out of range. -/
theorem consistency_iff (read : thresholdOf d = .ok threshold) (p : ResultStatus → Prop) :
    (∃ answer, consistency d (source.map .ofFields) (target.map .ofFields) = .ok answer ∧
      p answer.1) ↔
        InRange source ∧ InRange target ∧ ∃ status, Comes threshold source target status ∧ p status := by
  obtain ⟨limit, known, _⟩ := exact_of_thresholdOf read
  have comes {first second : Metrics} (folded : metricsOf (source.map .ofFields) = .ok first)
      (folded' : metricsOf (target.map .ofFields) = .ok second) (status : ResultStatus) :
      Comes threshold source target status ↔ status =
        statusOf (!((deviations first second).map (Deviation.isAbove limit)).contains true) := by
    rw [Comes, ← contains_isAbove_iff known folded folded']
    cases ((deviations first second).map (Deviation.isAbove limit)).contains true <;> simp [statusOf]
  constructor
  · rintro ⟨answer, done, holds⟩
    obtain ⟨first, second, folded, folded'⟩ := folded_of_consistency done
    rw [consistency_of_folded read known folded folded'] at done
    cases done
    exact ⟨(metricsOf_eq_ok folded).1, (metricsOf_eq_ok folded').1, _,
      (comes folded folded' _).mpr rfl, holds⟩
  · rintro ⟨range, range', status, found, holds⟩
    obtain ⟨first, folded⟩ := exists_metricsOf range
    obtain ⟨second, folded'⟩ := exists_metricsOf range'
    refine ⟨_, consistency_of_folded read known folded folded', ?_⟩
    rw [(comes folded folded' status).mp found] at holds
    exact holds

/-- Sample rows as they are handed over. -/
def sampleList (samples : List Sample) : Value :=
  .list (samples.map .ofFields)

theorem samplesOf_sampleList (samples : List Sample) :
    samplesOf (sampleList samples) = .ok (samples.map .ofFields) := by
  cases samples <;> rfl

variable {rows : Value} {runTime : Option Moment} {now : Moment}

/-- A preview of a consistency check is that of its two sides. -/
theorem evaluate_eq_consistency
    (compiled : Compile.compile d (.text Compile.defaultResultsTable) = .ok (.valid check message))
    (queries : check.kind = .consistency) (p : ResultStatus → Prop) :
    (∃ result, evaluate d ⟨rows, sampleList source, sampleList target⟩ (.ofMoment? runTime) now =
      .ok result ∧ p result.status) ↔
        ∃ answer, consistency d (source.map .ofFields) (target.map .ofFields) = .ok answer ∧
          p answer.1 := by
  have clock : instantOf (.ofMoment? runTime) = .ok (runTime.map Moment.inUtc) := by
    cases runTime <;> rfl
  have evaluated : evaluate d ⟨rows, sampleList source, sampleList target⟩ (.ofMoment? runTime) now =
      (consistency d (source.map .ofFields) (target.map .ofFields) >>= fun answer => .ok {
        checkId := .text d.checkId, checkName := d.checkName, checkType := .text check.kind.name
        status := answer.1, details := answer.2
        executedAt := some ((runTime.map Moment.inUtc).getD now) }) := by
    unfold evaluate
    rw [compiled]
    dsimp only [bind, Except.bind]
    rw [clock, queries]
    simp only [samplesOf_sampleList]
    rfl
  rw [evaluated]
  cases consistency d (source.map .ofFields) (target.map .ofFields) with
  | error failure => simp [bind, Except.bind]
  | ok answer => simp [bind, Except.bind]

theorem evaluate_iff
    (compiled : Compile.compile d (.text Compile.defaultResultsTable) = .ok (.valid check message))
    (queries : check.kind = .consistency) (read : thresholdOf d = .ok threshold)
    (p : ResultStatus → Prop) :
    (∃ result, evaluate d ⟨rows, sampleList source, sampleList target⟩ (.ofMoment? runTime) now =
      .ok result ∧ p result.status) ↔
        InRange source ∧ InRange target ∧ ∃ status, Comes threshold source target status ∧ p status :=
  (evaluate_eq_consistency compiled queries p).trans (consistency_iff read p)

/-- A preview answers KO exactly where the rows are too far apart, if all numbers can be read and the
last ones are too far apart wherever some are. -/
theorem answers_as_joined_iff
    (compiled : Compile.compile d (.text Compile.defaultResultsTable) = .ok (.valid check message))
    (queries : check.kind = .consistency) (source target : List Sample) (rows : Value)
    (runTime : Option Moment) (now : Moment) :
    ∃ threshold, thresholdOf d = .ok threshold ∧
      ((∃ result, evaluate d ⟨rows, sampleList source, sampleList target⟩ (.ofMoment? runTime) now =
          .ok result ∧ (result.status = .ko ↔ RowsApart threshold source target)) ↔
        InRange source ∧ InRange target ∧
          (RowsApart threshold source target → LastApart threshold source target)) := by
  obtain ⟨threshold, read⟩ := threshold_of_compile compiled queries
  refine ⟨threshold, read, ?_⟩
  rw [evaluate_iff compiled queries read fun status => status = .ko ↔ RowsApart threshold source target]
  refine and_congr_right fun _ => and_congr_right fun _ => ?_
  constructor
  · rintro ⟨status, last | last, agrees⟩ apart
    · exact last.1
    · exact absurd (last.2.symm.trans (agrees.mpr apart)) (by decide)
  · intro agrees
    by_cases last : LastApart threshold source target
    · exact ⟨.ko, Or.inl ⟨last, rfl⟩, iff_of_true rfl (rowsApart_of_lastApart last)⟩
    · exact ⟨.ok, Or.inr ⟨last, rfl⟩, iff_of_false (by decide) fun apart => last (agrees apart)⟩

/-- Two queries that agree within a ratio, for the examples. -/
def agreedWithin (ratio : Value) : Definition :=
  { agreement 1 with thresholdRatio := ratio }

/-- Rows of one count each. -/
def ordersOf (counts : List Int) : List Sample :=
  counts.map fun count => [("orders", .int count)]

def ordersThenSales (orders sales : Int) : List Sample :=
  [[("orders", .int orders), ("label", .text "all")], [("sales", .int sales)]]

theorem valid_agreedWithin {ratio : Value} {number : Float}
    (read : thresholdOf (agreedWithin ratio) = .ok threshold) (real : threshold.toFloat = .ok number) :
    ∃ check message, Compile.compile (agreedWithin ratio) (.text Compile.defaultResultsTable) =
      .ok (.valid check message) ∧ check.kind = .consistency := by
  have path : Sql.pathOf (.text Compile.defaultResultsTable) = .ok "\x60check_results\x60" := by rfl
  have scheduled : Compile.hasSchedule (agreedWithin ratio) = .ok true := by rfl
  have parsed : (agreement 1).kind = .ok .consistency := eq_ok_of_toOption (by decide +kernel)
  have source : (agreedWithin ratio).sourceQuery.toTextOrEmpty "strip" = .ok "SELECT 1" := by rfl
  have target : (agreedWithin ratio).targetQuery.toTextOrEmpty "strip" = .ok "SELECT 1" := by rfl
  have given : Text.stripText "SELECT 1" ≠ "" := by decide +kernel
  have query : Compile.subquery (Text.stripText "SELECT 1") = .ok "SELECT 1" :=
    eq_ok_of_toOption (by decide +kernel)
  have made : ∃ check, Compile.ofKind .consistency (agreedWithin ratio) "\x60check_results\x60" =
      .ok check := by
    unfold Compile.ofKind Compile.consistency
    simp only [source, target, given, query, read, real, Compile.declared, Except.mapError, bind,
      Except.bind, decide_false, Bool.or_self, Bool.false_eq_true, if_false]
    exact ⟨_, rfl⟩
  obtain ⟨check, made⟩ := made
  have compiled := Compile.compile_eq path scheduled parsed
  rw [if_neg (by decide), made] at compiled
  exact ⟨check, _, compiled, Except.ok.inj ((kind_of_valid compiled).symm.trans parsed)⟩

/-- Two rows on each side with a number of their own are compared as they are joined. -/
theorem orders_as_joined :
    ∃ check message result, Compile.compile (agreedWithin .null) (.text Compile.defaultResultsTable) =
        .ok (.valid check message) ∧ check.kind = .consistency ∧
      evaluate (agreedWithin .null) ⟨.null, sampleList (ordersThenSales 10 7),
        sampleList (ordersThenSales 12 7)⟩ .null .earliest = .ok result ∧ result.status = .ko := by
  have read : thresholdOf (agreedWithin .null) = .ok (.float Compile.defaultThreshold) := rfl
  obtain ⟨check, message, compiled, queries⟩ := valid_agreedWithin read rfl
  obtain ⟨_, same, agrees⟩ := answers_as_joined_iff compiled queries (ordersThenSales 10 7)
    (ordersThenSales 12 7) .null none .earliest
  cases same
  have found : numbers (ordersThenSales 10 7) = [("orders", 10.0), ("sales", 7.0)] := by rfl
  have found' : numbers (ordersThenSales 12 7) = [("orders", 12.0), ("sales", 7.0)] := by rfl
  have folded : metricsOf ((ordersThenSales 10 7).map .ofFields) =
      .ok [("orders", 10.0), ("sales", 7.0)] := by rfl
  have folded' : metricsOf ((ordersThenSales 12 7).map .ofFields) =
      .ok [("orders", 12.0), ("sales", 7.0)] := by rfl
  have apart : LastApart (.float Compile.defaultThreshold) (ordersThenSales 10 7)
      (ordersThenSales 12 7) := ⟨"orders", 10.0, 12.0, by rfl, by rfl, by rfl⟩
  obtain ⟨result, answered, status⟩ := agrees.mpr ⟨(metricsOf_eq_ok folded).1,
    (metricsOf_eq_ok folded').1, lastApart_of_rowsApart (by rw [found]; decide) (by rw [found']; decide)⟩
  exact ⟨check, message, result, compiled, queries, answered,
    status.mpr (rowsApart_of_lastApart apart)⟩

/-- Of the source only the second row is compared, and the first one, which is too far from the
target, is not. -/
theorem repeated_passed :
    ∃ check message result, Compile.compile (agreedWithin .null) (.text Compile.defaultResultsTable) =
        .ok (.valid check message) ∧ check.kind = .consistency ∧
      thresholdOf (agreedWithin .null) = .ok (.float Compile.defaultThreshold) ∧
      RowsApart (.float Compile.defaultThreshold) (ordersOf [1, 0]) (ordersOf [0]) ∧
      evaluate (agreedWithin .null) ⟨.null, sampleList (ordersOf [1, 0]), sampleList (ordersOf [0])⟩
        .null .earliest = .ok result ∧ result.status = .ok := by
  have read : thresholdOf (agreedWithin .null) = .ok (.float Compile.defaultThreshold) := rfl
  obtain ⟨check, message, compiled, queries⟩ := valid_agreedWithin read rfl
  have folded : metricsOf ((ordersOf [1, 0]).map .ofFields) = .ok [("orders", 0.0)] := by rfl
  have folded' : metricsOf ((ordersOf [0]).map .ofFields) = .ok [("orders", 0.0)] := by rfl
  have close : ¬ LastApart (.float Compile.defaultThreshold) (ordersOf [1, 0]) (ordersOf [0]) := by
    rw [lastApart_single folded folded']
    exact not_exceeds_of_noughts read rfl rfl
  obtain ⟨result, answered, status⟩ : ∃ result, evaluate (agreedWithin .null)
      ⟨.null, sampleList (ordersOf [1, 0]), sampleList (ordersOf [0])⟩ (.ofMoment? none)
        .earliest = .ok result ∧ result.status = .ok :=
    (evaluate_iff compiled queries read (· = .ok)).mpr ⟨(metricsOf_eq_ok folded).1,
      (metricsOf_eq_ok folded').1, .ok, Or.inr ⟨close, rfl⟩, rfl⟩
  refine ⟨check, message, result, compiled, queries, read, ?_, answered, status⟩
  exact ⟨_, List.mem_cons_self, _, List.mem_cons_self, "orders", 1.0, 0.0,
    List.mem_singleton_self _, List.mem_singleton_self _, by rfl⟩

/-- Where a number is nought on one side only, a preview answers KO exactly if all numbers can be
read, and the threshold is below one or exceeded where neither number is nought. -/
theorem answers_nought_iff
    (compiled : Compile.compile d (.text Compile.defaultResultsTable) = .ok (.valid check message))
    (queries : check.kind = .consistency) (held : last? source name = some s)
    (held' : last? target name = some t) (one : (s == 0.0) ≠ (t == 0.0)) (rows : Value)
    (runTime : Option Moment) (now : Moment) :
    ∃ threshold, thresholdOf d = .ok threshold ∧
      ((∃ result, evaluate d ⟨rows, sampleList source, sampleList target⟩ (.ofMoment? runTime) now =
          .ok result ∧ result.status = .ko) ↔
        InRange source ∧ InRange target ∧ (threshold.isLess (.int 1) = .ok true ∨
          ∃ other s' t', last? source other = some s' ∧ last? target other = some t' ∧
            (s' == 0.0) = false ∧ (t' == 0.0) = false ∧ Exceeds threshold s' t')) := by
  obtain ⟨threshold, read⟩ := threshold_of_compile compiled queries
  refine ⟨threshold, read, ?_⟩
  rw [evaluate_iff compiled queries read (· = .ko)]
  refine and_congr_right fun _ => and_congr_right fun _ => ?_
  have comes_ko : (∃ status, Comes threshold source target status ∧ status = .ko) ↔
      LastApart threshold source target := by
    simp [Comes]
  rw [comes_ko]
  constructor
  · rintro ⟨other, s', t', first, second, exceeds⟩
    by_cases single : (s' == 0.0) = (t' == 0.0)
    · cases nought : s' == 0.0 with
      | true => exact absurd exceeds (not_exceeds_of_noughts read nought (single.symm.trans nought))
      | false =>
          exact Or.inr ⟨other, s', t', first, second, nought, single.symm.trans nought, exceeds⟩
    · exact Or.inl ((exceeds_of_nought read single).mp exceeds)
  · rintro (below | ⟨other, s', t', first, second, _, _, exceeds⟩)
    · exact ⟨name, s, t, held, held', (exceeds_of_nought read one).mpr below⟩
    · exact ⟨other, s', t', first, second, exceeds⟩

theorem nought_answers_ko :
    ∃ check message result,
      Compile.compile (agreedWithin (.float 0.99)) (.text Compile.defaultResultsTable) =
        .ok (.valid check message) ∧ check.kind = .consistency ∧
      last? (ordersOf [0]) "orders" = some 0.0 ∧ last? (ordersOf [5]) "orders" = some 5.0 ∧
      ((0.0 : Float) == 0.0) ≠ ((5.0 : Float) == 0.0) ∧
      evaluate (agreedWithin (.float 0.99)) ⟨.null, sampleList (ordersOf [0]),
        sampleList (ordersOf [5])⟩ .null .earliest = .ok result ∧ result.status = .ko := by
  have threshold : thresholdOf (agreedWithin (.float 0.99)) = .ok (.float 0.99) := rfl
  obtain ⟨check, message, compiled, queries⟩ := valid_agreedWithin threshold rfl
  have held : last? (ordersOf [0]) "orders" = some 0.0 := by rfl
  have held' : last? (ordersOf [5]) "orders" = some 5.0 := by rfl
  have one : ((0.0 : Float) == 0.0) ≠ ((5.0 : Float) == 0.0) := by decide
  have folded : metricsOf ((ordersOf [0]).map .ofFields) = .ok [("orders", 0.0)] := by rfl
  have folded' : metricsOf ((ordersOf [5]).map .ofFields) = .ok [("orders", 5.0)] := by rfl
  obtain ⟨_, same, answers⟩ := answers_nought_iff compiled queries held held' one .null none .earliest
  cases same
  obtain ⟨result, answered, status⟩ := answers.mpr ⟨(metricsOf_eq_ok folded).1,
    (metricsOf_eq_ok folded').1, Or.inl (by rfl)⟩
  exact ⟨check, message, result, compiled, queries, held, held', one, answered, status⟩

/-- A threshold of one is not exceeded, though a number is nought on one side only. -/
theorem nought_passed :
    ∃ check message result,
      Compile.compile (agreedWithin (.float 1.0)) (.text Compile.defaultResultsTable) =
        .ok (.valid check message) ∧ check.kind = .consistency ∧
      last? (ordersOf [0]) "orders" = some 0.0 ∧ last? (ordersOf [5]) "orders" = some 5.0 ∧
      ((0.0 : Float) == 0.0) ≠ ((5.0 : Float) == 0.0) ∧
      evaluate (agreedWithin (.float 1.0)) ⟨.null, sampleList (ordersOf [0]),
        sampleList (ordersOf [5])⟩ .null .earliest = .ok result ∧ result.status = .ok := by
  have threshold : thresholdOf (agreedWithin (.float 1.0)) = .ok (.float 1.0) := rfl
  obtain ⟨check, message, compiled, queries⟩ := valid_agreedWithin threshold rfl
  have folded : metricsOf ((ordersOf [0]).map .ofFields) = .ok [("orders", 0.0)] := by rfl
  have folded' : metricsOf ((ordersOf [5]).map .ofFields) = .ok [("orders", 5.0)] := by rfl
  have held : last? (ordersOf [0]) "orders" = some 0.0 := by rfl
  have held' : last? (ordersOf [5]) "orders" = some 5.0 := by rfl
  have one : ((0.0 : Float) == 0.0) ≠ ((5.0 : Float) == 0.0) := by decide
  have above : (Value.float 1.0).isLess (.int 1) = .ok false := by rfl
  have close : ¬ LastApart (.float 1.0) (ordersOf [0]) (ordersOf [5]) := by
    rw [lastApart_single folded folded', exceeds_of_nought threshold one, above, Except.ok.injEq]
    decide
  obtain ⟨result, answered, status⟩ : ∃ result, evaluate (agreedWithin (.float 1.0))
      ⟨.null, sampleList (ordersOf [0]), sampleList (ordersOf [5])⟩ (.ofMoment? none)
        .earliest = .ok result ∧ result.status = .ok :=
    (evaluate_iff compiled queries threshold (· = .ok)).mpr ⟨(metricsOf_eq_ok folded).1,
      (metricsOf_eq_ok folded').1, .ok, Or.inr ⟨close, rfl⟩, rfl⟩
  exact ⟨check, message, result, compiled, queries, held, held', one, answered, status⟩

end Preview

end CheckKeeper
