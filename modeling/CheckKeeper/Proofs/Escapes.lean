import CheckKeeper.Memory.Tables
import CheckKeeper.Proofs.FilterFaults
import CheckKeeper.Proofs.Restored

namespace CheckKeeper

/-! Failures that are not laid to one entry.

Most of what an entry of a file may hold is refused as the fault of that entry.  Not so a filter
that stands too deep, minutes without end, a threshold too large for a number with a fraction, and
a type that is no text, once it has to be compared with the one that is stored.
-/

section Failure

variable {fault : Misuse} {broken : RuleFault} {excess : OverflowFault} {key declared requested : Value}
  {type member checkId : String}

@[simp]
theorem Failure.isEntryFault_misuse : (misuse fault).isEntryFault = true := rfl

@[simp]
theorem Failure.isEntryFault_rule : (rule broken).isEntryFault = true := rfl

@[simp]
theorem Failure.isEntryFault_missing : (missing key).isEntryFault = true := rfl

@[simp]
theorem Failure.isEntryFault_overflow : (overflow excess).isEntryFault = false := rfl

@[simp]
theorem Failure.isEntryFault_noMember : (noMember type member).isEntryFault = false := rfl

@[simp]
theorem Failure.isEntryFault_typeChange :
    (typeChange checkId declared requested).isEntryFault = true := rfl

@[simp]
theorem Failure.isEntryFault_tooDeep : tooDeep.isEntryFault = false := rfl

end Failure

/-- It fails, and not by the fault of an entry. -/
def Escapes {α : Type} (found : Except Failure α) : Prop :=
  ∃ failure, found = .error failure ∧ failure.isEntryFault = false

section Escapes

variable {α β : Type} {found : Except Failure α} {next : α → Except Failure β} {value : α}
  {failure : Failure}

@[simp]
theorem escapes_ok : ¬ Escapes (.ok value) := by
  rintro ⟨_, same, -⟩
  cases same

@[simp]
theorem escapes_error : Escapes (.error failure : Except Failure α) ↔ failure.isEntryFault = false := by
  constructor
  · rintro ⟨_, same, escapes⟩
    cases same
    exact escapes
  · exact fun escapes => ⟨failure, rfl, escapes⟩

@[simp]
theorem escapes_pure : ¬ Escapes (pure value : Except Failure α) :=
  escapes_ok

@[simp]
theorem escapes_throw : Escapes (throw failure : Except Failure α) ↔ failure.isEntryFault = false :=
  escapes_error

theorem escapes_dite {p : Prop} [Decidable p] {first : p → Except Failure α}
    {second : ¬ p → Except Failure α} :
    Escapes (if h : p then first h else second h) ↔
      (∃ h, Escapes (first h)) ∨ ∃ h, Escapes (second h) := by
  split <;> rename_i h <;> simp [h]

theorem escapes_bind :
    Escapes (found >>= next) ↔ Escapes found ∨ ∃ value, found = .ok value ∧ Escapes (next value) := by
  cases found with
  | ok value => simp [bind, Except.bind]
  | error failure => simp [bind, Except.bind]

@[simp]
theorem escapes_map {f : α → β} : Escapes (found.map f) ↔ Escapes found := by
  cases found with
  | ok value => simp [Except.map]
  | error failure => simp [Except.map]

@[simp]
theorem escapes_functor_map {f : α → β} : Escapes (f <$> found) ↔ Escapes found :=
  escapes_map

theorem not_escapes_iff : ¬ Escapes found ↔ FailsIn (·.isEntryFault = true) found := by
  simp [Escapes, FailsIn]

theorem not_escapes_mapError {ε : Type} {found : Except ε α} {blame : ε → Failure}
    (blamed : ∀ fault, (blame fault).isEntryFault = true) : ¬ Escapes (found.mapError blame) := by
  cases found with
  | ok value => exact escapes_ok
  | error fault => simp [Except.mapError, blamed]

end Escapes

namespace Value

variable {value : Value}

/-- A value that is given, and is no text. -/
def IsUnworded (value : Value) : Prop :=
  value.isGiven = true ∧ value.text? = none

theorem not_escapes_written : ¬ Escapes value.written := by
  unfold written
  split
  · simp
  · exact escapes_ok

theorem not_escapes_toItems : ¬ Escapes value.toItems := by
  cases value <;> simp [toItems]

theorem not_escapes_toMoment : ¬ Escapes value.toMoment := by
  unfold toMoment
  split
  · exact escapes_ok
  · rw [escapes_bind, not_or]
    refine ⟨not_escapes_written, ?_⟩
    rintro ⟨text, -, escapes⟩
    exact not_escapes_mapError (fun _ => rfl) escapes

theorem escapes_intOfFloat {x : Float} :
    Escapes (intOfFloat x) ↔ Number.isInfinite x = true := by
  unfold intOfFloat Number.toDyadic?
  by_cases finite : Number.magnitudeCode x < Number.infinityCode
  · have bounded : Number.isInfinite x = false := decide_eq_false finite.ne
    simp [finite, bounded]
  · have whole : Number.isNaN x = !Number.isInfinite x := by
      rw [Number.isNaN, Number.isInfinite, ← decide_not, decide_eq_decide]
      omega
    rw [if_neg finite, whole]
    cases Number.isInfinite x <;> simp

theorem escapes_toInt : Escapes value.toInt ↔ ∃ x, value = .float x ∧ Number.isInfinite x = true := by
  cases value with
  | float number => simpa [toInt] using escapes_intOfFloat
  | text content => simpa [toInt] using not_escapes_mapError fun _ => rfl
  | _ => simp [toInt]

theorem escapes_floatOfInt {i : Int} :
    Escapes (floatOfInt i) ↔ Number.isInfinite (Number.ofInt i) = true := by
  unfold floatOfInt
  dsimp only
  split <;> simp_all

theorem escapes_toFloat :
    Escapes value.toFloat ↔ ∃ i, value = .int i ∧ Number.isInfinite (Number.ofInt i) = true := by
  cases value with
  | bool flag =>
      have finite : Number.isInfinite (Number.ofInt (bit flag)) = false := by
        cases flag <;> decide +kernel
      simp [toFloat, escapes_floatOfInt, finite]
  | int number => simpa [toFloat] using escapes_floatOfInt
  | text content => simpa [toFloat] using not_escapes_mapError fun _ => rfl
  | _ => simp [toFloat]

end Value

theorem escapes_readUnlessNull {read : Value → Except Failure Value} {value : Value} :
    Escapes (readUnlessNull read value) ↔ value ≠ .null ∧ Escapes (read value) := by
  unfold readUnlessNull
  cases value <;> simp [Value.isNull]

theorem not_escapes_readKeyColumns {value : Value} : ¬ Escapes (readKeyColumns value) := by
  unfold readKeyColumns
  rw [not_escapes_iff]
  dsimp only
  split
  · exact failsIn_bind (failsIn_ok _) fun names => failsIn_ok _
  · exact failsIn_bind (failsIn_ok _) fun names => failsIn_ok _
  · refine failsIn_bind (not_escapes_iff.mp Value.not_escapes_toItems) fun items => ?_
    refine failsIn_bind (failsIn_mapM fun item _ => ?_) fun names => failsIn_ok _
    exact not_escapes_iff.mp Value.not_escapes_written

theorem escapes_readRowFilter {value : Value} :
    Escapes (readRowFilter value) ↔ readRowFilter value = .error .tooDeep := by
  constructor
  · rintro ⟨failure, failed, escapes⟩
    unfold readRowFilter at failed ⊢
    split at failed
    · split at failed
      · cases failed
      · rename_i content given
        rw [if_neg given]
        cases read : Json.read content with
        | ok filter => simp [read] at failed
        | error fault =>
            cases fault with
            | tooDeep => rfl
            | malformed => simp [read] at failed
            | tooManyDigits count =>
                simp only [read] at failed
                cases failed
                cases escapes
    · cases failed
  · intro deep
    rw [deep]
    simp

namespace Definition

variable {row : Row} {d old : Definition}

/-- The id and the key columns of the row are read. -/
def IsBegun (row : Row) : Prop :=
  (∃ cell checkId, row.require "check_id" = .ok cell ∧ cell.written = .ok checkId) ∧
    ∃ names, readKeyColumns (keyColumnsOf row) = .ok names

/-- The reading of the row stops by what is no fault of an entry; the cells are read in this order. -/
inductive Stops (row : Row) : Prop where
  | filter (begun : IsBegun row) (deep : readRowFilter (row.get "row_filter") = .error .tooDeep)
  | minutes (begun : IsBegun row)
      (filtered : ∃ filter, readRowFilter (row.get "row_filter") = .ok filter)
      (number : Float) (given : row.get "sla_minutes" = .float number)
      (endless : Number.isInfinite number = true)
  | threshold (begun : IsBegun row)
      (filtered : ∃ filter, readRowFilter (row.get "row_filter") = .ok filter)
      (timed : ∃ minutes, readUnlessNull (fun v => v.toInt.map .int) (row.get "sla_minutes") = .ok minutes)
      (number : Int) (given : row.get "threshold_ratio" = .int number)
      (large : Number.isInfinite (Number.ofInt number) = true)

theorem escapes_readMinutes {cell : Value} :
    Escapes (readUnlessNull (fun v => v.toInt.map .int) cell) ↔
      ∃ number, cell = .float number ∧ Number.isInfinite number = true := by
  rw [escapes_readUnlessNull, escapes_map, Value.escapes_toInt, and_iff_right_iff_imp]
  rintro ⟨number, rfl, -⟩
  nofun

theorem escapes_readThreshold {cell : Value} :
    Escapes (readUnlessNull (fun v => v.toFloat.map .float) cell) ↔
      ∃ number, cell = .int number ∧ Number.isInfinite (Number.ofInt number) = true := by
  rw [escapes_readUnlessNull, escapes_map, Value.escapes_toFloat, and_iff_right_iff_imp]
  rintro ⟨number, rfl, -⟩
  nofun

theorem not_escapes_readTime {cell : Value} :
    ¬ Escapes (readUnlessNull (fun v => v.toMoment.map .moment) cell) := by
  rw [escapes_readUnlessNull, escapes_map, not_and]
  exact fun _ => Value.not_escapes_toMoment

theorem not_escapes_require {field : String} : ¬ Escapes (row.require field) := by
  unfold Row.require
  split <;> simp

/-- Ids, key columns and times are refused as faults of the entry, and so is an empty id. -/
theorem escapes_ofRow_iff : Escapes (ofRow row) ↔ Stops row := by
  unfold ofRow
  simp only [escapes_bind, not_escapes_require, Value.not_escapes_written, not_escapes_readKeyColumns,
    escapes_readRowFilter, escapes_readMinutes, escapes_readThreshold, not_escapes_readTime,
    escapes_dite, escapes_pure, escapes_throw, Failure.isEntryFault_rule, Bool.true_eq_false,
    exists_false, and_false, or_false, false_or]
  constructor
  · rintro ⟨cell, named, checkId, written, names, keyed, later⟩
    have begun : IsBegun row := ⟨⟨cell, checkId, named, written⟩, names, keyed⟩
    rcases later with deep | ⟨filter, filtered, later⟩
    · exact .filter begun deep
    rcases later with ⟨number, given, endless⟩ | ⟨minutes, timed, number, given, large⟩
    · exact .minutes begun ⟨filter, filtered⟩ number given endless
    · exact .threshold begun ⟨filter, filtered⟩ ⟨minutes, timed⟩ number given large
  · intro stops
    have begun : IsBegun row := by
      cases stops <;> assumption
    obtain ⟨⟨cell, checkId, named, written⟩, names, keyed⟩ := begun
    refine ⟨cell, named, checkId, written, names, keyed, ?_⟩
    cases stops with
    | filter _ deep => exact .inl deep
    | minutes _ filtered number given endless =>
        obtain ⟨filter, filtered⟩ := filtered
        exact .inr ⟨filter, filtered, .inl ⟨number, given, endless⟩⟩
    | threshold _ filtered timed number given large =>
        obtain ⟨filter, filtered⟩ := filtered
        obtain ⟨minutes, timed⟩ := timed
        exact .inr ⟨filter, filtered, .inr ⟨minutes, timed, number, given, large⟩⟩

theorem kind_eq_ok_iff : (∃ kind, d.kind = .ok kind) ↔ ¬ d.checkType.IsUnworded := by
  unfold kind CheckKind.parse Value.toTextOrEmpty Value.IsUnworded
  cases d.checkType.isGiven with
  | false => simp [Except.map]
  | true => cases d.checkType <;> simp [Value.toText, Value.text?, Except.map]

theorem escapes_kind_iff : Escapes d.kind ↔ d.checkType.IsUnworded := by
  unfold kind CheckKind.parse Value.toTextOrEmpty Value.IsUnworded
  cases d.checkType.isGiven with
  | false => simp
  | true => cases d.checkType <;> simp [Value.toText, Value.text?]

theorem escapes_checkKind_iff :
    Escapes (old.checkKind d) ↔ old.checkType.IsUnworded ∨ d.checkType.IsUnworded := by
  have compared (declared requested : CheckKind) :
      ¬ Escapes (if declared = requested then pure () else
        .error (.typeChange d.checkId old.checkType d.checkType)) := by
    split <;> simp
  unfold checkKind
  simp only [escapes_bind, escapes_kind_iff, compared, and_false, exists_false, or_false]
  by_cases worded : old.checkType.IsUnworded
  · simp [worded]
  · obtain ⟨kind, declared⟩ := kind_eq_ok_iff.mpr worded
    simp [worded, declared]

end Definition

end CheckKeeper
