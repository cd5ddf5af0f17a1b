import CheckKeeper.Config.Load
import CheckKeeper.Proofs.Bits
import CheckKeeper.Proofs.Restored

namespace CheckKeeper

/-! Configurations from whatever a file may hold.

What is accepted can be run with and is read again from its own record.  What is refused is refused
as a fault of the configuration, unless one of its keys is no text or the value that is refused
cannot be shown; and a time between polls that is accepted is above nought, unless it is no number.
-/

/-- A whole number from one on; the truth values count as nought and one. -/
def Value.IsCount : Value → Prop
  | .bool flag => flag = true
  | .int number => 1 ≤ number
  | _ => False

/-- A number above nought; the truth values count as nought and one. -/
def Value.IsPositive : Value → Prop
  | .bool flag => flag = true
  | .int number => 0 < number
  | .float number => 0.0 < number
  | _ => False

namespace Number

open Float.Model (Format UnpackedFloat)
open Float.Model.UnpackedFloat (pack unpack)

variable {x : Float}

theorem eq_notANumber_iff : x = notANumber ↔ x.toModel.unpack = .notANumber := by
  constructor
  · rintro rfl
    rfl
  · intro none
    obtain ⟨⟨bits, valid⟩⟩ := x
    have packed := pack_unpack valid
    change unpack Format.binary64 bits.toBitVec = .notANumber at none
    rw [none] at packed
    rw [← ofBits_toBits ⟨⟨bits, valid⟩⟩, notANumber]
    congr 1
    exact UInt64.toBitVec_inj.mp packed.symm

theorem not_le_zero_iff : ¬ x ≤ 0.0 ↔ 0.0 < x ∨ x = notANumber := by
  have below : x ≤ 0.0 ↔ x.toModel.unpack.le (.zero .positive) = true := decide_eq_true_iff
  have above : 0.0 < x ↔ UnpackedFloat.lt (.zero .positive) x.toModel.unpack = true :=
    decide_eq_true_iff
  rw [below, above, eq_notANumber_iff]
  cases x.toModel.unpack with
  | notANumber => simp [UnpackedFloat.le, UnpackedFloat.compare]
  | zero sign => simp [UnpackedFloat.le, UnpackedFloat.lt, UnpackedFloat.compare]
  | infinity sign => cases sign <;> simp [UnpackedFloat.le, UnpackedFloat.lt, UnpackedFloat.compare]
  | finite sign mantissa exponent positive =>
      cases sign <;> simp [UnpackedFloat.le, UnpackedFloat.lt, UnpackedFloat.compare]

theorem not_zero_lt_notANumber : ¬ 0.0 < notANumber :=
  of_decide_eq_false rfl

end Number

namespace Config

variable {config found : Config} {row : Row} {value : Value}

theorem isPositiveCount_iff : isPositiveCount value = true ↔ value.IsCount := by
  cases value <;> simp [isPositiveCount, Value.IsCount]

theorem isPositiveNumber_iff :
    isPositiveNumber value = true ↔ value.IsPositive ∨ value = .float Number.notANumber := by
  cases value with
  | float number => simpa [isPositiveNumber, Value.IsPositive] using Number.not_le_zero_iff
  | _ => simp [isPositiveNumber, Value.IsPositive]

theorem isNull_iff : value.isNull = true ↔ value = .null := by
  cases value <;> simp [Value.isNull]

/-- What can be run with, and is read again from its own record. -/
structure Sound (config : Config) : Prop where
  workers : config.maxWorkers.IsCount
  interval : config.pollInterval.IsPositive
  limit : config.batchLimit = .null ∨ config.batchLimit.IsCount
  again : ofRecord (Row.ofCells config.toRecord) = .ok config

theorem check_eq_ok_iff : config.check = .ok found ↔ config.fault? = none ∧ found = config := by
  unfold check
  cases faulty : config.fault? with
  | none => simp [eq_comm]
  | some fault => cases shown : (config.shownFor fault).shown <;> simp [shown, bind, Except.bind]

/-- No key of its own record is unknown, and every setting is found under its key. -/
theorem ofRecord_toRecord (faultless : config.fault? = none) :
    ofRecord (Row.ofCells config.toRecord) = .ok config :=
  check_eq_ok_iff.mpr ⟨faultless, rfl⟩

theorem limits_of_fault?_eq_none (faultless : config.fault? = none) :
    isPositiveCount config.maxWorkers = true ∧ isPositiveNumber config.pollInterval = true ∧
      (config.batchLimit.isNull = true ∨ isPositiveCount config.batchLimit = true) := by
  unfold fault? at faultless
  iterate 4
    split at faultless
    · cases faultless
  rename_i given workers interval limit
  simp only [Bool.not_eq_true', Bool.not_eq_false, Bool.and_eq_true, not_and] at workers interval limit
  refine ⟨workers, interval, ?_⟩
  cases absent : config.batchLimit.isNull with
  | true => exact .inl rfl
  | false => exact .inr (limit absent)

theorem sound_iff (faultless : config.fault? = none) :
    config.Sound ↔ config.pollInterval ≠ .float Number.notANumber := by
  obtain ⟨workers, interval, limit⟩ := limits_of_fault?_eq_none faultless
  constructor
  · intro sound undefined
    have above := sound.interval
    rw [undefined] at above
    exact Number.not_zero_lt_notANumber above
  · intro defined
    exact {
      workers := isPositiveCount_iff.mp workers
      interval := (isPositiveNumber_iff.mp interval).resolve_right defined
      limit := limit.imp isNull_iff.mp isPositiveCount_iff.mp
      again := ofRecord_toRecord faultless }

theorem isLess_error {a b : Value} {failure : Failure} (failed : a.isLess b = .error failure) :
    ∃ fault, failure = .misuse fault := by
  unfold Value.isLess Value.order at failed
  cases compared : a.compare? b with
  | ok order =>
      rw [compared] at failed
      cases failed
  | error fault =>
      rw [compared] at failed
      cases failed
      exact ⟨_, rfl⟩

theorem placeKey_error {key : Value} {failure : Failure} {others : List Value}
    (failed : placeKey key others = .error failure) : ∃ fault, failure = .misuse fault := by
  induction others with
  | nil => cases failed
  | cons other rest ih =>
      rw [placeKey] at failed
      cases less : key.isLess other with
      | error fault =>
          rw [less] at failed
          cases failed
          exact isLess_error less
      | ok before =>
          rw [less] at failed
          cases before with
          | true => cases failed
          | false =>
              cases placed : placeKey key rest with
              | ok later =>
                  simp only [placed, bind, Except.bind, Bool.false_eq_true, if_false] at failed
                  cases failed
              | error fault =>
                  simp only [placed, bind, Except.bind, Bool.false_eq_true, if_false] at failed
                  cases failed
                  exact ih placed

theorem placeKey_perm {key : Value} {others placed : List Value}
    (done : placeKey key others = .ok placed) : placed.Perm (key :: others) := by
  induction others generalizing placed with
  | nil =>
      cases done
      exact .refl _
  | cons other rest ih =>
      obtain ⟨before, _, done⟩ := Compile.bind_eq_ok done
      cases before with
      | true =>
          cases done
          exact .refl _
      | false =>
          obtain ⟨later, placed, done⟩ := Compile.bind_eq_ok done
          cases done
          exact ((ih placed).cons other).trans (.swap key other rest)

/-- Texts are in order, each beside each other. -/
theorem exists_placeKey {text : String} {others : List Value}
    (texts : ∀ other ∈ others, other.text? ≠ none) :
    ∃ placed, placeKey (.text text) others = .ok placed := by
  induction others with
  | nil => exact ⟨_, rfl⟩
  | cons other rest ih =>
      obtain ⟨first, later⟩ := List.forall_mem_cons.mp texts
      obtain ⟨placed, done⟩ := ih later
      cases other with
      | text content =>
          rw [placeKey]
          cases compared : (Value.text text).isLess (.text content) with
          | error failure => cases compared
          | ok before =>
              cases before with
              | true => exact ⟨_, rfl⟩
              | false => exact ⟨.text content :: placed, by rw [done]; rfl⟩
      | _ => exact absurd rfl first

theorem foldlM_placeKey_error {keys ordered : List Value} {failure : Failure}
    (failed : keys.foldlM (fun ordered key => placeKey key ordered) ordered = .error failure) :
    ∃ fault, failure = .misuse fault := by
  induction keys generalizing ordered with
  | nil => cases failed
  | cons key keys ih =>
      rw [List.foldlM_cons] at failed
      cases placed : placeKey key ordered with
      | error fault =>
          rw [placed] at failed
          cases failed
          exact placeKey_error placed
      | ok more =>
          rw [placed] at failed
          exact ih failed

theorem foldlM_placeKey_perm {keys ordered sorted : List Value}
    (done : keys.foldlM (fun ordered key => placeKey key ordered) ordered = .ok sorted) :
    sorted.Perm (keys ++ ordered) := by
  induction keys generalizing ordered with
  | nil =>
      cases done
      exact .refl _
  | cons key keys ih =>
      rw [List.foldlM_cons] at done
      obtain ⟨more, placed, done⟩ := Compile.bind_eq_ok done
      exact (ih done).trans (((placeKey_perm placed).append_left keys).trans List.perm_middle)

theorem exists_foldlM_placeKey {keys ordered : List Value}
    (texts : ∀ key ∈ keys ++ ordered, key.text? ≠ none) :
    ∃ sorted, keys.foldlM (fun ordered key => placeKey key ordered) ordered = .ok sorted := by
  induction keys generalizing ordered with
  | nil => exact ⟨_, rfl⟩
  | cons key keys ih =>
      obtain ⟨first, rest⟩ := List.forall_mem_cons.mp texts
      cases key with
      | text content =>
          have others : ∀ other ∈ ordered, other.text? ≠ none :=
            fun other member => rest other (List.mem_append_right keys member)
          obtain ⟨more, placed⟩ : ∃ more, placeKey (.text content) ordered = .ok more :=
            exists_placeKey others
          rw [List.foldlM_cons, placed]
          refine ih fun other member => ?_
          exact texts other ((((placeKey_perm placed).append_left keys).trans
            List.perm_middle).mem_iff.mp member)
      | _ => exact absurd rfl first

theorem exists_textsFrom {keys : List Value} (texts : ∀ key ∈ keys, key.text? ≠ none)
    (position : Nat) : ∃ names, Value.textsFrom position keys = .ok names := by
  induction keys generalizing position with
  | nil => exact ⟨_, rfl⟩
  | cons key keys ih =>
      obtain ⟨first, rest⟩ := List.forall_mem_cons.mp texts
      obtain ⟨names, read⟩ := ih rest (position + 1)
      cases key with
      | text content => exact ⟨content :: names, by rw [Value.textsFrom, read]; rfl⟩
      | _ => exact absurd rfl first

theorem textsFrom_of_foreign {keys : List Value} (foreign : ∃ key ∈ keys, key.text? = none)
    (position : Nat) : ∃ fault, Value.textsFrom position keys = .error (.misuse fault) := by
  induction keys generalizing position with
  | nil => simp at foreign
  | cons key keys ih =>
      cases key with
      | text content =>
          rw [List.exists_mem_cons_iff] at foreign
          obtain ⟨fault, failed⟩ := ih (foreign.resolve_left (by simp [Value.text?])) (position + 1)
          exact ⟨fault, by rw [Value.textsFrom, failed]; rfl⟩
      | _ => exact ⟨_, rfl⟩

theorem exists_keyNames {keys : List Value} (texts : ∀ key ∈ keys, key.text? ≠ none) :
    ∃ names, keyNames keys = .ok names := by
  have all : ∀ key ∈ keys ++ [], key.text? ≠ none := by simpa using texts
  obtain ⟨sorted, done⟩ := exists_foldlM_placeKey all
  have same : sorted.Perm keys := by simpa using foldlM_placeKey_perm done
  obtain ⟨names, read⟩ := exists_textsFrom (fun key member => texts key (same.mem_iff.mp member)) 0
  exact ⟨names, by rw [keyNames, sortKeys, done]; exact read⟩

/-- Keys of which one is no text cannot be told of, whether or not they can be put in order. -/
theorem keyNames_of_foreign {keys : List Value} (foreign : ∃ key ∈ keys, key.text? = none) :
    ∃ fault, keyNames keys = .error (.misuse fault) := by
  unfold keyNames sortKeys
  cases done : keys.foldlM (fun ordered key => placeKey key ordered) [] with
  | error failure =>
      obtain ⟨fault, rfl⟩ := foldlM_placeKey_error done
      exact ⟨fault, rfl⟩
  | ok sorted =>
      have same : sorted.Perm keys := by simpa using foldlM_placeKey_perm done
      obtain ⟨key, member, other⟩ := foreign
      exact textsFrom_of_foreign ⟨key, same.mem_iff.mpr member, other⟩ 0

/-- A key that is no text is an unknown one. -/
theorem foreign_unknownKeys_iff :
    (∃ key ∈ unknownKeys row, key.text? = none) ↔
      ∃ name cell, (name, cell) ∈ row ∧ name.text? = none := by
  constructor
  · rintro ⟨name, unknown, foreign⟩
    obtain ⟨⟨name, cell⟩, held, rfl⟩ := List.mem_map.mp (List.mem_filter.mp unknown).1
    exact ⟨name, cell, held, foreign⟩
  · rintro ⟨name, cell, held, foreign⟩
    exact ⟨name, List.mem_filter.mpr ⟨List.mem_map_of_mem held, by simp [foreign]⟩, foreign⟩

/-- Answers to a configuration as they should be. -/
inductive Orderly : Except Failure Config → Prop where
  | accepted {config : Config} (sound : config.Sound) : Orderly (.ok config)
  | refused (fault : ConfigFault) : Orderly (.error (.config fault))

/-- Rows that are not answered as they should be. -/
inductive Unruly (row : Row) : Prop where
  | foreign (name cell : Value) (held : (name, cell) ∈ row) (foreign : name.text? = none)
  | unshowable (fault : ConfigFault) (known : unknownKeys row = [])
      (faulty : (ofRow row).fault? = some fault)
      (long : ((ofRow row).shownFor fault).hasLongNumber = true)
  | unpaced (known : unknownKeys row = []) (faultless : (ofRow row).fault? = none)
      (undefined : (ofRow row).pollInterval = .float Number.notANumber)

theorem check_orderly_of_fault {fault : ConfigFault} (faulty : config.fault? = some fault) :
    Orderly config.check ↔ (config.shownFor fault).hasLongNumber = false := by
  unfold check Value.shown
  simp only [faulty]
  cases (config.shownFor fault).hasLongNumber with
  | true => exact iff_of_false (fun orderly => nomatch orderly) (fun short => nomatch short)
  | false => exact iff_of_true (.refused fault) rfl

theorem check_orderly_of_faultless (faultless : config.fault? = none) :
    Orderly config.check ↔ config.pollInterval ≠ .float Number.notANumber := by
  rw [← sound_iff faultless, check_eq_ok_iff.mpr ⟨faultless, rfl⟩]
  exact ⟨fun | .accepted sound => sound, .accepted⟩

theorem ofRecord_orderly_of_known (known : unknownKeys row = []) :
    Orderly (ofRecord row) ↔ ¬ Unruly row := by
  have texts (name cell : Value) (held : (name, cell) ∈ row) : name.text? ≠ none := by
    intro foreign
    obtain ⟨key, unknown, _⟩ := foreign_unknownKeys_iff.mpr ⟨name, cell, held, foreign⟩
    rw [known] at unknown
    cases unknown
  have checked : ofRecord row = (ofRow row).check := by rw [ofRecord, known]
  rw [checked]
  cases faulty : (ofRow row).fault? with
  | some fault =>
      rw [check_orderly_of_fault faulty, ← Bool.not_eq_true]
      refine not_congr ⟨.unshowable fault known faulty, fun unruly => ?_⟩
      cases unruly with
      | foreign name cell held foreign => exact absurd foreign (texts name cell held)
      | unshowable other _ found long => exact Option.some.inj (found.symm.trans faulty) ▸ long
      | unpaced _ faultless => exact nomatch faultless.symm.trans faulty
  | none =>
      rw [check_orderly_of_faultless faulty]
      refine not_congr ⟨.unpaced known faulty, fun unruly => ?_⟩
      cases unruly with
      | foreign name cell held foreign => exact absurd foreign (texts name cell held)
      | unshowable fault _ found => exact nomatch faulty.symm.trans found
      | unpaced _ _ undefined => exact undefined

theorem ofRecord_orderly_of_unknown (unknown : unknownKeys row ≠ []) :
    Orderly (ofRecord row) ↔ ¬ Unruly row := by
  unfold ofRecord
  split
  · contradiction
  by_cases foreign : ∃ key ∈ unknownKeys row, key.text? = none
  · obtain ⟨fault, failed⟩ := keyNames_of_foreign foreign
    obtain ⟨name, cell, held, foreign⟩ := foreign_unknownKeys_iff.mp foreign
    rw [failed]
    exact iff_of_false (fun orderly => nomatch orderly)
      (not_not_intro (.foreign name cell held foreign))
  · obtain ⟨names, told⟩ := exists_keyNames fun key member other => foreign ⟨key, member, other⟩
    rw [told]
    refine iff_of_true (.refused _) fun unruly => ?_
    cases unruly with
    | foreign name cell held other =>
        exact foreign (foreign_unknownKeys_iff.mpr ⟨name, cell, held, other⟩)
    | unshowable _ known => exact unknown known
    | unpaced known => exact unknown known

theorem ofRecord_orderly_iff (row : Row) : Orderly (ofRecord row) ↔ ¬ Unruly row := by
  by_cases known : unknownKeys row = []
  · exact ofRecord_orderly_of_known known
  · exact ofRecord_orderly_of_unknown known

/-- Without settings there are those that are standard. -/
theorem ofRecord_nil_orderly : Orderly (ofRecord []) := by
  have above : 0.0 < (30.0 : Float) := by decide +kernel
  refine (check_orderly_of_faultless fault?_default).mpr fun undefined => ?_
  exact Number.not_zero_lt_notANumber (Value.float.inj undefined ▸ above)

theorem ofValue_orderly_of_no_record {path : String} (other : ∀ row, value ≠ .record row) :
    Orderly (ofValue path value) := by
  unfold ofValue
  split
  · split
    · exact absurd rfl (other _)
    · exact .refused _
  · exact ofRecord_nil_orderly

end Config

end CheckKeeper
