import Mathlib.Data.List.Basic
import CheckKeeper.Preview.Evaluate
import CheckKeeper.Proofs.Keyed
import CheckKeeper.Proofs.Verdict

namespace CheckKeeper.Preview

open Compile (bind_eq_ok)

/-! What the rows of one side come to.

All rows of a side are folded into one number for each name, so that of several numbers of a name
only the last one counts, whichever row it is in.
-/

/-- A sample row as it is given: names, and what is in their cells. -/
abbrev Sample := List (String × Value)

/-- The value can be looked at for a number, be there one or not. -/
def Readable (value : Value) : Prop :=
  ∃ number, numberOf value = .ok number

/-- No cell holds an integer beyond the range of numbers with a fraction. -/
def InRange (samples : List Sample) : Prop :=
  ∀ sample ∈ samples, ∀ field ∈ sample, Readable field.2

def Sample.numbers (sample : Sample) : Metrics :=
  sample.filterMap fun field => (numberOf field.2).toOption.join.map fun number => (field.1, number)

/-- The numbers of all rows, in the order in which they stand. -/
def numbers (samples : List Sample) : Metrics :=
  samples.flatMap Sample.numbers

/-- The number of a name that comes last. -/
def last? (samples : List Sample) (name : String) : Option Float :=
  (numbers samples).reverse.lookup name

def setAll (metrics found : Metrics) : Metrics :=
  found.foldl (fun metrics number => setMetric metrics number.1 number.2) metrics

variable {samples : List Sample} {sample : Sample} {metrics found : Metrics} {name other : String}
  {number : Float}

theorem lookup_eq_find? (metrics : Metrics) (name : String) :
    metrics.lookup name = (metrics.find? (·.1 == name)).map (·.2) := by
  induction metrics with
  | nil => rfl
  | cons first rest ih =>
      rw [List.lookup_cons, List.find?_cons, Bool.beq_comm]
      cases first.1 == name with
      | true => rfl
      | false => exact ih

theorem lookup_setMetric : (setMetric metrics name number).lookup other =
    ([(name, number)].lookup other).or (metrics.lookup other) := by
  have put : setMetric metrics name number = Keyed.put (·.1) (name, number) metrics := rfl
  rw [put, lookup_eq_find?, Keyed.find?_put, lookup_eq_find? metrics, lookup_eq_find? [_]]
  by_cases same : name = other
  · simp [same]
  · simp [same]

/-- Of numbers that are set one after the other the last one stays. -/
theorem lookup_setAll : (setAll metrics found).lookup name =
    (found.reverse.lookup name).or (metrics.lookup name) := by
  induction found generalizing metrics with
  | nil => rfl
  | cons number found ih =>
      have step : setAll metrics (number :: found) =
          setAll (setMetric metrics number.1 number.2) found := rfl
      rw [step, ih, lookup_setMetric, List.reverse_cons, List.lookup_append, Option.or_assoc]

theorem setAll_append (first later : Metrics) :
    setAll metrics (first ++ later) = setAll (setAll metrics first) later :=
  List.foldl_append

theorem mem_of_lookup (there : metrics.lookup name = some number) : (name, number) ∈ metrics := by
  obtain ⟨before, after, same, _⟩ := List.lookup_eq_some_iff.mp there
  simp [same]

theorem lookup_of_mem (distinct : (metrics.map (·.1)).Nodup) (there : (name, number) ∈ metrics) :
    metrics.lookup name = some number := by
  rw [lookup_eq_find?]
  exact congrArg (Option.map (·.2)) (Keyed.find?_of_mem distinct there)

theorem mem_numbers_of_last? (there : last? samples name = some number) :
    ∃ sample ∈ samples, (name, number) ∈ sample.numbers := by
  have inside : (name, number) ∈ numbers samples := List.mem_reverse.mp (mem_of_lookup there)
  exact List.mem_flatMap.mp inside

/-- Where no name has more than one number, each number is the last of its name. -/
theorem last?_of_mem (distinct : ((numbers samples).map (·.1)).Nodup) (given : sample ∈ samples)
    (there : (name, number) ∈ sample.numbers) : last? samples name = some number := by
  have inside : (name, number) ∈ (numbers samples).reverse :=
    List.mem_reverse.mpr (List.mem_flatMap.mpr ⟨sample, given, there⟩)
  have distinct' : ((numbers samples).reverse.map (·.1)).Nodup := by
    rw [List.map_reverse]
    exact List.nodup_reverse.mpr distinct
  exact lookup_of_mem distinct' inside

theorem numbers_cons {field : String × Value} {known : Option Float}
    (read : numberOf field.2 = .ok known) :
    Sample.numbers (field :: sample) = (known.map fun number => (field.1, number)).toList ++
      Sample.numbers sample := by
  rw [Sample.numbers, List.filterMap_cons, read]
  cases known <;> rfl

theorem addFields_cons {field : String × Value} {known : Option Float} (rest : Row)
    (read : numberOf field.2 = .ok known) :
    addFields metrics ((.text field.1, field.2) :: rest) =
      addFields (setAll metrics (known.map fun number => (field.1, number)).toList) rest := by
  rw [addFields, read]
  cases known <;> rfl

/-- The fields of a row add its numbers, unless one of them cannot be read. -/
theorem addFields_eq_ok (sample : Sample) :
    addFields metrics (sample.map fun field => (.text field.1, field.2)) = .ok found ↔
      (∀ field ∈ sample, Readable field.2) ∧ found = setAll metrics sample.numbers := by
  induction sample generalizing metrics with
  | nil => simp [addFields, Sample.numbers, setAll, eq_comm]
  | cons field sample ih =>
      rw [List.map_cons]
      cases read : numberOf field.2 with
      | error failure =>
          have unread : addFields metrics ((.text field.1, field.2) ::
              sample.map fun field => (.text field.1, field.2)) = .error failure := by
            rw [addFields, read]
            rfl
          rw [unread]
          refine iff_of_false (by simp) ?_
          rintro ⟨readable, _⟩
          obtain ⟨number, same⟩ := readable field List.mem_cons_self
          rw [read] at same
          cases same
      | ok known =>
          have readable : Readable field.2 := ⟨known, read⟩
          rw [addFields_cons _ read, ih, numbers_cons read, setAll_append, List.forall_mem_cons]
          simp only [readable, true_and]

theorem addRows_cons (sample : Sample) (rest : List Value) :
    addRows metrics (.ofFields sample :: rest) =
      (addFields metrics (sample.map fun field => (.text field.1, field.2)) >>= fun added =>
        addRows added rest) :=
  rfl

theorem addRows_eq_ok (samples : List Sample) :
    addRows metrics (samples.map .ofFields) = .ok found ↔
      InRange samples ∧ found = setAll metrics (numbers samples) := by
  induction samples generalizing metrics with
  | nil => simp [addRows, InRange, numbers, setAll, eq_comm]
  | cons sample samples ih =>
      have spread : numbers (sample :: samples) = sample.numbers ++ numbers samples :=
        List.flatMap_cons
      rw [List.map_cons, addRows_cons, InRange, List.forall_mem_cons, spread, setAll_append]
      constructor
      · intro done
        obtain ⟨added, first, rest⟩ := bind_eq_ok done
        obtain ⟨readable, rfl⟩ := (addFields_eq_ok sample).mp first
        obtain ⟨later, same⟩ := ih.mp rest
        exact ⟨⟨readable, later⟩, same⟩
      · rintro ⟨⟨readable, later⟩, same⟩
        rw [(addFields_eq_ok sample).mpr ⟨readable, rfl⟩]
        exact ih.mpr ⟨later, same⟩

/-- The metrics of a side are its last numbers, and there are none if a number is out of range. -/
theorem metricsOf_eq_ok (done : metricsOf (samples.map .ofFields) = .ok found) :
    InRange samples ∧ ∀ name, found.lookup name = last? samples name := by
  obtain ⟨range, rfl⟩ := (addRows_eq_ok samples).mp done
  refine ⟨range, fun name => ?_⟩
  rw [lookup_setAll, List.lookup_nil, Option.or_none]
  rfl

theorem exists_metricsOf (range : InRange samples) :
    ∃ found, metricsOf (samples.map .ofFields) = .ok found :=
  ⟨_, (addRows_eq_ok samples).mpr ⟨range, rfl⟩⟩

theorem mem_commonNames {source target : Metrics} : name ∈ commonNames source target ↔
    (∃ s, source.lookup name = some s) ∧ ∃ t, target.lookup name = some t := by
  have present (metrics : Metrics) : (∃ number, metrics.lookup name = some number) ↔
      ∃ entry ∈ metrics, entry.1 = name := by
    rw [← Option.isSome_iff_exists, List.lookup_isSome_iff]
    simp only [beq_iff_eq, @eq_comm _ name]
  rw [commonNames, List.mem_mergeSort, present, present, List.mem_map]
  constructor
  · rintro ⟨entry, kept, rfl⟩
    obtain ⟨inside, matched⟩ := List.mem_filter.mp kept
    obtain ⟨partner, there, same⟩ := List.any_eq_true.mp matched
    exact ⟨⟨entry, inside, rfl⟩, partner, there, beq_iff_eq.mp same⟩
  · rintro ⟨⟨entry, inside, rfl⟩, partner, there, same⟩
    refine ⟨entry, List.mem_filter.mpr ⟨inside, ?_⟩, rfl⟩
    exact List.any_eq_true.mpr ⟨partner, there, beq_iff_eq.mpr same⟩

/-- There is a deviation for each name that has a number on both sides. -/
theorem mem_deviations {source target : Metrics} {deviation : Deviation} :
    deviation ∈ deviations source target ↔
      source.lookup deviation.name = some deviation.source ∧
        target.lookup deviation.name = some deviation.target := by
  rw [deviations, List.mem_map]
  constructor
  · rintro ⟨name, common, rfl⟩
    obtain ⟨⟨s, first⟩, t, second⟩ := mem_commonNames.mp common
    simp only [metric, first, second, Option.getD_some, and_self]
  · rintro ⟨first, second⟩
    refine ⟨deviation.name, mem_commonNames.mpr ⟨⟨_, first⟩, _, second⟩, ?_⟩
    simp only [metric, first, second, Option.getD_some]

end CheckKeeper.Preview
