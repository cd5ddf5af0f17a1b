import CheckKeeper.Value.Convert

namespace CheckKeeper.Value

/-! Values that are too much to be shown.

The limits are those of the reader of JSON: how deep lists and records may stand in one another,
and how many digits an integer may have.  A failure that has to show a value beyond them gives way
to the failure to show it.
-/

mutual

/-- What keeps a value from being written with at most `depth` levels of lists and records. -/
def excess? (depth : Nat) : Value → Option Failure
  | .int number =>
      if Number.digitLimit < Number.decimalLength number.natAbs then some (.rule .tooManyDigits)
      else none
  | .list items =>
      match depth with
      | 0 => some .tooDeep
      | depth + 1 => excessOfItems? depth items
  | .record fields =>
      match depth with
      | 0 => some .tooDeep
      | depth + 1 => excessOfFields? depth fields
  | _ => none

def excessOfItems? (depth : Nat) : List Value → Option Failure
  | [] => none
  | item :: rest => (excess? depth item).or (excessOfItems? depth rest)

def excessOfFields? (depth : Nat) : List (Value × Value) → Option Failure
  | [] => none
  | (name, value) :: rest =>
      (excess? depth name).or ((excess? depth value).or (excessOfFields? depth rest))

end

/-- What refusing a value comes to: the failure that shows it, if it can be shown. -/
def refusal (value : Value) (failure : Failure) : Failure :=
  (value.excess? Json.depthLimit).getD failure

/-- The value is within the limits. -/
def IsShown (value : Value) : Prop :=
  value.excess? Json.depthLimit = none

theorem isShown_text (content : String) : (text content).IsShown := rfl

@[simp] theorem refusal_text (content : String) (failure : Failure) :
    (text content).refusal failure = failure := rfl

theorem IsShown.refusal {value : Value} (shown : value.IsShown) (failure : Failure) :
    value.refusal failure = failure := by
  rw [Value.refusal, shown, Option.getD_none]

theorem refusal_of_excess {value : Value} {excess : Failure}
    (found : value.excess? Json.depthLimit = some excess) (failure : Failure) :
    value.refusal failure = excess := by
  rw [refusal, found, Option.getD_some]

theorem excessOfItems?_eq_none_iff {depth : Nat} {items : List Value} :
    excessOfItems? depth items = none ↔ ∀ item ∈ items, item.excess? depth = none := by
  induction items with
  | nil => simp [excessOfItems?]
  | cons item items ih => rw [excessOfItems?, Option.or_eq_none_iff, ih, List.forall_mem_cons]

theorem excessOfFields?_eq_none_iff {depth : Nat} {fields : List (Value × Value)} :
    excessOfFields? depth fields = none ↔
      ∀ field ∈ fields, field.1.excess? depth = none ∧ field.2.excess? depth = none := by
  induction fields with
  | nil => simp [excessOfFields?]
  | cons field fields ih =>
      rw [excessOfFields?, Option.or_eq_none_iff, Option.or_eq_none_iff, ih, List.forall_mem_cons,
        and_assoc]

mutual

/-- More levels keep no value from being written. -/
theorem excess?_deeper {depth deeper : Nat} (more : depth ≤ deeper) (value : Value)
    (within : value.excess? depth = none) : value.excess? deeper = none := by
  cases value with
  | list items =>
      cases depth with
      | zero => cases within
      | succ depth =>
          obtain ⟨deeper, rfl⟩ := Nat.exists_eq_succ_of_ne_zero (Nat.ne_zero_of_lt more)
          exact excessOfItems?_deeper (Nat.le_of_succ_le_succ more) items within
  | record fields =>
      cases depth with
      | zero => cases within
      | succ depth =>
          obtain ⟨deeper, rfl⟩ := Nat.exists_eq_succ_of_ne_zero (Nat.ne_zero_of_lt more)
          exact excessOfFields?_deeper (Nat.le_of_succ_le_succ more) fields within
  | int number => exact within
  | _ => rfl

theorem excessOfItems?_deeper {depth deeper : Nat} (more : depth ≤ deeper) (items : List Value)
    (within : excessOfItems? depth items = none) : excessOfItems? deeper items = none := by
  cases items with
  | nil => rfl
  | cons item rest =>
      obtain ⟨first, later⟩ := Option.or_eq_none_iff.mp within
      exact Option.or_eq_none_iff.mpr
        ⟨excess?_deeper more item first, excessOfItems?_deeper more rest later⟩

theorem excessOfFields?_deeper {depth deeper : Nat} (more : depth ≤ deeper)
    (fields : List (Value × Value)) (within : excessOfFields? depth fields = none) :
    excessOfFields? deeper fields = none := by
  match fields with
  | [] => rfl
  | (name, value) :: rest =>
      obtain ⟨first, within⟩ := Option.or_eq_none_iff.mp within
      obtain ⟨second, later⟩ := Option.or_eq_none_iff.mp within
      exact Option.or_eq_none_iff.mpr ⟨excess?_deeper more name first,
        Option.or_eq_none_iff.mpr
          ⟨excess?_deeper more value second, excessOfFields?_deeper more rest later⟩⟩

end

theorem IsShown.item {items : List Value} {item : Value} (shown : (list items).IsShown)
    (member : item ∈ items) : item.IsShown :=
  excess?_deeper (Nat.le_succ 989) item (excessOfItems?_eq_none_iff.mp shown item member)

theorem IsShown.field {fields : List (Value × Value)} {field : Value × Value}
    (shown : (record fields).IsShown) (member : field ∈ fields) :
    field.1.IsShown ∧ field.2.IsShown := by
  obtain ⟨name, value⟩ := excessOfFields?_eq_none_iff.mp shown field member
  exact ⟨excess?_deeper (Nat.le_succ 989) _ name, excess?_deeper (Nat.le_succ 989) _ value⟩

theorem IsShown.find? {row : Row} {field : String} {value : Value} (shown : (record row).IsShown)
    (found : Row.find? row field = some value) : value.IsShown := by
  obtain ⟨cell, inside, rfl⟩ := Option.map_eq_some_iff.mp found
  exact (shown.field (List.mem_of_find?_eq_some inside)).2

mutual

theorem excess?_cases {depth : Nat} {failure : Failure} (value : Value)
    (excess : value.excess? depth = some failure) :
    failure = .tooDeep ∨ failure = .rule .tooManyDigits := by
  cases value with
  | list items =>
      cases depth with
      | zero => exact .inl (Option.some.inj excess).symm
      | succ depth => exact excessOfItems?_cases items excess
  | record fields =>
      cases depth with
      | zero => exact .inl (Option.some.inj excess).symm
      | succ depth => exact excessOfFields?_cases fields excess
  | int number =>
      rw [excess?] at excess
      split at excess
      · exact .inr (Option.some.inj excess).symm
      · cases excess
  | _ => cases excess

theorem excessOfItems?_cases {depth : Nat} {failure : Failure} (items : List Value)
    (excess : excessOfItems? depth items = some failure) :
    failure = .tooDeep ∨ failure = .rule .tooManyDigits := by
  cases items with
  | nil => cases excess
  | cons item rest =>
      rcases Option.or_eq_some_iff.mp excess with first | ⟨_, later⟩
      · exact excess?_cases item first
      · exact excessOfItems?_cases rest later

theorem excessOfFields?_cases {depth : Nat} {failure : Failure} (fields : List (Value × Value))
    (excess : excessOfFields? depth fields = some failure) :
    failure = .tooDeep ∨ failure = .rule .tooManyDigits := by
  match fields with
  | [] => cases excess
  | (name, value) :: rest =>
      rcases Option.or_eq_some_iff.mp excess with first | ⟨_, excess⟩
      · exact excess?_cases name first
      · rcases Option.or_eq_some_iff.mp excess with second | ⟨_, later⟩
        · exact excess?_cases value second
        · exact excessOfFields?_cases rest later

end

end CheckKeeper.Value
