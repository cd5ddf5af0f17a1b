import Mathlib.Data.List.DropRight
import CheckKeeper.Proofs.Decision

namespace CheckKeeper

/-! What can be wrong with a definition.

For each kind there is a list of flaws, each with the reason that is given for it, or with the failure
that takes the place of one.  A step of the compiler tells of some of them, and steps one after
another tell of one list after the other.
-/

theorem Text.stripText_eq_empty {s : String} : stripText s = "" ↔ isBlankText s = true := by
  have trimmed : strip s.toList = [] ↔ ∀ c ∈ s.toList, isBlank c = true := by
    have ends : strip s.toList = List.rdropWhile isBlank (s.toList.dropWhile isBlank) := rfl
    rw [ends, List.rdropWhile_eq_nil_iff, ← List.dropWhile_eq_nil_iff, List.dropWhile_idempotent,
      List.dropWhile_eq_nil_iff]
  rw [stripText, String.ofList_eq_empty_iff, trimmed, isBlankText, List.all_eq_true]

/-- The reading fails, in whatever way. -/
def Rejected {ε α : Type} (found : Except ε α) : Prop :=
  ∃ failure, found = .error failure

section Rejected

variable {ε α β : Type} {found : Except ε α} {read : α → Except ε β}

theorem rejected_iff : Rejected found ↔ ¬ ∃ value, found = .ok value := by
  cases found <;> simp [Rejected]

theorem not_rejected (accepted : found.isOk = true) : ¬ Rejected found := by
  rintro ⟨failure, rfl⟩
  cases accepted

theorem rejected_bind_ok {next : α → β} :
    Rejected (found >>= fun value => .ok (next value)) ↔ Rejected found := by
  cases found <;> simp [Rejected, bind, Except.bind]

theorem rejected_mapM {items : List α} :
    Rejected (items.mapM read) ↔ ∃ item ∈ items, Rejected (read item) := by
  induction items with
  | nil => simp [Rejected, pure, Except.pure]
  | cons item items ih =>
      rw [List.mapM_cons, List.exists_mem_cons_iff, ← ih]
      cases first : read item with
      | error failure => simp [Rejected, bind, Except.bind]
      | ok value =>
          have accepted : ¬ Rejected (Except.ok value : Except ε β) := by simp [Rejected]
          simp only [accepted, false_or]
          exact rejected_bind_ok

end Rejected

namespace Sql

variable {filter entry : Value} {condition : Condition} {conditions : List Condition}

structure Demand where
  column : Value
  operator : Value
  value : Value

def demandOf : Value → Option Demand
  | .record row =>
      some ⟨Row.get row "column", (Row.find? row "op").getD (.text "="), Row.get row "value"⟩
  | _ => none

def demands : Value → List Demand
  | .record row => row.map fun (column, value) => ⟨column, .text "=", value⟩
  | .list entries => entries.filterMap demandOf
  | _ => []

/-- No filter at all, a record, or a list whose entries all name a column and an operator. -/
def WellShaped (filter : Value) : Prop :=
  filter.isGiven = false ∨ (∃ row, filter = .record row) ∨
    ∃ entries, filter = .list entries ∧ ∀ entry ∈ entries, InOrder entry

def OperatorTyped (entry : Value) : Prop :=
  ∀ row operator, entry = .record row → Row.find? row "op" = some operator → operator.TextOrNull

/-- The operators of a listed filter are texts or null, as far as there are any. -/
def OperatorsTyped (filter : Value) : Prop :=
  ∀ entries, filter = .list entries → ∀ entry ∈ entries, OperatorTyped entry

def IsFilterFault : Failure → Prop
  | .rowFilter _ => True
  | _ => False

def Condition.toDemand (condition : Condition) : Demand :=
  ⟨condition.column, .text condition.comparison.symbol, condition.value⟩

/-- The condition can be told from other entries: it is a record that names a column. -/
def NamesColumn (entry : Value) : Prop :=
  ∃ row, entry = .record row ∧ Row.has row "column" = true

/-- The first entry that is not in order is none that names a column, and showing it fails. -/
def Unshown (filter : Value) (failure : Failure) : Prop :=
  ∃ before entry after, filter = .list (before ++ entry :: after) ∧
    (∀ first ∈ before, InOrder first) ∧ ¬ NamesColumn entry ∧
    entry.excess? Json.depthLimit = some failure

theorem Unshown.cases {failure : Failure} (unshown : Unshown filter failure) :
    failure = .tooDeep ∨ failure = .rule .tooManyDigits := by
  obtain ⟨_, entry, _, _, _, _, excess⟩ := unshown
  exact Value.excess?_cases entry excess

theorem ofValue_faults {operator : Value} (cell : operator.TextOrNull) :
    FailsIn IsFilterFault (Comparison.ofValue operator) := by
  rcases cell with rfl | ⟨content, rfl⟩
  · exact failsIn_error trivial
  · rw [ofValue_text]
    split
    · exact failsIn_ok _
    · exact failsIn_error trivial

theorem ofEntry_of_not_namesColumn (nameless : ¬ NamesColumn entry) :
    Condition.ofEntry entry = .error (entry.refusal (.rowFilter (.entry entry))) := by
  unfold Condition.ofEntry
  split
  · rename_i row
    split
    · rename_i column named
      exact absurd ⟨row, rfl, by rw [Row.has, named]; rfl⟩ nameless
    · rfl
  · rfl

theorem ofEntry_faults (typed : OperatorTyped entry) (named : NamesColumn entry) :
    FailsIn IsFilterFault (Condition.ofEntry entry) := by
  obtain ⟨row, rfl, named⟩ := named
  obtain ⟨column, named⟩ := Option.isSome_iff_exists.mp named
  unfold Condition.ofEntry
  simp only [named]
  refine failsIn_bind (ofValue_faults ?_) fun comparison => failsIn_ok _
  cases given : Row.find? row "op" with
  | none => exact Or.inr ⟨"=", rfl⟩
  | some operator => exact typed row operator rfl given

theorem ofFilter_of_unshown {failure : Failure} (unshown : Unshown filter failure) :
    Condition.ofFilter filter = .error failure := by
  obtain ⟨before, entry, after, rfl, ordered, nameless, excess⟩ := unshown
  have given : (Value.list (before ++ entry :: after)).isGiven = true := by simp [Value.isGiven]
  have failed : (before ++ entry :: after).mapM Condition.ofEntry = .error failure := by
    refine mapM_eq_error_iff.mpr ⟨before, entry, after, rfl, ?_, ?_⟩
    · exact fun first member => inOrder_iff.mp (ordered first member)
    · rw [ofEntry_of_not_namesColumn nameless, Value.refusal_of_excess excess]
  simpa [Condition.ofFilter, given] using failed

/-- The shape of a filter is refused for a fault of it, unless that fault cannot be shown. -/
theorem ofFilter_faults (typed : OperatorsTyped filter) :
    FailsIn (fun failure => IsFilterFault failure ∨ Unshown filter failure)
      (Condition.ofFilter filter) := by
  unfold Condition.ofFilter
  split
  · exact failsIn_ok _
  · split
    · exact failsIn_ok _
    · exact failsIn_error (Or.inl trivial)
    · intro failure failed
      obtain ⟨before, entry, after, rfl, well, failed⟩ := mapM_eq_error_iff.mp failed
      by_cases named : NamesColumn entry
      · exact Or.inl (ofEntry_faults (typed _ rfl entry (by simp)) named failure failed)
      · rw [ofEntry_of_not_namesColumn named] at failed
        cases failed
        cases excess : entry.excess? Json.depthLimit with
        | none => exact Or.inl (by rw [Value.IsShown.refusal excess]; trivial)
        | some failure =>
            rw [Value.refusal_of_excess excess]
            exact Or.inr ⟨before, entry, after, rfl,
              fun first member => inOrder_iff.mpr (well first member), named, excess⟩
    · exact failsIn_error (Or.inl trivial)

theorem rejected_ofFilter : Rejected (Condition.ofFilter filter) ↔ ¬ WellShaped filter := by
  have entries_rejected (entries : List Value) :
      Rejected (entries.mapM Condition.ofEntry) ↔ ¬ ∀ entry ∈ entries, InOrder entry := by
    rw [rejected_mapM]
    simp only [rejected_iff, inOrder_iff, not_forall, exists_prop]
  unfold Condition.ofFilter WellShaped
  cases given : filter.isGiven with
  | false => simp [Rejected]
  | true =>
      cases filter with
      | record row => simp [Rejected]
      | list entries => simpa using entries_rejected entries
      | _ => simp [Rejected]

theorem demandOf_of_ofEntry (read : Condition.ofEntry entry = .ok condition) :
    demandOf entry = some condition.toDemand := by
  unfold Condition.ofEntry at read
  split at read
  · split at read
    · rename_i row column named
      obtain ⟨comparison, looked_up, rest⟩ := Compile.bind_eq_ok read
      cases rest
      rw [demandOf, ofValue_eq_ok_iff.mp looked_up, Row.get, named]
      rfl
    · cases read
  · cases read

theorem filterMap_demandOf {entries : List Value}
    (read : entries.mapM Condition.ofEntry = .ok conditions) :
    entries.filterMap demandOf = conditions.map Condition.toDemand := by
  have each := Compile.forall₂_of_mapM read
  clear read
  induction each with
  | nil => rfl
  | cons first _ ih =>
      rw [List.filterMap_cons_some (demandOf_of_ofEntry first), ih, List.map_cons]

theorem demands_of_ofFilter (read : Condition.ofFilter filter = .ok conditions) :
    demands filter = conditions.map Condition.toDemand := by
  unfold Condition.ofFilter at read
  split at read
  · rename_i empty
    cases read
    cases filter with
    | list entries =>
        have none_there : entries = [] := by simpa [Value.isGiven] using empty
        rw [none_there]
        rfl
    | record row =>
        have none_there : row = [] := by simpa [Value.isGiven] using empty
        rw [none_there]
        rfl
    | _ => rfl
  · split at read
    · cases read
      rw [demands, List.map_map]
      rfl
    · cases read
    · exact filterMap_demandOf read
    · cases read

end Sql

namespace Compile

open Sql

/-- What is found out about a definition: a reason to be given, or a failure. -/
inductive Finding where
  | reason (reason : InvalidReason)
  | failure (failure : Failure)

def Finding.isReason : Finding → Bool
  | .reason _ => true
  | .failure _ => false

abbrev Flaw : Type :=
  Prop × Finding

/-- What is found out first: what goes with the first of the flaws that applies, if any does. -/
inductive FirstOf : List Flaw → Option Finding → Prop where
  | nothing : FirstOf [] none
  | here {applies : Prop} {finding : Finding} {rest : List Flaw} (found : applies) :
      FirstOf ((applies, finding) :: rest) (some finding)
  | later {applies : Prop} {finding : Finding} {rest : List Flaw} {told : Option Finding}
      (spared : ¬ applies) (found : FirstOf rest told) : FirstOf ((applies, finding) :: rest) told

variable {α β ε : Type} {reason : InvalidReason} {finding : Finding} {flaws more : List Flaw}
  {told other : Option Finding} {applies : Prop} {unshown : Failure → Prop}

theorem FirstOf.unique (one : FirstOf flaws told) (two : FirstOf flaws other) : told = other := by
  induction one with
  | nothing =>
      cases two
      rfl
  | here found =>
      cases two with
      | here _ => rfl
      | later spared _ => exact absurd found spared
  | later spared _ ih =>
      cases two with
      | here found => exact absurd found spared
      | later _ found => exact ih found

theorem FirstOf.append_some (first : FirstOf flaws (some finding)) (more : List Flaw) :
    FirstOf (flaws ++ more) (some finding) := by
  induction flaws with
  | nil => cases first
  | cons flaw flaws ih =>
      cases first with
      | here found => exact .here found
      | later spared found => exact .later spared (ih found)

theorem FirstOf.append_none (clear : FirstOf flaws none) (found : FirstOf more told) :
    FirstOf (flaws ++ more) told := by
  induction flaws with
  | nil => exact found
  | cons flaw flaws ih =>
      cases clear with
      | later spared clear => exact .later spared (ih clear)

theorem FirstOf.exists_mem (first : FirstOf flaws (some finding)) :
    ∃ flaw ∈ flaws, flaw.2 = finding ∧ flaw.1 := by
  induction flaws with
  | nil => cases first
  | cons flaw flaws ih =>
      cases first with
      | here found => exact ⟨_, List.mem_cons_self, rfl, found⟩
      | later _ first =>
          obtain ⟨flaw, member, same⟩ := ih first
          exact ⟨flaw, List.mem_cons_of_mem _ member, same⟩

/-- What goes wrong is what goes with the first flaw, and where nothing does there is none. -/
def Tells (flaws : List Flaw) : Except Refusal α → Prop
  | .ok _ => FirstOf flaws none
  | .error (.reason reason _) => FirstOf flaws (some (.reason reason))
  | .error (.failure failure) => FirstOf flaws (some (.failure failure))

theorem Tells.behind {found : Except Refusal α} (clear : FirstOf flaws none)
    (later : Tells more found) : Tells (flaws ++ more) found := by
  cases found with
  | ok value => exact clear.append_none later
  | error refusal => cases refusal <;> exact clear.append_none later

theorem Tells.bind {found : Except Refusal α} {next : α → Except Refusal β}
    (first : Tells flaws found) (rest : ∀ value, found = .ok value → Tells more (next value)) :
    Tells (flaws ++ more) (found >>= next) := by
  cases found with
  | ok value => exact (rest value rfl).behind first
  | error refusal => cases refusal <;> exact first.append_some more

theorem Tells.bind_ok {found : Except Refusal α} {next : α → Except Refusal β}
    (first : Tells flaws found) (rest : ∀ value, ∃ result, next value = .ok result) :
    Tells flaws (found >>= next) := by
  rw [← List.append_nil flaws]
  refine first.bind fun value _ => ?_
  obtain ⟨result, done⟩ := rest value
  rw [done]
  exact .nothing

theorem tells_read {found : Except Failure α} {value : α} {next : α → Except Refusal β}
    (read : found = .ok value) (rest : Tells flaws (next value)) :
    Tells flaws (declared found >>= next) := by
  rw [read]
  exact rest

theorem tells_mapError {found : Except ε α} {refuse : ε → Refusal}
    (fails : FailsIn (fun failure => ∃ text, refuse failure = .reason reason text) found)
    (means : Rejected found ↔ applies) :
    Tells [(applies, .reason reason)] (found.mapError refuse) := by
  cases found with
  | ok value =>
      have accepted : ¬ applies := by
        rw [← means]
        simp [Rejected]
      exact .later accepted .nothing
  | error failure =>
      obtain ⟨text, given⟩ := fails failure rfl
      have refused : (Except.error failure : Except ε α).mapError refuse = .error (.reason reason text) :=
        congrArg Except.error given
      rw [refused]
      exact .here (means.mp ⟨failure, rfl⟩)

theorem ofFailure_identifier {failure : Failure} (known : IsIdentifierFault failure) :
    ∃ text, Refusal.ofFailure failure = .reason .invalidIdentifier text := by
  cases failure with
  | identifier fault => exact ⟨fault.message, rfl⟩
  | _ => exact known.elim

theorem ofFailure_rowFilter {failure : Failure} (known : IsFilterFault failure) :
    ∃ text, Refusal.ofFailure failure = .reason .invalidParameter text := by
  cases failure with
  | rowFilter fault => exact ⟨fault.message, rfl⟩
  | _ => exact known.elim

theorem tells_identifier {found : Except Failure α} (fails : FailsIn IsIdentifierFault found)
    (means : Rejected found ↔ applies) :
    Tells [(applies, .reason .invalidIdentifier)] (declared found) :=
  tells_mapError (fails.mono fun _ => ofFailure_identifier) means

/-- What cannot be shown stops the compiler before it can tell of it. -/
def unshownFlaws (unshown : Failure → Prop) : List Flaw :=
  [(unshown .tooDeep, .failure .tooDeep),
    (unshown (.rule .tooManyDigits), .failure (.rule .tooManyDigits))]

theorem unshownFlaws_clear (shown : ∀ failure, ¬ unshown failure) :
    FirstOf (unshownFlaws unshown) none :=
  .later (shown _) (.later (shown _) .nothing)

theorem tells_unshown {found : Except Failure α}
    (kinds : ∀ failure, unshown failure → failure = .tooDeep ∨ failure = .rule .tooManyDigits)
    (stops : ∀ failure, unshown failure → found = .error failure)
    (fails : FailsIn (fun failure => (∃ text, Refusal.ofFailure failure = .reason reason text) ∨
      unshown failure) found)
    (means : Rejected found ↔ applies) :
    Tells (unshownFlaws unshown ++ [(applies, .reason reason)]) (declared found) := by
  by_cases hidden : ∃ failure, unshown failure
  · obtain ⟨failure, hidden⟩ := hidden
    have failed := stops failure hidden
    rw [failed]
    rcases kinds failure hidden with rfl | rfl
    · exact .here hidden
    · refine .later (fun deep => ?_) (.here hidden)
      cases failed.symm.trans (stops _ deep)
  · rw [not_exists] at hidden
    refine Tells.behind (unshownFlaws_clear hidden) (tells_mapError ?_ means)
    exact fails.mono fun failure told => told.resolve_right (hidden failure)

theorem declared_bind (found : Except Failure α) (next : α → Except Failure β) :
    declared (found >>= next) = (declared found >>= fun value => declared (next value)) := by
  cases found <;> rfl

/-- Null, or a text of blanks. -/
def Blank (cell : Value) : Prop :=
  ∀ content, cell = .text content → Text.isBlankText content = true

def demandFlaws (demand : Demand) : List Flaw :=
  unshownFlaws (fun failure => demand.column.excess? Json.depthLimit = some failure) ++
    [(Rejected (Sql.column demand.column), .reason .invalidIdentifier),
      (demand.value = .null ∧ demand.operator ≠ .text "=" ∧ demand.operator ≠ .text "!=",
        .reason .invalidParameter)]

/-- The shape of the whole filter comes before any of its columns and values. -/
def filterFlaws (filter : Value) : List Flaw :=
  unshownFlaws (Unshown filter) ++
    (¬ WellShaped filter, .reason .invalidParameter) :: (demands filter).flatMap demandFlaws

def targetFlaws (d : Definition) : List Flaw :=
  (Rejected (Sql.target d.targetSchema d.targetTable), .reason .invalidIdentifier) ::
    filterFlaws d.rowFilter

def columnFlaws (d : Definition) : List Flaw :=
  (∃ column ∈ d.keyColumns, Rejected (Sql.column (.text column)), .reason .invalidIdentifier) ::
    targetFlaws d

/-- The query is given, and the guard does not let it pass. -/
def Unsafe (query : Value) : Prop :=
  ∃ content, query = .text content ∧ Rejected (Sql.checkReadOnly (Text.stripText content).toList)

/-- The threshold is within the range of numbers with a fraction, if it is an integer that
counts. -/
def Fits (d : Definition) : Prop :=
  ∀ number, d.thresholdRatio = .int number → 0 < number →
    Number.isInfinite (Number.ofInt number) = false

def flawsOfKind (kind : CheckKind) (d : Definition) : List Flaw :=
  match kind with
  | .freshness =>
      (d.keyColumns = [], .reason .missingKeyColumn) ::
        (1 < d.keyColumns.length, .reason .invalidParameter) ::
        (¬ ∃ minutes, d.slaMinutes = .int minutes ∧ 0 < minutes, .reason .invalidParameter) ::
        columnFlaws d
  | .uniqueness => (d.keyColumns = [], .reason .missingKeyColumn) :: columnFlaws d
  | .consistency =>
      [(Blank d.sourceQuery ∨ Blank d.targetQuery, .reason .missingQuery),
        (Unsafe d.sourceQuery, .reason .unsafeQuery), (Unsafe d.targetQuery, .reason .unsafeQuery),
        (¬ Fits d, .failure (.overflow .integerToFloat))]
  | .unsupported => []

def flawsOf (kind : CheckKind) (d : Definition) : List Flaw :=
  (kind = .unsupported, .reason .unsupportedCheckType) ::
    (Blank d.schedule, .reason .invalidParameter) :: flawsOfKind kind d

/-- The columns of the definition are of their types or null; its threshold may be an integer, and
all of its filter but the operators is left open. -/
structure Typed (d : Definition) : Prop where
  checkType : d.checkType.TextOrNull
  schedule : d.schedule.TextOrNull
  schema : d.targetSchema.TextOrNull
  table : d.targetTable.TextOrNull
  source : d.sourceQuery.TextOrNull
  target : d.targetQuery.TextOrNull
  minutes : d.slaMinutes = .null ∨ ∃ number, d.slaMinutes = .int number
  threshold : d.thresholdRatio = .null ∨ (∃ ratio, d.thresholdRatio = .float ratio) ∨
    ∃ number, d.thresholdRatio = .int number
  operators : OperatorsTyped d.rowFilter

end Compile

end CheckKeeper
