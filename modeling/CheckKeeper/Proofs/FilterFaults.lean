import CheckKeeper.Proofs.Verdict

namespace CheckKeeper

/-! What is wrong with identifiers and filters.

It is a fault to be told, with one exception: the operator of a condition is looked up before it
is known to be a text, and a list or a record cannot be looked up.
-/

/-- Whatever fails, fails in this way. -/
def FailsIn {ε α : Type} (way : ε → Prop) (found : Except ε α) : Prop :=
  ∀ failure, found = .error failure → way failure

section FailsIn

variable {ε α β : Type} {way : ε → Prop}

theorem failsIn_ok (value : α) : FailsIn way (.ok value) := by
  intro failure same
  cases same

theorem failsIn_error {failure : ε} (known : way failure) :
    FailsIn (α := α) way (.error failure) := by
  intro other same
  cases same
  exact known

theorem FailsIn.mono {wider : ε → Prop} {found : Except ε α} (fails : FailsIn way found)
    (within : ∀ failure, way failure → wider failure) : FailsIn wider found :=
  fun failure same => within failure (fails failure same)

theorem failsIn_bind {found : Except ε α} {next : α → Except ε β} (first : FailsIn way found)
    (rest : ∀ value, FailsIn way (next value)) : FailsIn way (found >>= next) := by
  cases found with
  | ok value => exact rest value
  | error failure => exact failsIn_error (first failure rfl)

theorem failsIn_mapM {read : α → Except ε β} {items : List α}
    (each : ∀ item ∈ items, FailsIn way (read item)) : FailsIn way (items.mapM read) := by
  induction items with
  | nil => exact failsIn_ok []
  | cons item items ih =>
      obtain ⟨first, rest⟩ := List.forall_mem_cons.mp each
      rw [List.mapM_cons]
      refine failsIn_bind first fun value => ?_
      exact failsIn_bind (ih rest) fun later => failsIn_ok _

/-- Reading one after another fails as the first does that fails. -/
theorem mapM_eq_error_iff {read : α → Except ε β} {items : List α} {failure : ε} :
    items.mapM read = .error failure ↔ ∃ before item after, items = before ++ item :: after ∧
      (∀ first ∈ before, ∃ value, read first = .ok value) ∧ read item = .error failure := by
  induction items with
  | nil => simp [pure, Except.pure]
  | cons item items ih =>
      rw [List.mapM_cons]
      cases own : read item with
      | error fault =>
          constructor
          · intro failed
            cases failed
            exact ⟨[], item, items, rfl, by simp, own⟩
          · rintro ⟨before, other, after, same, well, failed⟩
            cases before with
            | nil =>
                obtain ⟨rfl, rfl⟩ := List.cons.inj same
                rw [own] at failed
                cases failed
                rfl
            | cons first before =>
                obtain ⟨rfl, rfl⟩ := List.cons.inj same
                obtain ⟨value, read⟩ := well item List.mem_cons_self
                rw [own] at read
                cases read
      | ok value =>
          have later : (Except.ok value >>= fun value => items.mapM read >>= fun values =>
              pure (value :: values)) = .error failure ↔ items.mapM read = .error failure := by
            cases items.mapM read <;> simp [bind, Except.bind, pure, Except.pure]
          rw [later, ih]
          constructor
          · rintro ⟨before, other, after, rfl, well, failed⟩
            exact ⟨item :: before, other, after, rfl, List.forall_mem_cons.mpr ⟨⟨value, own⟩, well⟩,
              failed⟩
          · rintro ⟨before, other, after, same, well, failed⟩
            cases before with
            | nil =>
                obtain ⟨rfl, rfl⟩ := List.cons.inj same
                rw [own] at failed
                cases failed
            | cons first before =>
                obtain ⟨rfl, rfl⟩ := List.cons.inj same
                exact ⟨before, other, after, rfl, (List.forall_mem_cons.mp well).2, failed⟩

end FailsIn

namespace Value

def TextOrNull (value : Value) : Prop :=
  value = .null ∨ ∃ content, value = .text content

variable {value : Value}

theorem TextOrNull.text_of_given (cell : value.TextOrNull) (given : value.isGiven = true) :
    ∃ content, value = .text content := by
  rcases cell with rfl | written
  · cases given
  · exact written

theorem TextOrNull.toTextOrEmpty (cell : value.TextOrNull) (member : String) :
    ∃ content, value.toTextOrEmpty member = .ok content := by
  unfold Value.toTextOrEmpty
  split
  · rename_i given
    obtain ⟨content, rfl⟩ := cell.text_of_given given
    exact ⟨content, rfl⟩
  · exact ⟨"", rfl⟩

end Value

namespace Sql

variable {α β : Type} {filter : Value} {text : String}

/-- The failure tells of a fault of the definition, which is a reason and stops nothing. -/
def IsFault : Failure → Prop
  | .identifier _ => True
  | .rowFilter _ => True
  | _ => False

def IsIdentifierFault : Failure → Prop
  | .identifier _ => True
  | _ => False

theorem IsIdentifierFault.isFault {failure : Failure} (known : IsIdentifierFault failure) :
    IsFault failure := by
  cases failure with
  | identifier fault => trivial
  | _ => exact known.elim

theorem column_faults {name : Value} (shown : name.IsShown) :
    FailsIn IsIdentifierFault (column name) := by
  unfold column
  split
  · split
    · exact failsIn_ok _
    · exact failsIn_error trivial
  · rw [shown.refusal]
    exact failsIn_error trivial

theorem checkNames_faults (parts : List String) : FailsIn IsIdentifierFault (checkNames parts) := by
  induction parts with
  | nil => exact failsIn_ok ()
  | cons part parts ih =>
      unfold checkNames
      split
      · exact ih
      · exact failsIn_error trivial

theorem path_faults (location : String) : FailsIn IsIdentifierFault (path location) := by
  have quoted (parts : List String) :
      FailsIn IsIdentifierFault (checkNames parts >>= fun _ => .ok (backQuoted location)) :=
    failsIn_bind (checkNames_faults parts) fun _ => failsIn_ok _
  unfold path
  split
  · split
    · exact quoted _
    · exact failsIn_error trivial
  · exact quoted _
  · split
    · exact failsIn_error trivial
    · exact quoted _
  · exact failsIn_error trivial

theorem target_faults {schema table : Value} (schema_cell : schema.TextOrNull)
    (table_cell : table.TextOrNull) : FailsIn IsIdentifierFault (target schema table) := by
  unfold target
  split
  · exact failsIn_error trivial
  · rename_i both_given
    simp only [Bool.or_eq_true, Bool.not_eq_true', not_or, Bool.not_eq_false] at both_given
    obtain ⟨dataset, rfl⟩ := schema_cell.text_of_given both_given.1
    obtain ⟨name, rfl⟩ := table_cell.text_of_given both_given.2
    refine failsIn_bind (failsIn_ok _) fun dots => ?_
    split
    · exact failsIn_error trivial
    · dsimp only
      split
      · exact path_faults _
      · exact failsIn_error trivial

theorem failsIn_column {name : Value} (shown : name.IsShown) : FailsIn IsFault (column name) :=
  (column_faults shown).mono fun _ known => known.isFault

theorem failsIn_target {schema table : Value} (schema_cell : schema.TextOrNull)
    (table_cell : table.TextOrNull) : FailsIn IsFault (target schema table) :=
  (target_faults schema_cell table_cell).mono fun _ known => known.isFault

/-- The operator is a list or a record. -/
def IsUnhashable (operator : Value) : Prop :=
  operator.unhashable?.isSome = true

/-- A condition with an operator that cannot be looked up. -/
def IsTrap (entry : Value) : Prop :=
  ∃ row column operator, entry = .record row ∧ Row.find? row "column" = some column ∧
    Row.find? row "op" = some operator ∧ IsUnhashable operator

/-- A condition that names a column, and an operator if any. -/
def InOrder (entry : Value) : Prop :=
  ∃ row, entry = .record row ∧ Row.has row "column" = true ∧
    ∀ operator, Row.find? row "op" = some operator →
      ∃ comparison : Comparison, operator = .text comparison.symbol

/-- Such a condition comes first among all that are not in order. -/
def HasTrap (entries : List Value) : Prop :=
  ∃ before entry after, entries = before ++ entry :: after ∧ (∀ first ∈ before, InOrder first) ∧
    IsTrap entry

def IsTrapped (filter : Value) : Prop :=
  ∃ entries, filter = .list entries ∧ HasTrap entries

/-- Whatever fails is a fault of the definition, unless this holds: then it is a misuse. -/
def FaultsUnless (trapped : Prop) (found : Except Failure α) : Prop :=
  (¬ trapped ∧ FailsIn IsFault found) ∨
    (trapped ∧ ∃ type, found = .error (.misuse (.unhashable type)))

theorem FaultsUnless.bind {trapped : Prop} {found : Except Failure α} {next : α → Except Failure β}
    (first : FaultsUnless trapped found)
    (rest : ∀ value, found = .ok value → FailsIn IsFault (next value)) :
    FaultsUnless trapped (found >>= next) := by
  rcases first with ⟨safe, faults⟩ | ⟨caught, fault, rfl⟩
  · refine Or.inl ⟨safe, ?_⟩
    cases found with
    | ok value => exact rest value rfl
    | error failure => exact failsIn_error (faults failure rfl)
  · exact Or.inr ⟨caught, fault, rfl⟩

theorem failsIn_toSql (index : Nat) {condition : Condition} (shown : condition.column.IsShown) :
    FailsIn IsFault (condition.toSql index) := by
  refine failsIn_bind (failsIn_column shown) fun name => ?_
  dsimp only
  split
  · split
    · exact failsIn_ok _
    · exact failsIn_ok _
    · exact failsIn_error trivial
  · exact failsIn_ok _

theorem failsIn_toSqlFrom (index : Nat) {conditions : List Condition}
    (shown : ∀ condition ∈ conditions, condition.column.IsShown) :
    FailsIn IsFault (Condition.toSqlFrom index conditions) := by
  induction conditions generalizing index with
  | nil => exact failsIn_ok []
  | cons condition conditions ih =>
      obtain ⟨first, rest⟩ := List.forall_mem_cons.mp shown
      refine failsIn_bind (failsIn_toSql index first) fun part => ?_
      exact failsIn_bind (ih (index + 1) rest) fun later => failsIn_ok _

theorem ofValue_faultsUnless {operator : Value} (shown : operator.IsShown) :
    FaultsUnless (IsUnhashable operator) (Comparison.ofValue operator) := by
  unfold Comparison.ofValue Value.checkKey IsUnhashable
  cases operator.unhashable? with
  | some type => exact Or.inr ⟨rfl, _, rfl⟩
  | none =>
      refine Or.inl ⟨by simp, failsIn_bind (failsIn_ok ()) fun _ => ?_⟩
      split
      · exact failsIn_ok _
      · rw [shown.refusal]
        exact failsIn_error trivial

theorem isShown_operator {row : Row} (shown : (Value.record row).IsShown) :
    ((Row.find? row "op").getD (.text "=")).IsShown := by
  cases given : Row.find? row "op" with
  | none => exact Value.isShown_text "="
  | some operator => exact shown.find? given

theorem ofEntry_faultsUnless {entry : Value} (shown : entry.IsShown) :
    FaultsUnless (IsTrap entry) (Condition.ofEntry entry) := by
  unfold Condition.ofEntry
  split
  · rename_i row
    split
    · rename_i column named
      have looked_up := (ofValue_faultsUnless (isShown_operator shown)).bind
        fun comparison _ => failsIn_ok (Condition.mk column comparison (Row.get row "value"))
      have trapped : IsUnhashable ((Row.find? row "op").getD (.text "=")) ↔ IsTrap (.record row) := by
        constructor
        · intro caught
          cases operator : Row.find? row "op" with
          | none =>
              rw [operator] at caught
              cases caught
          | some given =>
              rw [operator] at caught
              exact ⟨row, column, given, rfl, named, operator, caught⟩
        · rintro ⟨_, _, operator, same, _, given, caught⟩
          cases same
          rw [given]
          exact caught
      rwa [trapped] at looked_up
    · rename_i unnamed
      rw [shown.refusal]
      refine Or.inl ⟨?_, failsIn_error trivial⟩
      rintro ⟨_, column, _, same, named, _, _⟩
      cases same
      rw [unnamed] at named
      cases named
  · rename_i other
    rw [shown.refusal]
    refine Or.inl ⟨?_, failsIn_error trivial⟩
    rintro ⟨row, _, _, same, _⟩
    exact other row same

/-- An operator that cannot be looked up is a misuse, whatever else the condition holds. -/
theorem IsTrap.ofEntry {entry : Value} (trap : IsTrap entry) :
    ∃ type, Condition.ofEntry entry = .error (.misuse (.unhashable type)) := by
  obtain ⟨row, column, operator, rfl, named, given, caught⟩ := trap
  obtain ⟨type, unhashable⟩ := Option.isSome_iff_exists.mp caught
  refine ⟨type, ?_⟩
  have looked_up : Comparison.ofValue operator = .error (.misuse (.unhashable type)) := by
    rw [Comparison.ofValue, Value.checkKey, unhashable]
    rfl
  simp only [Condition.ofEntry, named, given, Option.getD_some, looked_up]
  rfl

theorem ofValue_text (content : String) :
    Comparison.ofValue (.text content) =
      match Comparison.ofSymbol? content with
      | some comparison => .ok comparison
      | none => .error (.rowFilter (.operator (.text content))) :=
  rfl

theorem ofValue_eq_ok_iff {operator : Value} {comparison : Comparison} :
    Comparison.ofValue operator = .ok comparison ↔ operator = .text comparison.symbol := by
  constructor
  · intro named
    cases operator with
    | text content =>
        rw [ofValue_text] at named
        split at named
        · rename_i found
          cases named
          have same : comparison.symbol = content := eq_of_beq (List.find?_some found :)
          rw [same]
        · cases named
    | _ => cases named
  · rintro rfl
    rw [ofValue_text, Comparison.ofSymbol?_symbol]

theorem inOrder_iff {entry : Value} :
    InOrder entry ↔ ∃ condition, Condition.ofEntry entry = .ok condition := by
  constructor
  · rintro ⟨row, rfl, named, operators⟩
    obtain ⟨column, named⟩ := Option.isSome_iff_exists.mp named
    have looked_up : ∃ comparison, Comparison.ofValue ((Row.find? row "op").getD (.text "=")) =
        .ok comparison := by
      cases given : Row.find? row "op" with
      | none => exact ⟨.eq, ofValue_eq_ok_iff.mpr rfl⟩
      | some operator =>
          obtain ⟨comparison, rfl⟩ := operators operator given
          exact ⟨comparison, ofValue_eq_ok_iff.mpr rfl⟩
    obtain ⟨comparison, looked_up⟩ := looked_up
    simp only [Condition.ofEntry, named, looked_up]
    exact ⟨_, rfl⟩
  · rintro ⟨condition, read⟩
    unfold Condition.ofEntry at read
    split at read
    · rename_i row
      split at read
      · rename_i column named
        obtain ⟨comparison, looked_up, _⟩ := Compile.bind_eq_ok read
        refine ⟨row, rfl, by rw [Row.has, named]; rfl, fun operator given => ⟨comparison, ?_⟩⟩
        rw [given] at looked_up
        exact ofValue_eq_ok_iff.mp looked_up
      · cases read
    · cases read

theorem HasTrap.mapM {entries : List Value} (caught : HasTrap entries) :
    ∃ type, entries.mapM Condition.ofEntry = .error (.misuse (.unhashable type)) := by
  obtain ⟨before, entry, after, rfl, ordered, trap⟩ := caught
  obtain ⟨type, failed⟩ := trap.ofEntry
  exact ⟨type, mapM_eq_error_iff.mpr
    ⟨before, entry, after, rfl, fun first member => inOrder_iff.mp (ordered first member), failed⟩⟩

theorem mapM_faultsUnless {entries : List Value} (shown : ∀ entry ∈ entries, entry.IsShown) :
    FaultsUnless (HasTrap entries) (entries.mapM Condition.ofEntry) := by
  by_cases caught : HasTrap entries
  · exact Or.inr ⟨caught, caught.mapM⟩
  · refine Or.inl ⟨caught, fun failure failed => ?_⟩
    obtain ⟨before, entry, after, rfl, well, failed⟩ := mapM_eq_error_iff.mp failed
    rcases ofEntry_faultsUnless (shown entry (by simp)) with ⟨_, faults⟩ | ⟨trap, _⟩
    · exact faults failure failed
    · exact absurd ⟨before, entry, after, rfl, fun first member => inOrder_iff.mpr (well first member),
        trap⟩ caught

theorem not_isTrapped_of_not_given (empty : filter.isGiven = false) : ¬ IsTrapped filter := by
  rintro ⟨entries, rfl, before, trap, after, rfl, _⟩
  simp [Value.isGiven] at empty

theorem ofFilter_faultsUnless (shown : filter.IsShown) :
    FaultsUnless (IsTrapped filter) (Condition.ofFilter filter) := by
  unfold Condition.ofFilter
  split
  · rename_i empty
    exact Or.inl ⟨not_isTrapped_of_not_given (by simpa using empty), failsIn_ok []⟩
  · split
    · refine Or.inl ⟨?_, failsIn_ok _⟩
      rintro ⟨entries, same, _⟩
      cases same
    · refine Or.inl ⟨?_, failsIn_error trivial⟩
      rintro ⟨entries, same, _⟩
      cases same
    · rename_i entries _
      have same : IsTrapped (.list entries) ↔ HasTrap entries := by simp [IsTrapped]
      rw [same]
      exact mapM_faultsUnless fun entry member => shown.item member
    · rename_i other
      refine Or.inl ⟨?_, failsIn_error trivial⟩
      rintro ⟨entries, same, _⟩
      exact other entries same

theorem isShown_of_ofEntry {entry : Value} {condition : Condition} (shown : entry.IsShown)
    (read : Condition.ofEntry entry = .ok condition) : condition.column.IsShown := by
  unfold Condition.ofEntry at read
  split at read
  · split at read
    · rename_i row column named
      obtain ⟨comparison, _, rest⟩ := Compile.bind_eq_ok read
      cases rest
      exact shown.find? named
    · cases read
  · cases read

theorem isShown_of_ofFilter {conditions : List Condition} (shown : filter.IsShown)
    (read : Condition.ofFilter filter = .ok conditions) :
    ∀ condition ∈ conditions, condition.column.IsShown := by
  intro condition member
  unfold Condition.ofFilter at read
  split at read
  · cases read
    cases member
  · split at read
    · cases read
      obtain ⟨field, inside, rfl⟩ := List.mem_map.mp member
      exact (shown.field inside).1
    · cases read
    · obtain ⟨entry, inside, read⟩ := Compile.exists_of_mem_mapM read member
      exact isShown_of_ofEntry (shown.item inside) read
    · cases read

/-- A filter that can be shown makes a clause or is at fault, unless it is trapped. -/
theorem whereClause_faultsUnless (shown : filter.IsShown) :
    FaultsUnless (IsTrapped filter) (whereClause filter) := by
  refine (ofFilter_faultsUnless shown).bind fun conditions read => ?_
  refine failsIn_bind (failsIn_toSqlFrom 0 (isShown_of_ofFilter shown read)) fun parts => ?_
  dsimp only
  split
  · exact failsIn_ok _
  · exact failsIn_ok _

end Sql

end CheckKeeper
