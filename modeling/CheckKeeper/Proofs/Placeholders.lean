import Mathlib.Data.List.TakeWhile
import CheckKeeper.Proofs.Statement

namespace CheckKeeper

/-! What a statement leaves open, and what is bound to it.

A placeholder is an at-sign and the name behind it, which goes on as long as letters, digits and
underscores do.  Names of the allow-list hold no at-sign, so that the placeholders of a statement
are those of its template and those that its conditions ask for.
-/

namespace Sql

def placeholdersIn : List Char → List String
  | [] => []
  | c :: rest =>
      if c = '@' then String.ofList (rest.takeWhile isNameChar) :: placeholdersIn rest
      else placeholdersIn rest

/-- The names behind the at-signs of a text, each as long as it goes. -/
def placeholders (text : String) : List String :=
  placeholdersIn text.toList

/-- A text that leaves nothing open. -/
def Settled (text : String) : Prop :=
  '@' ∉ text.toList

instance (text : String) : Decidable (Settled text) :=
  inferInstanceAs (Decidable ('@' ∉ text.toList))

/-- A text that cannot go on a name. -/
def Breaks (text : String) : Prop :=
  ∀ c ∈ text.toList.head?, isNameChar c = false

instance (text : String) : Decidable (Breaks text) :=
  decidable_of_iff (text.toList.head?.all (!isNameChar ·) = true) (by
    unfold Breaks
    cases text.toList.head? <;> simp)

variable {filter : Value} {condition : Condition} {conditions : List Condition} {index other : Nat}
  {text rest name separator : String} {bound : List Parameter} {cs behind : List Char}
  {parts : List (String × List Parameter)}

theorem Settled.append (first : Settled text) (second : Settled rest) : Settled (text ++ rest) := by
  rw [Settled, String.toList_append, List.mem_append, not_or]
  exact ⟨first, second⟩

theorem takeWhile_append_of_breaks (breaks : ∀ c ∈ behind.head?, isNameChar c = false) :
    (cs ++ behind).takeWhile isNameChar = cs.takeWhile isNameChar := by
  induction cs with
  | nil =>
      cases behind with
      | nil => rfl
      | cons c behind => simp [breaks c rfl]
  | cons c cs ih => simp [List.takeWhile_cons, ih]

theorem placeholders_append (text : String) (breaks : Breaks rest) :
    placeholders (text ++ rest) = placeholders text ++ placeholders rest := by
  unfold placeholders
  rw [String.toList_append]
  induction text.toList with
  | nil => rfl
  | cons c cs ih =>
      simp only [List.cons_append, placeholdersIn, ih, takeWhile_append_of_breaks breaks]
      split <;> rfl

theorem placeholders_behind (settled : Settled text) (rest : String) :
    placeholders (text ++ rest) = placeholders rest := by
  unfold placeholders Settled at *
  rw [String.toList_append]
  generalize text.toList = cs at settled
  induction cs with
  | nil => rfl
  | cons c cs ih =>
      rw [List.mem_cons, not_or] at settled
      rw [List.cons_append, placeholdersIn, if_neg (Ne.symm settled.1), ih settled.2]

theorem Settled.placeholders (settled : Settled text) : placeholders text = [] := by
  have whole := placeholders_behind settled ""
  rwa [String.append_empty] at whole

/-- A text is looked at by its characters. -/
theorem placeholders_ofList (cs : List Char) :
    placeholders (String.ofList cs) = placeholdersIn cs := by
  rw [placeholders, String.toList_ofList]

theorem flatMap_placeholders {texts : List String} {names : List (List String)}
    (each : List.Forall₂ (fun text names => placeholders text = names) texts names) :
    texts.flatMap placeholders = names.flatten := by
  induction each with
  | nil => rfl
  | cons first _ ih => rw [List.flatMap_cons, List.flatten_cons, first, ih]

theorem placeholders_join (settled : Settled separator) (breaks : Breaks separator)
    (given : separator ≠ "") (texts : List String) :
    placeholders (Text.join separator texts) = texts.flatMap placeholders := by
  unfold Text.join
  induction texts with
  | nil => rfl
  | cons text texts ih =>
      cases texts with
      | nil => simp
      | cons next later =>
          have goes_on : Breaks (separator ++ separator.intercalate (next :: later)) := by
            unfold Breaks at breaks ⊢
            rw [String.toList_append, List.head?_append_of_ne_nil]
            · exact breaks
            · simpa using given
          rw [String.intercalate_cons_cons, String.append_assoc, placeholders_append _ goes_on,
            placeholders_behind settled, ih, ← List.flatMap_cons]

/-- What a condition binds: its value, unless that is null. -/
def Condition.binds (index : Nat) (condition : Condition) : List Parameter :=
  if condition.value.isNull then []
  else [⟨Condition.parameterName index, Parameter.typeOf condition.value, condition.value⟩]

def boundFrom : Nat → List Condition → List Parameter
  | _, [] => []
  | index, condition :: rest => condition.binds index ++ boundFrom (index + 1) rest

theorem binds_of_toSql (made : condition.toSql index = .ok (text, bound)) :
    bound = condition.binds index := by
  obtain ⟨name, _, rest⟩ := Compile.bind_eq_ok made
  obtain ⟨column, comparison, value⟩ := condition
  dsimp only at rest
  unfold Condition.binds
  split at rest
  · rename_i null
    rw [if_pos null]
    cases comparison <;> cases rest <;> rfl
  · rename_i given
    rw [if_neg given]
    cases rest
    rfl

theorem bound_of_toSqlFrom (made : Condition.toSqlFrom index conditions = .ok parts) :
    parts.flatMap (·.2) = boundFrom index conditions := by
  induction conditions generalizing index parts with
  | nil =>
      cases made
      rfl
  | cons condition conditions ih =>
      obtain ⟨⟨text, bound⟩, first, rest⟩ := Compile.bind_eq_ok made
      obtain ⟨later, following, rest⟩ := Compile.bind_eq_ok rest
      cases rest
      rw [List.flatMap_cons, ih following, binds_of_toSql first]
      rfl

theorem each_of_toSqlFrom (made : Condition.toSqlFrom index conditions = .ok parts) :
    ∀ condition ∈ conditions, ∃ place part, condition.toSql place = .ok part := by
  induction conditions generalizing index parts with
  | nil => simp
  | cons condition conditions ih =>
      obtain ⟨part, first, rest⟩ := Compile.bind_eq_ok made
      obtain ⟨later, following, _⟩ := Compile.bind_eq_ok rest
      exact List.forall_mem_cons.mpr ⟨⟨index, part, first⟩, ih following⟩

/-- An accepted filter in full: its conditions, all of them accepted, the clause that they are
written as, and what is bound. -/
theorem conditions_of_whereClause (made : whereClause filter = .ok (text, bound)) :
    ∃ conditions, Condition.ofFilter filter = .ok conditions ∧
      text = clause (writtenShapes (conditions.map Condition.shape)) ∧
      bound = boundFrom 0 conditions ∧
      ∀ condition ∈ conditions, ∃ place part, condition.toSql place = .ok part := by
  obtain ⟨shapes, shaped, spelled, _⟩ := whereClause_eq_ok made
  obtain ⟨conditions, normalized, rest⟩ := Compile.bind_eq_ok made
  obtain ⟨parts, written_parts, rest⟩ := Compile.bind_eq_ok rest
  have same : shapes = conditions.map Condition.shape := by
    rw [shapesOf, normalized] at shaped
    exact (Except.ok.inj shaped).symm
  refine ⟨conditions, normalized, same ▸ spelled, ?_, each_of_toSqlFrom written_parts⟩
  rw [← bound_of_toSqlFrom written_parts]
  dsimp only at rest
  split at rest
  · rename_i none_there
    cases rest
    rw [List.isEmpty_iff.mp none_there]
    rfl
  · cases rest
    rfl

theorem settled_of_quoted {content : String} (absent : '@' ∉ content.toList) :
    Settled (backQuoted content) := by
  simpa [Settled, backQuoted] using absent

theorem foreign_at : Foreign '@' :=
  ⟨by decide, by decide, by decide⟩

theorem parameterName_toList (index : Nat) :
    (Condition.parameterName index).toList = 'f' :: '_' :: Nat.toDigits 10 index := by
  have digits : (Number.renderInt (index : Nat)).toList = Nat.toDigits 10 index :=
    String.toList_ofList
  rw [Condition.parameterName, String.toList_append, digits]
  rfl

theorem parameterName_injective
    (same : Condition.parameterName index = Condition.parameterName other) : index = other := by
  have digits : Nat.toDigits 10 index = Nat.toDigits 10 other := by
    have spelled := congrArg String.toList same
    rw [parameterName_toList, parameterName_toList] at spelled
    simpa using spelled
  calc
    index = Nat.ofDigitChars 10 (Nat.toDigits 10 index) 0 := Nat.ofDigitChars_ten_toDigits.symm
    _ = Nat.ofDigitChars 10 (Nat.toDigits 10 other) 0 := by rw [digits]
    _ = other := Nat.ofDigitChars_ten_toDigits

theorem isNameChar_parameterName (index : Nat) :
    ∀ c ∈ (Condition.parameterName index).toList, isNameChar c = true := by
  rw [parameterName_toList]
  refine List.forall_mem_cons.mpr ⟨by decide, List.forall_mem_cons.mpr ⟨by decide, ?_⟩⟩
  intro c member
  have digit : Number.isDigit c = true :=
    Nat.isDigit_of_mem_toDigits (by decide) (by decide) member
  simp [isNameChar, digit]

theorem placeholders_at (nameChars : ∀ c ∈ name.toList, isNameChar c = true) :
    placeholders ("@" ++ name) = [name] := by
  have settled : Settled name := fun member => absurd (nameChars '@' member) (by decide)
  have all : name.toList.takeWhile isNameChar = name.toList :=
    List.takeWhile_eq_self_iff.mpr nameChars
  have behind : placeholdersIn name.toList = [] := settled.placeholders
  have first : ("@" ++ name).toList = '@' :: name.toList := by
    rw [String.toList_append]
    rfl
  rw [placeholders, first, placeholdersIn, if_pos rfl, all, behind, String.ofList_toList]

theorem placeholders_ending (index : Nat) (mark : Mark) :
    placeholders (ending index mark) = if mark.2 then [] else [Condition.parameterName index] := by
  unfold ending
  split
  · split <;> rfl
  · have settled : Settled (" " ++ mark.1.symbol ++ " ") := by
      cases mark.1 <;> decide
    have cut : " " ++ mark.1.symbol ++ " @" ++ Condition.parameterName index =
        (" " ++ mark.1.symbol ++ " ") ++ ("@" ++ Condition.parameterName index) := by
      have apart : " @" = " " ++ "@" := rfl
      rw [apart]
      simp only [String.append_assoc]
    rw [cut, placeholders_behind settled, placeholders_at (isNameChar_parameterName index)]

/-- A condition leaves open what it binds. -/
theorem placeholders_condition {column : String} (accepted : Sql.column condition.column = .ok column)
    (index : Nat) :
    placeholders (written condition.column ++ ending index condition.shape.2) =
      (condition.binds index).map (·.name) := by
  obtain ⟨content, rfl, absent⟩ := foreign_at.quoted_column accepted
  rw [written_of_column accepted, placeholders_behind (settled_of_quoted absent),
    placeholders_ending]
  unfold Condition.binds Condition.shape
  split <;> simp_all

theorem placeholders_conjuncts
    (accepted : ∀ condition ∈ conditions, ∃ column, Sql.column condition.column = .ok column)
    (index : Nat) :
    (conjuncts index (writtenShapes (conditions.map Condition.shape))).flatMap placeholders =
      (boundFrom index conditions).map (·.name) := by
  induction conditions generalizing index with
  | nil => rfl
  | cons condition conditions ih =>
      obtain ⟨⟨column, first⟩, later⟩ := List.forall_mem_cons.mp accepted
      have whole : conjuncts index (writtenShapes ((condition :: conditions).map Condition.shape)) =
          (written condition.column ++ ending index condition.shape.2) ::
            conjuncts (index + 1) (writtenShapes (conditions.map Condition.shape)) := rfl
      rw [whole, List.flatMap_cons, placeholders_condition first, ih later (index + 1), boundFrom,
        List.map_append]

theorem placeholders_clause
    (accepted : ∀ condition ∈ conditions, ∃ column, Sql.column condition.column = .ok column) :
    placeholders (clause (writtenShapes (conditions.map Condition.shape))) =
      (boundFrom 0 conditions).map (·.name) := by
  unfold clause
  split
  · rename_i none_there
    have empty : conditions = [] := by simpa [writtenShapes] using none_there
    rw [empty]
    rfl
  · rw [placeholders_behind (by decide), placeholders_join (by decide) (by decide) (by decide),
      placeholders_conjuncts accepted]

theorem mem_boundFrom {parameter : Parameter} (member : parameter ∈ boundFrom index conditions) :
    ∃ place, ∃ condition : Condition, conditions[place]? = some condition ∧
      parameter ∈ condition.binds (index + place) := by
  induction conditions generalizing index with
  | nil => cases member
  | cons condition conditions ih =>
      rcases List.mem_append.mp member with here | later
      · exact ⟨0, condition, rfl, here⟩
      · obtain ⟨place, found, there, bound⟩ := ih later
        refine ⟨place + 1, found, there, ?_⟩
        rwa [Nat.add_comm place 1, ← Nat.add_assoc]

theorem name_of_mem_binds {parameter : Parameter} (member : parameter ∈ condition.binds index) :
    parameter.name = Condition.parameterName index := by
  unfold Condition.binds at member
  split at member
  · cases member
  · rw [List.mem_singleton.mp member]

theorem nodup_boundFrom (index : Nat) (conditions : List Condition) :
    ((boundFrom index conditions).map (·.name)).Nodup := by
  induction conditions generalizing index with
  | nil => exact List.nodup_nil
  | cons condition conditions ih =>
      rw [boundFrom, List.map_append]
      refine List.nodup_append.mpr ⟨?_, ih (index + 1), ?_⟩
      · unfold Condition.binds
        split <;> simp
      · intro name here later behind same
        obtain ⟨parameter, bound, rfl⟩ := List.mem_map.mp here
        obtain ⟨second, bound_later, rfl⟩ := List.mem_map.mp behind
        obtain ⟨place, _, _, second_bound⟩ := mem_boundFrom bound_later
        rw [name_of_mem_binds bound, name_of_mem_binds second_bound] at same
        have places := parameterName_injective same
        omega

end Sql

namespace Compile

open Sql

variable {d : Definition} {kind : CheckKind} {check : CompiledCheck} {resultsTable : Value}
  {message name line results date keys target condition : String} {lines columns : List String}
  {own : Parameter} {conditions : List Condition} {index : Nat}

theorem placeholders_joinLines (lines : List String) :
    placeholders (joinLines lines) = lines.flatMap placeholders := by
  rw [joinLines, placeholders_join (by decide) (by decide) (by decide)]
  induction lines with
  | nil => rfl
  | cons line lines ih =>
      rw [List.filter_cons, List.flatMap_cons]
      split
      · rw [List.flatMap_cons, ih]
      · rename_i empty
        have same : line = "" := by simpa using empty
        rw [ih, same]
        rfl

theorem infix_join {separator : String} (member : line ∈ lines) :
    ∃ lead tail, Text.join separator lines = lead ++ line ++ tail := by
  unfold Text.join
  induction lines with
  | nil => cases member
  | cons first lines ih =>
      cases lines with
      | nil =>
          rw [List.mem_singleton.mp member]
          exact ⟨"", "", by simp⟩
      | cons next later =>
          rw [String.intercalate_cons_cons]
          rcases List.mem_cons.mp member with rfl | behind
          · exact ⟨"", separator ++ separator.intercalate (next :: later), by
              rw [String.empty_append, String.append_assoc]⟩
          · obtain ⟨lead, tail, found⟩ := ih behind
            refine ⟨first ++ separator ++ lead, tail, ?_⟩
            rw [found]
            simp only [String.append_assoc]

theorem infix_joinLines (member : line ∈ lines) (given : line ≠ "") :
    ∃ lead tail, joinLines lines = lead ++ line ++ tail :=
  infix_join (List.mem_filter.mpr ⟨member, by simpa using given⟩)

theorem settled_insertLine (settled : Settled results) : Settled (insertLine results) := by
  have start : Settled ("INSERT INTO " ++ results) := Settled.append (by decide) settled
  have columns : Settled resultColumns := by decide
  exact ((start.append (by decide)).append columns).append (by decide)

theorem placeholders_freshnessStatement (results_settled : Settled results)
    (date_settled : Settled date) (target_settled : Settled target) :
    placeholders (freshnessStatement results date target condition) =
      ["check_id", "check_name", "run_time", "sla_minutes", "sla_minutes", "run_time"] ++
        placeholders condition := by
  have limit : placeholders ("    WHEN TIMESTAMP(MAX(" ++ date ++
      ")) >= TIMESTAMP_SUB(@run_time, INTERVAL @sla_minutes MINUTE)") =
      ["run_time", "sla_minutes"] := by
    rw [placeholders_behind (Settled.append (by decide) date_settled)]
    rfl
  have newest : Settled ("    TIMESTAMP(MAX(" ++ date ++ ")) AS max_date,") :=
    (Settled.append (by decide) date_settled).append (by decide)
  have source : Settled ("FROM " ++ target) := Settled.append (by decide) target_settled
  have written (cs : List Char) := placeholders_ofList cs
  rw [freshnessStatement, placeholders_joinLines]
  refine (flatMap_placeholders (.cons (settled_insertLine results_settled).placeholders
    (.cons (written _) (.cons (written _) (.cons (written _) (.cons (written _) (.cons (written _)
    (.cons limit (.cons (written _) (.cons (written _) (.cons (written _) (.cons (written _)
    (.cons newest.placeholders (.cons (written _) (.cons (written _) (.cons (written _)
    (.cons (written _) (.cons source.placeholders (.cons rfl .nil))))))))))))))))))).trans ?_
  simp only [List.flatten_cons, List.flatten_nil, List.append_nil]
  rfl

theorem placeholders_uniquenessStatement (results_settled : Settled results)
    (keys_settled : Settled keys) (target_settled : Settled target) :
    placeholders (uniquenessStatement results keys target condition) =
      placeholders condition ++ ["check_id", "check_name", "keys", "run_time"] := by
  have source : Settled ("  SELECT * FROM " ++ target) := Settled.append (by decide) target_settled
  have indented : placeholders (if condition = "" then "" else "  " ++ condition) =
      placeholders condition := by
    split
    · rename_i empty
      rw [empty]
    · exact placeholders_behind (by decide) condition
  have shown : Settled ("  SELECT " ++ keys ++ ", COUNT(*) AS occurrences") :=
    (Settled.append (by decide) keys_settled).append (by decide)
  have grouped : Settled ("  GROUP BY " ++ keys) := Settled.append (by decide) keys_settled
  have written (cs : List Char) := placeholders_ofList cs
  rw [uniquenessStatement, placeholders_joinLines]
  refine (flatMap_placeholders (.cons (settled_insertLine results_settled).placeholders
    (.cons (written _) (.cons source.placeholders (.cons indented (.cons (written _)
    (.cons (written _) (.cons shown.placeholders (.cons (written _) (.cons grouped.placeholders
    (.cons (written _) (.cons (written _) (.cons (written _) (.cons (written _) (.cons (written _)
    (.cons (written _) (.cons (written _) (.cons (written _) (.cons (written _) (.cons (written _)
    (.cons (written _) (.cons (written _) (.cons (written _) (.cons (written _)
    .nil)))))))))))))))))))))))).trans ?_
  rfl

/-- The parameter that a kind of checks has besides those of all checks. -/
def ownName : CheckKind → String
  | .freshness => "sla_minutes"
  | _ => "keys"

theorem settled_join (columns_settled : ∀ column ∈ columns, Settled column) :
    Settled (Text.join ", " columns) := by
  unfold Text.join
  induction columns with
  | nil => decide
  | cons column columns ih =>
      obtain ⟨first, later⟩ := List.forall_mem_cons.mp columns_settled
      cases columns with
      | nil =>
          rw [String.intercalate_singleton]
          exact first
      | cons next columns =>
          rw [String.intercalate_cons_cons]
          exact (first.append (by decide)).append (ih later)

/-- A statement leaves open the id and the name of its check, what is its kind's own, the time of
the run, and what its conditions leave open. -/
theorem mem_placeholders_template (targeted : kind = .freshness ∨ kind = .uniqueness)
    (results_settled : Settled results) (columns_settled : ∀ column ∈ columns, Settled column)
    (target_settled : Settled target) :
    name ∈ placeholders (template kind results columns target condition) ↔
      name ∈ ["check_id", "check_name", ownName kind, "run_time"] ∨
        name ∈ placeholders condition := by
  rcases targeted with rfl | rfl
  · have date_settled : Settled (columns.headD "") := by
      cases columns with
      | nil => decide
      | cons column columns => exact columns_settled column List.mem_cons_self
    rw [template, placeholders_freshnessStatement results_settled date_settled target_settled]
    simp only [List.mem_append, List.mem_cons, ownName]
    tauto
  · rw [template, placeholders_uniquenessStatement results_settled
      (settled_join columns_settled) target_settled]
    simp only [List.mem_append, ownName]
    tauto

theorem infix_template (targeted : kind = .freshness ∨ kind = .uniqueness)
    (given : condition ≠ "") :
    ∃ lead tail, template kind results columns target condition = lead ++ condition ++ tail := by
  rcases targeted with rfl | rfl
  · rw [template, freshnessStatement]
    exact infix_joinLines (by simp) given
  · have indented : "  " ++ condition ≠ "" :=
      fun same => given (String.append_eq_empty_iff.mp same).2
    have shown : ∃ lead tail, template .uniqueness results columns target condition =
        lead ++ ("  " ++ condition) ++ tail := by
      rw [template, uniquenessStatement, if_neg given]
      exact infix_joinLines (by simp) indented
    obtain ⟨lead, tail, found⟩ := shown
    refine ⟨lead ++ "  ", tail, ?_⟩
    rw [found]
    simp only [String.append_assoc]

theorem parameters_of_checkOf {statement : String} {parameters : List Parameter}
    (made : checkOf d kind statement parameters = .ok check) : check.parameters = parameters := by
  obtain ⟨schedule, rfl⟩ := checkOf_eq_ok made
  rfl

theorem name_of_ground (targeted : kind = .freshness ∨ kind = .uniqueness)
    (found : ground kind d = .ok (columns, target, own)) : own.name = ownName kind := by
  rcases targeted with rfl | rfl
  · obtain ⟨column, _, rest⟩ := bind_eq_ok found
    obtain ⟨minutes, _, rest⟩ := bind_eq_ok rest
    obtain ⟨date, _, rest⟩ := bind_eq_ok rest
    obtain ⟨target, _, rest⟩ := bind_eq_ok rest
    cases rest
    rfl
  · simp only [ground] at found
    split at found
    · cases found
    · obtain ⟨columns, _, rest⟩ := bind_eq_ok found
      obtain ⟨target, _, rest⟩ := bind_eq_ok rest
      cases rest
      rfl

/-- How the condition with an index stands in a statement: it asks for a parameter of its own, which
carries its value, unless that is null. -/
structure Stands (parameters : List Parameter) (index : Nat) (condition : Condition)
    (text : String) : Prop where
  spelled : ∃ column, Sql.column condition.column = .ok column ∧
    text = column ++ ending index condition.shape.2
  asks_iff : Condition.parameterName index ∈ placeholders text ↔ condition.value.isNull = false
  asks_only : ∀ name ∈ placeholders text, name = Condition.parameterName index
  given : condition.value.isNull = false →
    ⟨Condition.parameterName index, Parameter.typeOf condition.value, condition.value⟩ ∈ parameters
  null : condition.value.isNull = true →
    ∀ parameter ∈ parameters, parameter.name ≠ Condition.parameterName index

theorem conjuncts_getElem? (start index : Nat) (conditions : List Condition) :
    (conjuncts start (writtenShapes (conditions.map Condition.shape)))[index]? =
      conditions[index]?.map fun condition =>
        written condition.column ++ ending (start + index) condition.shape.2 := by
  induction conditions generalizing start index with
  | nil => rfl
  | cons condition conditions ih =>
      cases index with
      | zero => rfl
      | succ index =>
          have later := ih (start + 1) index
          rw [Nat.add_right_comm start 1 index] at later
          exact later

theorem length_conjuncts (start : Nat) (conditions : List Condition) :
    (conjuncts start (writtenShapes (conditions.map Condition.shape))).length =
      conditions.length := by
  induction conditions generalizing start with
  | nil => rfl
  | cons condition conditions ih => exact congrArg (· + 1) (ih (start + 1))

theorem parameterName_ne_of_reserved {name : String} (reserved : name.toList.head? ≠ some 'f')
    (index : Nat) : name ≠ Condition.parameterName index := by
  rintro rfl
  rw [parameterName_toList] at reserved
  exact reserved rfl

theorem mem_boundFrom_of_getElem? {condition : Condition} {parameter : Parameter} {start : Nat}
    (found : conditions[index]? = some condition)
    (bound : parameter ∈ condition.binds (start + index)) :
    parameter ∈ boundFrom start conditions := by
  induction conditions generalizing start index with
  | nil => cases found
  | cons first conditions ih =>
      cases index with
      | zero =>
          cases found
          exact List.mem_append_left _ bound
      | succ index =>
          refine List.mem_append_right _ (ih found ?_)
          rwa [Nat.add_right_comm]

/-- What a check on a target is composed of. -/
structure Composed (d : Definition) (check : CompiledCheck) (results : String)
    (columns : List String) (target : String) (own : Parameter) (conditions : List Condition) :
    Prop where
  results_settled : Settled results
  columns_settled : ∀ column ∈ columns, Settled column
  target_settled : Settled target
  normalized : Condition.ofFilter d.rowFilter = .ok conditions
  accepted : ∀ condition ∈ conditions, ∃ column, Sql.column condition.column = .ok column
  named : own.name = ownName check.kind
  statement : check.statement = template check.kind results columns target
    (clause (writtenShapes (conditions.map Condition.shape)))
  parameters : check.parameters = commonParameters d ++ [own] ++ boundFrom 0 conditions

theorem exists_composed (compiled : compile d resultsTable = .ok (.valid check message))
    (targeted : check.kind = .freshness ∨ check.kind = .uniqueness) :
    ∃ results columns target own conditions,
      Composed d check results columns target own conditions := by
  obtain ⟨results, kind, path, parsed, made⟩ := ofKind_of_compile compiled
  obtain rfl : check.kind = kind := Except.ok.inj ((kind_of_valid compiled).symm.trans parsed)
  have other : check.kind ≠ .consistency := by
    rcases targeted with same | same <;> simp [same]
  rw [ofKind_eq_ground other] at made
  obtain ⟨⟨columns, target, own⟩, grounded, rest⟩ := bind_eq_ok made
  obtain ⟨⟨condition, bound⟩, filtered, rest⟩ := bind_eq_ok rest
  obtain ⟨columns_accepted, located⟩ := ground_eq_ok grounded
  obtain ⟨conditions, normalized, spelled, binds, each⟩ :=
    conditions_of_whereClause (declared_eq_ok filtered)
  have settled_of {text : String}
      (quoted : ∃ content, text = backQuoted content ∧ '@' ∉ content.toList) : Settled text := by
    obtain ⟨content, rfl, absent⟩ := quoted
    exact settled_of_quoted absent
  refine ⟨results, columns, target, own, conditions, ?_⟩
  exact {
    results_settled := settled_of (foreign_at.quoted_pathOf path)
    columns_settled := fun column member => by
      obtain ⟨key, _, accepted⟩ := exists_of_mem_mapM columns_accepted member
      exact settled_of (foreign_at.quoted_column accepted)
    target_settled := settled_of (foreign_at.quoted_target located)
    normalized
    accepted := fun condition member => by
      obtain ⟨place, part, spelled⟩ := each condition member
      obtain ⟨column, accepted, _⟩ := bind_eq_ok spelled
      exact ⟨column, accepted⟩
    named := name_of_ground targeted grounded
    statement := by rw [statement_of_checkOf rest, spelled]
    parameters := by rw [parameters_of_checkOf rest, binds] }

variable {target : String} {own : Parameter} {conditions : List Condition} {condition : Condition}
  {text : String} {index : Nat}

theorem ownName_reserved (kind : CheckKind) :
    ∀ name ∈ ["check_id", "check_name", ownName kind],
      name.toList.head? ≠ some 'f' ∧ name ≠ "run_time" := by
  cases kind <;> decide

theorem Composed.names (composed : Composed d check results columns target own conditions) :
    check.parameters.map (·.name) =
      ["check_id", "check_name", ownName check.kind] ++ (boundFrom 0 conditions).map (·.name) := by
  rw [composed.parameters, List.map_append, ← composed.named]
  rfl

theorem exists_of_mem_names {name : String} (member : name ∈ (boundFrom 0 conditions).map (·.name)) :
    ∃ index, name = Condition.parameterName index := by
  obtain ⟨parameter, bound, rfl⟩ := List.mem_map.mp member
  obtain ⟨place, condition, _, binds⟩ := mem_boundFrom bound
  exact ⟨_, name_of_mem_binds binds⟩

theorem Composed.nodup (composed : Composed d check results columns target own conditions) :
    (check.parameters.map (·.name)).Nodup := by
  have reserved : ["check_id", "check_name", ownName check.kind].Nodup := by
    cases check.kind <;> decide
  rw [composed.names]
  refine List.nodup_append.mpr ⟨reserved, nodup_boundFrom 0 conditions, ?_⟩
  intro name first later bound same
  subst same
  obtain ⟨index, named⟩ := exists_of_mem_names bound
  exact parameterName_ne_of_reserved (ownName_reserved check.kind name first).1 index named

theorem Composed.noRunTime (composed : Composed d check results columns target own conditions) :
    "run_time" ∉ check.parameters.map (·.name) := by
  rw [composed.names, List.mem_append]
  rintro (first | bound)
  · exact (ownName_reserved check.kind _ first).2 rfl
  · obtain ⟨index, named⟩ := exists_of_mem_names bound
    exact parameterName_ne_of_reserved (by decide) index named

theorem Composed.asked_iff (composed : Composed d check results columns target own conditions)
    (targeted : check.kind = .freshness ∨ check.kind = .uniqueness) (name : String) :
    name ∈ placeholders check.statement ↔
      name = "run_time" ∨ name ∈ check.parameters.map (·.name) := by
  rw [composed.statement, mem_placeholders_template targeted composed.results_settled
    composed.columns_settled composed.target_settled, placeholders_clause composed.accepted,
    composed.names]
  simp only [List.mem_append, List.mem_cons, List.not_mem_nil]
  tauto

/-- Only a value that is not null is bound under the name of its condition. -/
theorem given_of_bound (found : conditions[index]? = some condition)
    (bound : Condition.parameterName index ∈ (boundFrom 0 conditions).map (·.name)) :
    condition.value.isNull = false := by
  obtain ⟨parameter, member, same⟩ := List.mem_map.mp bound
  obtain ⟨place, other, there, binds⟩ := mem_boundFrom member
  have places : 0 + place = index :=
    parameterName_injective ((name_of_mem_binds binds).symm.trans same)
  rw [Nat.zero_add] at places
  subst places
  obtain rfl : other = condition := Option.some.inj (there.symm.trans found)
  unfold Condition.binds at binds
  split at binds
  · cases binds
  · rename_i given
    simpa using given

theorem Composed.stands (composed : Composed d check results columns target own conditions)
    (found : conditions[index]? = some condition) :
    Stands check.parameters index condition
      (written condition.column ++ ending index condition.shape.2) := by
  obtain ⟨column, accepted⟩ := composed.accepted condition (List.mem_of_getElem? found)
  have asked := placeholders_condition accepted index
  refine ⟨⟨column, accepted, by rw [written_of_column accepted]⟩, ?_, ?_, ?_, ?_⟩
  · rw [asked, Condition.binds]
    split <;> simp_all
  · intro name member
    rw [asked] at member
    obtain ⟨parameter, bound, rfl⟩ := List.mem_map.mp member
    exact name_of_mem_binds bound
  · intro given
    have bound : ⟨Condition.parameterName index, Parameter.typeOf condition.value,
        condition.value⟩ ∈ boundFrom 0 conditions := by
      refine mem_boundFrom_of_getElem? found ?_
      rw [Condition.binds, given, Nat.zero_add]
      exact List.mem_singleton.mpr rfl
    rw [composed.parameters]
    exact List.mem_append_right _ bound
  · intro null parameter member named
    have among : parameter.name ∈ check.parameters.map (·.name) := List.mem_map_of_mem member
    rw [composed.names, List.mem_append, named] at among
    rcases among with first | bound
    · exact parameterName_ne_of_reserved (ownName_reserved check.kind _ first).1 index rfl
    · rw [given_of_bound found bound] at null
      cases null

/-- Every placeholder of a statement on a target is bound, and bound once; only the time of the run
is left to the scheduler.  A condition asks for a parameter, under its place among the conditions,
exactly if it compares with a value. -/
theorem placeholders_bound (compiled : compile d resultsTable = .ok (.valid check message))
    (targeted : check.kind = .freshness ∨ check.kind = .uniqueness) :
    (check.parameters.map (·.name)).Nodup ∧
    "run_time" ∉ check.parameters.map (·.name) ∧
    (∀ name, name ∈ placeholders check.statement ↔
      name = "run_time" ∨ name ∈ check.parameters.map (·.name)) ∧
    ∃ conditions texts, Condition.ofFilter d.rowFilter = .ok conditions ∧
      texts.length = conditions.length ∧
      (texts ≠ [] → ∃ lead tail,
        check.statement = lead ++ ("WHERE " ++ Text.join " AND " texts) ++ tail) ∧
      ∀ index condition text, conditions[index]? = some condition → texts[index]? = some text →
        Stands check.parameters index condition text := by
  obtain ⟨results, columns, target, own, conditions, composed⟩ := exists_composed compiled targeted
  have shown : conjuncts 0 (writtenShapes (conditions.map Condition.shape)) ≠ [] →
      ∃ lead tail, check.statement = lead ++ ("WHERE " ++ Text.join " AND "
        (conjuncts 0 (writtenShapes (conditions.map Condition.shape)))) ++ tail := by
    intro some_there
    have nonempty : (writtenShapes (conditions.map Condition.shape)).isEmpty = false := by
      rw [← isEmpty_conjuncts 0]
      simpa using some_there
    have clause_there : clause (writtenShapes (conditions.map Condition.shape)) =
        "WHERE " ++ Text.join " AND "
          (conjuncts 0 (writtenShapes (conditions.map Condition.shape))) := by
      rw [clause, if_neg (by simp [nonempty])]
    rw [← clause_there, composed.statement]
    exact infix_template targeted (by simp [clause_there])
  refine ⟨composed.nodup, composed.noRunTime, composed.asked_iff targeted, conditions, _,
    composed.normalized, length_conjuncts 0 conditions, shown, ?_⟩
  intro index condition text found there
  rw [conjuncts_getElem?, found, Option.map_some, Option.some.injEq, Nat.zero_add] at there
  subst there
  exact composed.stands found

/-- Amounts in a range, of entries without a note. -/
def amountsWithin (least bound : Int) : Definition :=
  { amountsFrom "within" least (by decide) with
    rowFilter := .list [
      .ofFields [("column", .text "amount"), ("op", .text ">="), ("value", .int least)],
      .ofFields [("column", .text "note"), ("value", .null)],
      .ofFields [("column", .text "amount"), ("op", .text "<"), ("value", .int bound)]] }

/-- The condition on null takes a place and no parameter. -/
theorem amounts_bound :
    ∃ check message, compile (amountsWithin 5 900) (.text "results") = .ok (.valid check message) ∧
      (check.kind = .freshness ∨ check.kind = .uniqueness) ∧
      (check.parameters.map (·.name)).Nodup ∧
      "f_2" ∈ placeholders check.statement ∧ "f_1" ∉ placeholders check.statement := by
  have seen : ((compile (amountsWithin 5 900) (.text "results")).toOption.bind
      Verdict.check?).map (·.kind) = some .uniqueness := by decide +kernel
  obtain ⟨check, message, compiled, unique⟩ := valid_of_kind? seen
  have targeted : check.kind = .freshness ∨ check.kind = .uniqueness := Or.inr unique
  obtain ⟨nodup, _, asked, conditions, texts, normalized, length, _, stands⟩ :=
    placeholders_bound compiled targeted
  cases normalized
  have there (index : Nat) (small : index < 3) : ∃ text, texts[index]? = some text :=
    ⟨_, List.getElem?_eq_getElem (by rw [length]; exact small)⟩
  obtain ⟨second, second_there⟩ := there 1 (by decide)
  obtain ⟨third, third_there⟩ := there 2 (by decide)
  have unbound := (stands 1 _ second rfl second_there).null rfl
  have bound := (stands 2 _ third rfl third_there).given rfl
  refine ⟨check, message, compiled, targeted, nodup, ?_, ?_⟩
  · exact (asked "f_2").mpr (Or.inr (List.mem_map.mpr ⟨_, bound, by decide⟩))
  · intro member
    rcases (asked "f_1").mp member with same | among
    · exact absurd same (by decide)
    · obtain ⟨parameter, inside, named⟩ := List.mem_map.mp among
      exact unbound parameter inside (named.trans (by decide))

end Compile

end CheckKeeper
