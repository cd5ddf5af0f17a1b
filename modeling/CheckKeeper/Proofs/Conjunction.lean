import CheckKeeper.Preview.Filter
import CheckKeeper.Proofs.Identifiers
import CheckKeeper.Proofs.Keyed
import CheckKeeper.Proofs.Lexing
import CheckKeeper.Proofs.Placeholders

namespace CheckKeeper

/-! Clauses and what they mean.

A clause is a conjunction of predicates on columns.  It is read back from its text and from the
parameters that are bound to it, and is true, false or unknown of a row: null compares with
nothing, and a row passes only if all is true.  Carrying out a filter on sample rows lets the same
rows pass as its clause does.
-/

namespace Sql

inductive Truth where
  | yes
  | no
  | unknown
deriving DecidableEq, Repr

namespace Truth

def ofBool (flag : Bool) : Truth :=
  if flag then .yes else .no

/-- False as soon as one side is, and true only if both are. -/
def and : Truth → Truth → Truth
  | .no, _ => .no
  | _, .no => .no
  | .yes, .yes => .yes
  | _, _ => .unknown

end Truth

/-- How two values that are given compare by the operator that a text is, if it is one. -/
def operator? : String → Option (Value → Value → Except Failure Bool)
  | "=" => some fun a b => .ok (a.same b)
  | "!=" => some fun a b => .ok (!a.same b)
  | "<" => some Value.isLess
  | ">" => some Value.isGreater
  | "<=" => some Value.isAtMost
  | ">=" => some Value.isAtLeast
  | _ => none

inductive Predicate where
  | isNull (column : String)
  | isNotNull (column : String)
  | compares (column : String) (operator : Value → Value → Except Failure Bool) (value : Value)

/-- The truth of a predicate on a row, where a column that the row does not have is null.  It fails
only with the comparison of two values that are given. -/
def Predicate.truth (row : Row) : Predicate → Except Failure Truth
  | .isNull column => .ok (.ofBool (row.get column).isNull)
  | .isNotNull column => .ok (.ofBool (!(row.get column).isNull))
  | .compares column operator value =>
      if (row.get column).isNull || value.isNull then .ok .unknown
      else (operator (row.get column) value).map .ofBool

def truthOfAll (row : Row) : List Predicate → Except Failure Truth
  | [] => .ok .yes
  | predicate :: rest => do
      let first ← predicate.truth row
      return first.and (← truthOfAll row rest)

/-- Whether a row passes: what is false or unknown keeps it out. -/
def passes (predicates : List Predicate) (row : Row) : Bool :=
  match truthOfAll row predicates with
  | .ok .yes => true
  | _ => false

/-- The name in a word that is one name between back quotes. -/
def quotedName? (word : String) : Option String :=
  match word.toList with
  | '\x60' :: rest =>
      match cutName? rest with
      | some (body, []) => some (String.ofList body.dropLast)
      | _ => none
  | _ => none

/-- The value that is bound to a word that is a placeholder. -/
def boundValue? (bound : List Parameter) (word : String) : Option Value :=
  match word.toList with
  | '@' :: name => (bound.find? (·.name == String.ofList name)).map (·.value)
  | _ => none

def readPredicate (bound : List Parameter) : List String → Option Predicate
  | [column, "IS", "NULL"] => (quotedName? column).map .isNull
  | [column, "IS", "NOT", "NULL"] => (quotedName? column).map .isNotNull
  | [column, symbol, place] => do
      let name ← quotedName? column
      let operator ← operator? symbol
      let value ← boundValue? bound place
      return .compares name operator value
  | _ => none

/-- The predicates of a clause, read word by word; no clause has none. -/
def readClause (bound : List Parameter) (clause : String) : Option (List Predicate) :=
  if clause = "" then some []
  else
    match Text.splitText ' ' clause with
    | "WHERE" :: words => (words.splitOn "AND").mapM (readPredicate bound)
    | _ => none

variable {filter : Value} {condition : Condition} {conditions : List Condition} {index : Nat}
  {text name column : String} {bound : List Parameter} {row : Row} {truth : Truth}
  {predicate : Predicate} {predicates : List Predicate} {words : List String}

/-- What a condition on a column asks of a row. -/
def Condition.toPredicate (name : String) (condition : Condition) : Predicate :=
  if condition.value.isNull then
    if condition.comparison = .eq then .isNull name else .isNotNull name
  else .compares name (Preview.holds condition.comparison) condition.value

/-- The words that an accepted condition is written in. -/
def conditionWords (index : Nat) (column : String) (mark : Mark) : List String :=
  if mark.2 then
    if mark.1 = .eq then [column, "IS", "NULL"] else [column, "IS", "NOT", "NULL"]
  else [column, mark.1.symbol, "@" ++ Condition.parameterName index]

theorem join_conditionWords (index : Nat) (column : String) (mark : Mark) :
    Text.join " " (conditionWords index column mark) = column ++ ending index mark := by
  unfold conditionWords ending Text.join
  split
  · split
    · rw [String.intercalate_cons_cons, String.append_assoc]
      rfl
    · rw [String.intercalate_cons_cons, String.append_assoc]
      rfl
  · simp only [String.intercalate_cons_cons, String.intercalate_singleton, String.append_assoc]
    rfl

theorem quotedName?_backQuoted (plain : Plain name) : quotedName? (backQuoted name) = some name := by
  have spelled : (backQuoted name).toList = '\x60' :: (name.toList ++ '\x60' :: []) := by
    simp [backQuoted]
  rw [quotedName?, spelled]
  simp only [cutName?_body plain, List.dropLast_concat, String.ofList_toList]

theorem boundValue?_at {parameter : Parameter} (distinct : (bound.map (·.name)).Nodup)
    (member : parameter ∈ bound) : boundValue? bound ("@" ++ parameter.name) = some parameter.value := by
  have spelled : ("@" ++ parameter.name).toList = '@' :: parameter.name.toList := by
    rw [String.toList_append]
    rfl
  rw [boundValue?, spelled]
  simp only [String.ofList_toList]
  rw [Keyed.find?_of_mem distinct member, Option.map_some]

/-- The operators of the clauses are those that filters are carried out with. -/
theorem operator?_symbol (comparison : Comparison) :
    operator? comparison.symbol = some (Preview.holds comparison) := by
  cases comparison <;> rfl

theorem readPredicate_compares (bound : List Parameter) (column : String)
    (comparison : Comparison) (place : String) :
    readPredicate bound [column, comparison.symbol, place] =
      (quotedName? column).bind fun name =>
        (boundValue? bound place).map (.compares name (Preview.holds comparison)) := by
  have unread : readPredicate bound [column, comparison.symbol, place] =
      (quotedName? column).bind fun name =>
        (operator? comparison.symbol).bind fun operator =>
          (boundValue? bound place).bind fun value => some (.compares name operator value) := by
    cases comparison <;> rfl
  rw [unread, operator?_symbol]
  simp only [Option.bind_some, Option.map_eq_bind]
  rfl

theorem readPredicate_conditionWords (plain : Plain name)
    (given : condition.value.isNull = false →
      boundValue? bound ("@" ++ Condition.parameterName index) = some condition.value) :
    readPredicate bound (conditionWords index (backQuoted name) condition.shape.2) =
      some (condition.toPredicate name) := by
  unfold conditionWords Condition.toPredicate Condition.shape
  by_cases null : condition.value.isNull = true
  · simp only [null, if_true]
    split
    · simp only [readPredicate, quotedName?_backQuoted plain, Option.map_some]
    · simp only [readPredicate, quotedName?_backQuoted plain, Option.map_some]
  · rw [Bool.not_eq_true] at null
    simp only [null, Bool.false_eq_true, if_false]
    rw [readPredicate_compares, quotedName?_backQuoted plain, given null]
    rfl

theorem join_append {later : List String} (first_given : words ≠ []) (later_given : later ≠ []) :
    Text.join " " (words ++ later) = Text.join " " words ++ " " ++ Text.join " " later := by
  unfold Text.join
  induction words with
  | nil => exact absurd rfl first_given
  | cons word words ih =>
      cases words with
      | nil =>
          cases later with
          | nil => exact absurd rfl later_given
          | cons next later =>
              rw [List.singleton_append, String.intercalate_cons_cons, String.intercalate_singleton]
      | cons second words =>
          have rest := ih (by simp)
          rw [List.cons_append] at rest
          rw [List.cons_append, List.cons_append, String.intercalate_cons_cons, rest,
            String.intercalate_cons_cons]
          simp only [String.append_assoc]

variable {groups : List (List String)} {word : String}

theorem intercalate_ne_nil (some_there : groups ≠ []) (given : ∀ group ∈ groups, group ≠ []) :
    ["AND"].intercalate groups ≠ [] := by
  cases groups with
  | nil => exact absurd rfl some_there
  | cons group groups =>
      have group_given := given group List.mem_cons_self
      cases groups <;> simp [List.intercalate_cons_cons, group_given]

theorem mem_intercalate (member : word ∈ ["AND"].intercalate groups) :
    word = "AND" ∨ ∃ group ∈ groups, word ∈ group := by
  induction groups with
  | nil => cases member
  | cons group groups ih =>
      cases groups with
      | nil => exact Or.inr ⟨group, List.mem_cons_self, by simpa using member⟩
      | cons next groups =>
          rw [List.intercalate_cons_cons, List.append_assoc, List.mem_append, List.mem_append] at member
          rcases member with here | joint | later
          · exact Or.inr ⟨group, List.mem_cons_self, here⟩
          · exact Or.inl (List.mem_singleton.mp joint)
          · rcases ih later with joint | ⟨found, inside, there⟩
            · exact Or.inl joint
            · exact Or.inr ⟨found, List.mem_cons_of_mem _ inside, there⟩

theorem join_and (given : ∀ group ∈ groups, group ≠ []) :
    Text.join " AND " (groups.map (Text.join " ")) = Text.join " " (["AND"].intercalate groups) := by
  induction groups with
  | nil => rfl
  | cons group groups ih =>
      obtain ⟨group_given, later_given⟩ := List.forall_mem_cons.mp given
      cases groups with
      | nil => simp [Text.join]
      | cons next groups =>
          have rest := ih later_given
          have behind := intercalate_ne_nil (by simp) later_given
          have cut : " AND " = " " ++ "AND" ++ " " := rfl
          rw [List.intercalate_cons_cons, join_append (by simp) behind,
            join_append group_given (by simp), ← rest, cut]
          simp only [Text.join, List.map_cons, String.intercalate_cons_cons,
            String.intercalate_singleton, String.append_assoc]

theorem splitText_join (separator : Char) (mark : String) (spells : mark.toList = [separator])
    (given : words ≠ []) (unbroken : ∀ word ∈ words, separator ∉ word.toList) :
    Text.splitText separator (Text.join mark words) = words := by
  have spelled : (Text.join mark words).toList = [separator].intercalate (words.map String.toList) :=
    spells ▸ String.toList_intercalate
  have parts : ([separator].intercalate (words.map String.toList)).splitOn separator =
      words.map String.toList :=
    List.splitOn_intercalate separator (by simpa using unbroken) (by simpa using given)
  rw [Text.splitText, splitAt_eq_splitOn, spelled, parts, List.map_map]
  exact (List.map_congr_left fun word _ => String.ofList_toList).trans (List.map_id words)

/-- What an accepted condition is about. -/
structure Condition.IsOn (condition : Condition) (name : String) : Prop where
  column : condition.column = .text name
  isName : isName name.toList = true
  equality : condition.value.isNull = true →
    condition.comparison = .eq ∨ condition.comparison = .ne

theorem exists_isOn {place : Nat} {part : String × List Parameter}
    (made : condition.toSql place = .ok part) : ∃ name, condition.IsOn name := by
  obtain ⟨column, accepted, rest⟩ := Compile.bind_eq_ok made
  obtain ⟨declared, comparison, value⟩ := condition
  have named : ∃ name, declared = .text name ∧ isName name.toList = true := by
    dsimp only [Sql.column] at accepted
    split at accepted
    · rename_i content
      split at accepted
      · rename_i is_name
        exact ⟨content, rfl, is_name⟩
      · cases accepted
    · cases accepted
  obtain ⟨name, rfl, is_name⟩ := named
  refine ⟨name, rfl, is_name, ?_⟩
  intro null
  simp only at rest null
  rw [if_pos null] at rest
  cases comparison with
  | eq => exact Or.inl rfl
  | ne => exact Or.inr rfl
  | _ => cases rest

theorem Condition.IsOn.plain (on : condition.IsOn name) : Plain name :=
  foreign_backQuote.not_mem_name on.isName

theorem Condition.IsOn.written (on : condition.IsOn name) :
    written condition.column = backQuoted name := by
  rw [on.column]
  refine written_of_column ?_
  rw [Sql.column, if_pos on.isName]

/-- The words of conditions, of which the first has the given index. -/
def wordsFrom : Nat → List Condition → List (List String)
  | _, [] => []
  | index, condition :: rest =>
      conditionWords index (written condition.column) condition.shape.2 ::
        wordsFrom (index + 1) rest

theorem conjuncts_eq_join (index : Nat) (conditions : List Condition) :
    conjuncts index (writtenShapes (conditions.map Condition.shape)) =
      (wordsFrom index conditions).map (Text.join " ") := by
  induction conditions generalizing index with
  | nil => rfl
  | cons condition conditions ih =>
      rw [wordsFrom, List.map_cons, List.map_cons, join_conditionWords, ← ih]
      rfl

/-- Words that neither are cut at blanks nor join conditions. -/
structure Apart (group : List String) : Prop where
  given : group ≠ []
  blankless : ∀ word ∈ group, ' ' ∉ word.toList
  noJoint : "AND" ∉ group

theorem apart_conditionWords (on : condition.IsOn name) (index : Nat) :
    Apart (conditionWords index (written condition.column) condition.shape.2) := by
  have foreign : Foreign ' ' := ⟨by decide, by decide, by decide⟩
  have column_blankless : ' ' ∉ (backQuoted name).toList := by
    have inside := foreign.not_mem_name on.isName
    simpa [backQuoted] using inside
  have column_noJoint : "AND" ≠ backQuoted name := by
    intro same
    have first := congrArg (·.toList.head?) same
    simp [backQuoted] at first
  have place_blankless : ' ' ∉ ("@" ++ Condition.parameterName index).toList := by
    rw [String.toList_append]
    intro member
    rcases List.mem_append.mp member with start | inside
    · exact absurd start (by decide)
    · exact absurd (isNameChar_parameterName index ' ' inside) (by decide)
  have place_noJoint : "AND" ≠ "@" ++ Condition.parameterName index := by
    intro same
    have first := congrArg (·.toList.head?) same
    simp [String.toList_append] at first
  rw [on.written]
  unfold conditionWords
  split
  · split
    · exact ⟨by simp, by simpa using column_blankless, by simpa using column_noJoint⟩
    · exact ⟨by simp, by simpa using column_blankless, by simpa using column_noJoint⟩
  · have symbol : ' ' ∉ condition.shape.2.1.symbol.toList ∧ "AND" ≠ condition.shape.2.1.symbol := by
      cases condition.shape.2.1 <;> decide
    refine ⟨by simp, ?_, ?_⟩
    · simp only [List.forall_mem_cons]
      exact ⟨column_blankless, symbol.1, place_blankless, by simp⟩
    · simp only [List.mem_cons, not_or]
      exact ⟨column_noJoint, symbol.2, place_noJoint, List.not_mem_nil⟩

theorem apart_wordsFrom (on : ∀ condition ∈ conditions, ∃ name, condition.IsOn name) (index : Nat) :
    ∀ group ∈ wordsFrom index conditions, Apart group := by
  induction conditions generalizing index with
  | nil => simp [wordsFrom]
  | cons condition conditions ih =>
      obtain ⟨⟨name, first⟩, later⟩ := List.forall_mem_cons.mp on
      exact List.forall_mem_cons.mpr ⟨apart_conditionWords first index, ih later (index + 1)⟩

/-- The predicate that a condition is read as. -/
def ReadAs (condition : Condition) (predicate : Predicate) : Prop :=
  ∃ name, condition.IsOn name ∧ predicate = condition.toPredicate name

theorem boundValue?_of_mem (distinct : (bound.map (·.name)).Nodup)
    (binds : ∀ parameter ∈ condition.binds index, parameter ∈ bound)
    (given : condition.value.isNull = false) :
    boundValue? bound ("@" ++ Condition.parameterName index) = some condition.value := by
  have own : condition.binds index =
      [⟨Condition.parameterName index, Parameter.typeOf condition.value, condition.value⟩] := by
    rw [Condition.binds, given]
    rfl
  rw [own, List.forall_mem_singleton] at binds
  have found := boundValue?_at distinct binds
  dsimp only at found
  exact found

theorem read_wordsFrom (on : ∀ condition ∈ conditions, ∃ name, condition.IsOn name)
    (distinct : (bound.map (·.name)).Nodup)
    (binds : ∀ parameter ∈ boundFrom index conditions, parameter ∈ bound) :
    ∃ predicates, (wordsFrom index conditions).mapM (readPredicate bound) = some predicates ∧
      List.Forall₂ ReadAs conditions predicates := by
  induction conditions generalizing index with
  | nil => exact ⟨[], rfl, .nil⟩
  | cons condition conditions ih =>
      obtain ⟨⟨name, first⟩, later⟩ := List.forall_mem_cons.mp on
      obtain ⟨own, others⟩ := List.forall_mem_append.mp binds
      obtain ⟨predicates, read, each⟩ := ih later others
      have here : readPredicate bound
          (conditionWords index (written condition.column) condition.shape.2) =
          some (condition.toPredicate name) := by
        rw [first.written]
        exact readPredicate_conditionWords first.plain (boundValue?_of_mem distinct own)
      refine ⟨condition.toPredicate name :: predicates, ?_, .cons ⟨name, first, rfl⟩ each⟩
      rw [wordsFrom, List.mapM_cons, here, read]
      rfl

/-- A clause is read back as the conditions that it was written of. -/
theorem readClause_of_whereClause (made : whereClause filter = .ok (text, bound)) :
    ∃ conditions predicates, Condition.ofFilter filter = .ok conditions ∧
      readClause bound text = some predicates ∧ List.Forall₂ ReadAs conditions predicates := by
  obtain ⟨conditions, normalized, rfl, rfl, each⟩ := conditions_of_whereClause made
  have on : ∀ condition ∈ conditions, ∃ name, condition.IsOn name := by
    intro condition member
    obtain ⟨place, part, spelled⟩ := each condition member
    exact exists_isOn spelled
  obtain ⟨predicates, read, same⟩ :=
    read_wordsFrom on (nodup_boundFrom 0 conditions) fun _ member => member
  refine ⟨conditions, predicates, normalized, ?_, same⟩
  by_cases none_there : conditions = []
  · subst none_there
    cases same
    rfl
  · have apart := apart_wordsFrom on 0
    have some_words : wordsFrom 0 conditions ≠ [] := by
      cases conditions with
      | nil => exact absurd rfl none_there
      | cons condition conditions => exact List.cons_ne_nil _ _
    have groups : ((["AND"].intercalate (wordsFrom 0 conditions)).splitOn "AND") =
        wordsFrom 0 conditions :=
      List.splitOn_intercalate "AND" (fun group member => (apart group member).noJoint) some_words
    have group_given : ∀ group ∈ wordsFrom 0 conditions, group ≠ [] :=
      fun group member => (apart group member).given
    have given : clause (writtenShapes (conditions.map Condition.shape)) ≠ "" := by
      simpa [clause_eq_empty, writtenShapes] using none_there
    have spelled : clause (writtenShapes (conditions.map Condition.shape)) =
        Text.join " " ("WHERE" :: ["AND"].intercalate (wordsFrom 0 conditions)) := by
      have front : "WHERE " = Text.join " " ["WHERE"] ++ " " := rfl
      rw [clause, if_neg (by simpa [writtenShapes] using none_there), conjuncts_eq_join,
        join_and group_given, front, ← join_append (by simp)
          (intercalate_ne_nil some_words group_given)]
      rfl
    have blankless : ∀ word ∈ "WHERE" :: ["AND"].intercalate (wordsFrom 0 conditions),
        ' ' ∉ word.toList := by
      refine List.forall_mem_cons.mpr ⟨by decide, fun word member => ?_⟩
      rcases mem_intercalate member with rfl | ⟨group, inside, there⟩
      · decide
      · exact (apart group inside).blankless word there
    have cut := splitText_join ' ' " " rfl (List.cons_ne_nil _ _) blankless
    rw [readClause, if_neg given, spelled, cut]
    simp only [groups, read]

end Sql

namespace Preview

open Sql

variable {filter : Value} {condition : Condition} {conditions : List Condition} {row : Row}
  {rows : List Row} {text name : String} {bound : List Parameter} {predicate : Predicate}
  {predicates : List Predicate} {a b : Value}

/-- Two values that have an order, be it that one of two numbers is undefined. -/
def Comparable (a b : Value) : Prop :=
  ∃ order, a.compare? b = .ok order

/-- Where a condition asks for an order, the cell of the row and the value have one, unless one of
them is null. -/
def Suits (condition : Condition) (row : Row) : Prop :=
  ∀ name, condition.column = .text name → condition.comparison ≠ .eq → condition.comparison ≠ .ne →
    (row.get name).isNull = false → condition.value.isNull = false →
    Comparable (row.get name) condition.value

theorem same_text (other : Value) (name : String) :
    other.same (.text name) = Row.named name other := by
  cases other <;> rfl

theorem lookup_text (row : Row) (name : String) : Row.lookup row (.text name) = .ok (row.get name) := by
  have same : (fun field : Value × Value => field.1.same (.text name)) =
      fun field => Row.named name field.1 := funext fun field => same_text field.1 name
  unfold Row.lookup Row.get Row.find?
  simp only [same]
  rfl

theorem exists_holds {comparison : Comparison}
    (ordered : comparison ≠ .eq → comparison ≠ .ne → Comparable a b) :
    ∃ answer, holds comparison a b = .ok answer := by
  have compared (symbol : String) (other : Comparable a b) : ∃ order, Value.order symbol a b = .ok order := by
    obtain ⟨order, found⟩ := other
    exact ⟨order, by rw [Value.order, found]; rfl⟩
  cases comparison with
  | eq => exact ⟨_, rfl⟩
  | ne => exact ⟨_, rfl⟩
  | lt =>
      obtain ⟨order, found⟩ := compared "<" (ordered (by decide) (by decide))
      exact ⟨order == some .lt, by rw [holds, Value.isLess, found]; rfl⟩
  | gt =>
      obtain ⟨order, found⟩ := compared ">" (ordered (by decide) (by decide))
      exact ⟨order == some .gt, by rw [holds, Value.isGreater, found]; rfl⟩
  | le =>
      obtain ⟨order, found⟩ := compared "<=" (ordered (by decide) (by decide))
      exact ⟨order == some .lt || order == some .eq, by rw [holds, Value.isAtMost, found]; rfl⟩
  | ge =>
      obtain ⟨order, found⟩ := compared ">=" (ordered (by decide) (by decide))
      exact ⟨order == some .gt || order == some .eq, by rw [holds, Value.isAtLeast, found]; rfl⟩

/-- A row meets a condition exactly if its predicate is true of it. -/
theorem meets_of_readAs (read : ReadAs condition predicate) (suits : Suits condition row) :
    ∃ truth, predicate.truth row = .ok truth ∧ meets row condition = .ok (truth == .yes) := by
  obtain ⟨name, on, rfl⟩ := read
  have cell : meets row condition = (if condition.value.isNull then
        .ok ((condition.comparison == .eq) == (row.get name).isNull)
      else if (row.get name).isNull then .ok false
      else holds condition.comparison (row.get name) condition.value) := by
    rw [meets, on.column, lookup_text]
    rfl
  rw [cell]
  unfold Condition.toPredicate
  by_cases null : condition.value.isNull = true
  · simp only [null, if_true]
    rcases on.equality null with same | same
    · rw [same]
      refine ⟨_, rfl, ?_⟩
      cases (row.get name).isNull <;> rfl
    · rw [same]
      refine ⟨_, rfl, ?_⟩
      cases (row.get name).isNull <;> rfl
  · rw [Bool.not_eq_true] at null
    simp only [null, Bool.false_eq_true, if_false, Predicate.truth, Bool.or_false]
    by_cases missing : (row.get name).isNull = true
    · rw [if_pos missing, if_pos missing]
      exact ⟨.unknown, rfl, rfl⟩
    · rw [if_neg missing, if_neg missing]
      rw [Bool.not_eq_true] at missing
      obtain ⟨answer, found⟩ := exists_holds fun unequal unlike =>
        suits name on.column unequal unlike missing null
      rw [found]
      refine ⟨_, rfl, ?_⟩
      cases answer <;> rfl

theorem and_eq_yes (first later : Truth) :
    (first.and later == .yes) = ((first == .yes) && (later == .yes)) := by
  cases first <;> cases later <;> rfl

theorem meetsAll_of_readAs (read : List.Forall₂ ReadAs conditions predicates)
    (suits : ∀ condition ∈ conditions, Suits condition row) :
    ∃ truth, truthOfAll row predicates = .ok truth ∧
      meetsAll row conditions = .ok (truth == .yes) := by
  induction read with
  | nil => exact ⟨.yes, rfl, rfl⟩
  | @cons condition predicate conditions predicates first _ ih =>
      obtain ⟨own, others⟩ := List.forall_mem_cons.mp suits
      obtain ⟨truth, known, met⟩ := meets_of_readAs first own
      obtain ⟨later, later_known, later_met⟩ := ih others
      refine ⟨truth.and later, ?_, ?_⟩
      · rw [truthOfAll, known, later_known]
        rfl
      · -- The search ends with the first condition that is not met, whatever the later ones say.
        rw [meetsAll, met, and_eq_yes]
        cases truth with
        | yes => exact later_met
        | no => rfl
        | unknown => rfl

theorem sampleMeets_of_readAs (read : List.Forall₂ ReadAs conditions predicates)
    (suits : ∀ condition ∈ conditions, Suits condition row) :
    sampleMeets conditions (.record row) = .ok (passes predicates row) := by
  obtain ⟨truth, known, met⟩ := meetsAll_of_readAs read suits
  have passed : passes predicates row = (truth == .yes) := by
    rw [passes, known]
    cases truth <;> rfl
  rw [passed]
  cases conditions with
  | nil =>
      cases read
      cases known
      rfl
  | cons condition conditions => exact met

theorem keepRows_of_readAs (read : List.Forall₂ ReadAs conditions predicates)
    (suits : ∀ row ∈ rows, ∀ condition ∈ conditions, Suits condition row) :
    keepRows conditions (rows.map .record) =
      .ok ((rows.filter (passes predicates)).map .record) := by
  induction rows with
  | nil => rfl
  | cons row rows ih =>
      obtain ⟨own, others⟩ := List.forall_mem_cons.mp suits
      rw [List.map_cons, keepRows, sampleMeets_of_readAs read own, ih others, List.filter_cons]
      cases passes predicates row <;> rfl

/-- Carrying out an accepted filter on sample rows keeps, in order, exactly the rows of which its
clause is true. -/
theorem filterRows_as_clause (accepted : whereClause filter = .ok (text, bound))
    (suits : ∀ conditions, Condition.ofFilter filter = .ok conditions →
      ∀ row ∈ rows, ∀ condition ∈ conditions, Suits condition row) :
    ∃ predicates, readClause bound text = some predicates ∧
      (∀ row ∈ rows, ∃ truth, truthOfAll row predicates = .ok truth) ∧
      filterRows filter (rows.map .record) =
        .ok ((rows.filter (passes predicates)).map .record) := by
  obtain ⟨conditions, predicates, normalized, read, each⟩ := readClause_of_whereClause accepted
  have suited := suits conditions normalized
  refine ⟨predicates, read, ?_, ?_⟩
  · intro row member
    obtain ⟨truth, known, _⟩ := meetsAll_of_readAs each (suited row member)
    exact ⟨truth, known⟩
  · rw [filterRows, normalized]
    exact keepRows_of_readAs each suited

def largeUnnamed : Value :=
  .list [
    .ofFields [("column", .text "amount"), ("op", .text ">="), ("value", .int 5)],
    .ofFields [("column", .text "note"), ("value", .null)]]

def amounts : List Row :=
  [[(.text "amount", .int 5)], [(.text "amount", .null)],
    [(.text "amount", .int 9), (.text "note", .text "late")]]

theorem amounts_as_clause :
    ∃ text bound predicates, whereClause largeUnnamed = .ok (text, bound) ∧
      text = "WHERE \x60amount\x60 >= @f_0 AND \x60note\x60 IS NULL" ∧
      (∀ conditions, Condition.ofFilter largeUnnamed = .ok conditions →
        ∀ row ∈ amounts, ∀ condition ∈ conditions, Suits condition row) ∧
      readClause bound text = some predicates ∧
      filterRows largeUnnamed (amounts.map .record) =
        .ok ((amounts.filter (passes predicates)).map .record) ∧
      (amounts.filter (passes predicates)).length = 1 := by
  have accepted : whereClause largeUnnamed =
      .ok ("WHERE \x60amount\x60 >= @f_0 AND \x60note\x60 IS NULL", [⟨"f_0", "INT64", .int 5⟩]) := by
    rfl
  have suits : ∀ conditions, Condition.ofFilter largeUnnamed = .ok conditions →
      ∀ row ∈ amounts, ∀ condition ∈ conditions, Suits condition row := by
    intro conditions normalized row member condition inside name on unequal _ given _
    cases normalized
    rcases List.mem_cons.mp inside with rfl | inside
    · cases on
      simp only [amounts, List.mem_cons, List.not_mem_nil, or_false] at member
      rcases member with rfl | rfl | rfl
      · exact ⟨_, rfl⟩
      · cases given
      · exact ⟨_, rfl⟩
    · rw [List.mem_singleton.mp inside] at unequal
      exact absurd rfl unequal
  obtain ⟨predicates, read, _, kept⟩ := filterRows_as_clause accepted suits
  have counted : (readClause [⟨"f_0", "INT64", .int 5⟩]
      "WHERE \x60amount\x60 >= @f_0 AND \x60note\x60 IS NULL").map
        (fun found => (amounts.filter (passes found)).length) = some 1 := by decide +kernel
  rw [read] at counted
  exact ⟨_, _, predicates, accepted, rfl, suits, read, kept, Option.some.inj counted⟩

end Preview

end CheckKeeper
