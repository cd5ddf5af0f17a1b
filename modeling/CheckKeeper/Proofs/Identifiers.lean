import Mathlib.Data.List.Basic
import CheckKeeper.Sql.Identifier

namespace CheckKeeper.Sql

/-! Which identifiers are accepted.

The allow-list is a grammar over whole texts.  A text is checked part by part, and each part is
let pass with a line break behind it: what is accepted are the texts of the grammar, and those
that differ from one by line breaks at the ends of parts.
-/

variable {c : Char} {cs xs ys : List Char} {parts : List (List Char)}
  {start part : Char → Bool} {found : Except Failure String} {text : String}

def Spelled (starts goesOn : Char → Prop) (cs : List Char) : Prop :=
  ∃ first rest, cs = first :: rest ∧ starts first ∧ ∀ c ∈ rest, goesOn c

/-- One letter or underscore, and then letters, digits and underscores. -/
def IsWord : List Char → Prop :=
  Spelled (fun c => c.isAlpha = true ∨ c = '_') fun c => c.isAlphanum = true ∨ c = '_'

def IsProjectWord : List Char → Prop :=
  Spelled (fun c => c.isAlpha = true) fun c => c.isAlphanum = true ∨ c = '_' ∨ c = '-'

def PathWords : List (List Char) → Prop
  | [table] => IsWord table
  | [dataset, table] => IsWord dataset ∧ IsWord table
  | [project, dataset, table] => IsProjectWord project ∧ IsWord dataset ∧ IsWord table
  | _ => False

def IsPath (cs : List Char) : Prop :=
  ∃ parts, cs = ['.'].intercalate parts ∧ PathWords parts

def IsTarget (schema table : List Char) : Prop :=
  schema.count '.' ≤ 1 ∧ IsWord table ∧ IsPath (schema ++ '.' :: table)

/-- An allowed text is answered between back quotes; any other is no identifier. -/
structure Decides (found : Except Failure String) (allowed : Prop) (text : String) : Prop where
  accepts : allowed → found = .ok (backQuoted text)
  refuses : ¬ allowed → ∃ fault, found = .error (.identifier fault)

def unbroken : List Char → List Char
  | [] => []
  | ['\n'] => []
  | c :: rest => c :: unbroken rest

/-- The text without the line breaks at the ends of its parts. -/
def mended (cs : List Char) : List Char :=
  ['.'].intercalate ((cs.splitOn '.').map unbroken)

/-- The answer is right but for the texts that are allowed once they are mended. -/
structure Judges (found : Except Failure String) (text : String) (strict loose : Prop) :
    Prop where
  decides : Decides found loose text
  strictly_iff : Decides found strict text ↔ ¬ (mended text.toList ≠ text.toList ∧ loose)

theorem mem_of_mem_unbroken (member : c ∈ unbroken cs) : c ∈ cs := by
  fun_induction unbroken cs with
  | case1 => exact member
  | case2 => simp at member
  | case3 first rest _ ih =>
      cases List.mem_cons.mp member with
      | inl here => simp [here]
      | inr later => simp [ih later]

theorem unbroken_eq_self (unbreaking : ∀ c ∈ cs, c ≠ '\n') : unbroken cs = cs := by
  fun_induction unbroken cs with
  | case1 => rfl
  | case2 => simp at unbreaking
  | case3 first rest _ ih => simp [ih fun c member => unbreaking c (by simp [member])]

theorem count_unbroken (other : c ≠ '\n') (cs : List Char) :
    (unbroken cs).count c = cs.count c := by
  fun_induction unbroken cs with
  | case1 => rfl
  | case2 => simp [other.symm]
  | case3 first rest _ ih => simp [List.count_cons, ih]

theorem isRunOf_iff : isRunOf part cs = true ↔ ∀ c ∈ unbroken cs, part c = true := by
  fun_induction unbroken cs with
  | case1 => simp [isRunOf]
  | case2 => simp [isRunOf]
  | case3 first rest broken ih =>
      have step : isRunOf part (first :: rest) = (part first && isRunOf part rest) := by
        rw [isRunOf]
        exact broken
      simp [step, ih]

theorem spelled_iff (part : Char → Bool) (breakless : start '\n' = false) (cs : List Char) :
    (match cs with
      | [] => false
      | c :: rest => start c && isRunOf part rest) = true ↔
      Spelled (start · = true) (part · = true) (unbroken cs) := by
  fun_cases unbroken cs with
  | case1 => simp [Spelled]
  | case2 => simp [Spelled, breakless]
  | case3 first rest _ => simp [Spelled, isRunOf_iff]

theorem isLetter_eq (c : Char) : isLetter c = c.isAlpha := by
  have upper : c.isUpper = decide ('A' ≤ c ∧ c ≤ 'Z') := rfl
  have either : c.isAlpha = (c.isUpper || (decide ('a' ≤ c) && decide (c ≤ 'z'))) := rfl
  rw [either, upper, Bool.decide_and]
  rfl

theorem isDigit_eq (c : Char) : Number.isDigit c = c.isDigit := by
  rfl

theorem isNameStart_iff : isNameStart c = true ↔ c.isAlpha = true ∨ c = '_' := by
  simp [isNameStart, isLetter_eq]

theorem isNameChar_iff : isNameChar c = true ↔ c.isAlphanum = true ∨ c = '_' := by
  simp only [isNameChar, Bool.or_eq_true, isNameStart_iff, isDigit_eq, Char.isAlphanum]
  tauto

theorem isProjectChar_iff :
    isProjectChar c = true ↔ c.isAlphanum = true ∨ c = '_' ∨ c = '-' := by
  simp [isProjectChar, isNameChar_iff, or_assoc]

theorem isName_iff (cs : List Char) : isName cs = true ↔ IsWord (unbroken cs) := by
  have spelled := spelled_iff isNameChar (by decide : isNameStart '\n' = false) cs
  refine Iff.trans spelled ?_
  simp only [IsWord, isNameStart_iff, isNameChar_iff]

theorem isProject_iff (cs : List Char) : isProject cs = true ↔ IsProjectWord (unbroken cs) := by
  have spelled := spelled_iff isProjectChar (by decide : isLetter '\n' = false) cs
  refine Iff.trans spelled ?_
  simp only [IsProjectWord, isLetter_eq, isProjectChar_iff]

theorem isWord_chars (word : IsWord cs) : ∀ c ∈ cs, c.isAlphanum = true ∨ c = '_' := by
  obtain ⟨first, rest, rfl, starts, goesOn⟩ := word
  intro c member
  cases List.mem_cons.mp member with
  | inl here =>
      subst here
      exact starts.imp_left fun letter => by simp [Char.isAlphanum, letter]
  | inr later => exact goesOn c later

theorem isProjectWord_chars (word : IsProjectWord cs) :
    ∀ c ∈ cs, c.isAlphanum = true ∨ c = '_' ∨ c = '-' := by
  obtain ⟨first, rest, rfl, starts, goesOn⟩ := word
  intro c member
  cases List.mem_cons.mp member with
  | inl here => exact .inl (by simp [here, Char.isAlphanum, starts])
  | inr later => exact goesOn c later

/-- Neither a separator nor a line break can stand in a word. -/
theorem plain_of_pathWords (words : PathWords parts) :
    ∀ cs ∈ parts, ∀ c ∈ cs, c ≠ '.' ∧ c ≠ '\n' := by
  have ordinary : ∀ c, c.isAlphanum = true ∨ c = '_' ∨ c = '-' → c ≠ '.' ∧ c ≠ '\n' := by
    intro c allowed
    constructor <;> intro isOther <;> subst isOther <;> revert allowed <;> decide
  have ofWord : ∀ cs, IsWord cs → ∀ c ∈ cs, c ≠ '.' ∧ c ≠ '\n' := fun cs word c member =>
    ordinary c ((isWord_chars word c member).imp_right .inl)
  match parts, words with
  | [table], words => simpa using ofWord table words
  | [dataset, table], words => simpa using ⟨ofWord dataset words.1, ofWord table words.2⟩
  | [project, dataset, table], words =>
      simpa using ⟨fun c member => ordinary c (isProjectWord_chars words.1 c member),
        ofWord dataset words.2.1, ofWord table words.2.2⟩

theorem not_mem_of_mem_splitOn (separator : Char) (cs : List Char) :
    ∀ piece ∈ cs.splitOn separator, separator ∉ piece := by
  induction cs with
  | nil => simp
  | cons c rest ih =>
      rw [List.splitOn_cons_eq_if_modifyHead]
      split
      · simpa using ih
      · rename_i other
        cases pieces : rest.splitOn separator with
        | nil => simp
        | cons first later =>
            simp only [pieces, List.forall_mem_cons] at ih
            have unlike : separator ≠ c := fun same => other (by simp [same])
            simpa [ih.1, unlike] using ih.2

theorem splitAt_eq_splitOn (separator : Char) (cs : List Char) :
    Text.splitAt separator cs = cs.splitOn separator := by
  induction cs with
  | nil => simp [Text.splitAt]
  | cons c rest ih =>
      rw [List.splitOn_cons_eq_if_modifyHead, Text.splitAt, ih]
      by_cases here : c = separator
      · simp [here]
      · cases pieces : rest.splitOn separator with
        | nil => exact absurd pieces (List.splitOn_ne_nil separator rest)
        | cons first later => simp [here]

theorem isPath_iff (cs : List Char) : IsPath cs ↔ PathWords (cs.splitOn '.') := by
  constructor
  · intro ⟨parts, joined, words⟩
    have pieces : cs.splitOn '.' = parts := by
      rw [joined]
      refine List.splitOn_intercalate '.' ?_ ?_
      · intro word member dotted
        exact (plain_of_pathWords words word member '.' dotted).1 rfl
      · intro none
        simp [none, PathWords] at words
    rwa [pieces]
  · intro words
    exact ⟨cs.splitOn '.', (List.intercalate_splitOn '.').symm, words⟩

theorem splitOn_mended (cs : List Char) :
    (mended cs).splitOn '.' = (cs.splitOn '.').map unbroken := by
  refine List.splitOn_intercalate '.' ?_ ?_
  · intro piece member dotted
    obtain ⟨whole, inside, rfl⟩ := List.mem_map.mp member
    exact not_mem_of_mem_splitOn '.' cs whole inside (mem_of_mem_unbroken dotted)
  · simp

theorem mended_of_isPath (isPath : IsPath cs) : mended cs = cs := by
  have words := (isPath_iff cs).mp isPath
  have whole : (cs.splitOn '.').map unbroken = cs.splitOn '.' := by
    refine (List.map_congr_left fun piece member => ?_).trans (List.map_id _)
    exact unbroken_eq_self fun c inside => (plain_of_pathWords words piece member c inside).2
  rw [mended, whole, List.intercalate_splitOn]

theorem isPath_of_isWord (word : IsWord cs) : IsPath cs :=
  ⟨[cs], by simp, word⟩

theorem mended_append (xs ys : List Char) :
    mended (xs ++ '.' :: ys) = mended xs ++ '.' :: mended ys := by
  have later : (ys.splitOn '.').map unbroken ≠ [] := by simp
  have joined : ∀ pieces : List (List Char), pieces ≠ [] →
      ['.'].intercalate (pieces ++ (ys.splitOn '.').map unbroken) =
        ['.'].intercalate pieces ++ '.' :: mended ys := by
    intro pieces
    induction pieces with
    | nil => simp
    | cons first rest ih =>
        intro _
        cases rest with
        | nil => simp [List.intercalate_cons_of_ne_nil later, mended]
        | cons second others =>
            simp only [List.cons_append] at ih ⊢
            rw [List.intercalate_cons_cons, ih (by simp), List.intercalate_cons_cons]
            simp
  rw [mended, List.splitOn_append_cons_self, List.map_append, joined _ (by simp)]
  rfl

theorem mended_append_eq_self_iff :
    mended (xs ++ '.' :: ys) = xs ++ '.' :: ys ↔ mended xs = xs ∧ mended ys = ys := by
  constructor
  · intro whole
    have pieces := congrArg (List.splitOn '.') whole
    simp only [splitOn_mended, List.splitOn_append_cons_self, List.map_append] at pieces
    obtain ⟨front, back⟩ := List.append_inj pieces (by simp)
    simp only [mended, front, back, List.intercalate_splitOn, and_self]
  · intro ⟨front, back⟩
    rw [mended_append, front, back]

theorem count_mended (cs : List Char) : (mended cs).count '.' = cs.count '.' := by
  have counted : ∀ cs : List Char, cs.count '.' = (cs.splitOn '.').length - 1 := by
    intro cs
    induction cs with
    | nil => simp
    | cons c rest ih =>
        have some := List.length_pos_of_ne_nil (List.splitOn_ne_nil '.' rest)
        rw [List.splitOn_cons_eq_if_modifyHead, List.count_cons]
        split
        · simp; omega
        · simpa using ih
  rw [counted, counted, splitOn_mended, List.length_map]

theorem mended_eq_unbroken (undotted : '.' ∉ cs) : mended cs = unbroken cs := by
  simp [mended, List.splitOn_eq_singleton undotted]

/-- A word is free of separators, before and after it is mended. -/
theorem isWord_mended_iff (cs : List Char) : IsWord (mended cs) ↔ IsWord (unbroken cs) := by
  by_cases dotted : '.' ∈ cs
  · have notWord : ∀ xs : List Char, 0 < xs.count '.' → ¬ IsWord xs := by
      intro xs counted word
      have fine := isWord_chars word '.' (List.count_pos_iff.mp counted)
      revert fine
      decide
    have counted := List.count_pos_iff.mpr dotted
    have inMended := notWord (mended cs) (by rwa [count_mended])
    have inUnbroken := notWord (unbroken cs) (by rwa [count_unbroken (by decide)])
    exact iff_of_false inMended inUnbroken
  · rw [mended_eq_unbroken dotted]

variable {strict loose allowed : Prop} {name schema table : String}

theorem ne_of_refused {fault : IdentifierFault} (refused : found = .error (.identifier fault)) :
    found ≠ .ok (backQuoted text) := by
  simp [refused]

/-- A decision for one grammar is the decision for another only where the two agree. -/
theorem Decides.congr_iff (decides : Decides found loose text) :
    Decides found strict text ↔ (strict ↔ loose) := by
  constructor
  · intro strictly
    by_cases isLoose : loose <;> by_cases isStrict : strict
    · exact iff_of_true isStrict isLoose
    · obtain ⟨fault, refused⟩ := strictly.refuses isStrict
      exact absurd (decides.accepts isLoose) (ne_of_refused refused)
    · obtain ⟨fault, refused⟩ := decides.refuses isLoose
      exact absurd (strictly.accepts isStrict) (ne_of_refused refused)
    · exact iff_of_false isStrict isLoose
  · intro same
    rwa [propext same]

theorem judges_of_decides (decides : Decides found loose text)
    (settled : strict ↔ loose ∧ mended text.toList = text.toList) :
    Judges found text strict loose where
  decides := decides
  strictly_iff := by
    rw [decides.congr_iff, settled]
    tauto

theorem decides_ite {check : Bool} {fault : IdentifierFault} (agrees : check = true ↔ allowed) :
    Decides (if check = true then .ok (backQuoted text) else .error (.identifier fault))
      allowed text where
  accepts := fun isAllowed => if_pos (agrees.mpr isAllowed)
  refuses := fun isNot => ⟨fault, if_neg (mt agrees.mp isNot)⟩

theorem column_decides (name : String) :
    Decides (column (.text name)) (IsWord (mended name.toList)) name := by
  rw [isWord_mended_iff]
  exact decides_ite (isName_iff _)

theorem checkNames_decides (parts : List (List Char)) (text : String) :
    Decides (do checkNames (parts.map String.ofList); return backQuoted text)
      (∀ part ∈ parts, IsWord (unbroken part)) text := by
  induction parts with
  | nil => exact ⟨fun _ => rfl, fun some => by simp at some⟩
  | cons part rest ih =>
      by_cases named : IsWord (unbroken part)
      · simpa [checkNames, (isName_iff part).mpr named, named] using ih
      · have unnamed : isName part = false :=
          Bool.eq_false_iff.mpr (mt (isName_iff part).mp named)
        constructor
        · intro words
          exact absurd (words part (by simp)) named
        · intro _
          exact ⟨.namePart (String.ofList part), by simp [checkNames, unnamed, bind, Except.bind]⟩

theorem path_decides (text : String) :
    Decides (path text) (IsPath (mended text.toList)) text := by
  have empty : text = "" → text.toList.splitOn '.' = [[]] := fun isEmpty => by simp [isEmpty]
  rw [isPath_iff, splitOn_mended]
  unfold path Text.splitText
  rw [splitAt_eq_splitOn]
  match text.toList.splitOn '.', empty with
  | [], _ => exact ⟨fun words => words.elim, fun _ => ⟨_, rfl⟩⟩
  | [table], empty =>
      by_cases isEmpty : text = ""
      · have bare : table = [] := by simpa using empty isEmpty
        have wordless : ¬ IsWord (unbroken table) := by simp [bare, unbroken, IsWord, Spelled]
        exact ⟨fun word => absurd word wordless, fun _ => ⟨_, if_pos isEmpty⟩⟩
      · have names := checkNames_decides [table] text
        simpa [isEmpty, PathWords] using names
  | [dataset, table], _ =>
      have names := checkNames_decides [dataset, table] text
      simpa [PathWords] using names
  | [project, dataset, table], _ =>
      have names := checkNames_decides [dataset, table] text
      by_cases named : IsProjectWord (unbroken project)
      · simpa [PathWords, (isProject_iff project).mpr named, named] using names
      · have unnamed : isProject project = false :=
          Bool.eq_false_iff.mpr (mt (isProject_iff project).mp named)
        refine ⟨fun words => absurd words.1 named, fun _ => ⟨.project (String.ofList project), ?_⟩⟩
        simp [unnamed]
  | _ :: _ :: _ :: _ :: _, _ => exact ⟨fun words => words.elim, fun _ => ⟨_, rfl⟩⟩

theorem pathOf_decides (text : String) :
    Decides (pathOf (.text text)) (IsPath (mended text.toList)) text := by
  by_cases empty : text = ""
  · have pathless : ¬ IsPath (mended text.toList) := by
      simp [empty, isPath_iff, splitOn_mended, unbroken, PathWords, IsWord, Spelled]
    refine ⟨fun isPath => absurd isPath pathless, fun _ => ⟨.path (.text text), ?_⟩⟩
    simp [pathOf, Value.isGiven, empty]
  · have given : (Value.text text).isGiven = true := by simp [Value.isGiven, empty]
    rw [pathOf, if_pos given]
    exact path_decides text

theorem not_isPath_of_dot (cs : List Char) : ¬ IsPath ('.' :: cs) := by
  rw [isPath_iff, List.splitOn_cons_eq_if_modifyHead]
  simp only [BEq.rfl, if_true]
  match cs.splitOn '.' with
  | [] => simp [PathWords, IsWord, Spelled]
  | [table] => simp [PathWords, IsWord, Spelled]
  | [dataset, table] => simp [PathWords, IsProjectWord, Spelled]
  | _ :: _ :: _ :: _ => simp [PathWords]

theorem given_of_isTarget
    (isTarget : IsTarget (mended schema.toList) (mended table.toList)) :
    (Value.text schema).isGiven = true ∧ (Value.text table).isGiven = true := by
  have given : ∀ text : String, text ≠ "" → (Value.text text).isGiven = true := by
    intro text filled
    simp [Value.isGiven, filled]
  obtain ⟨-, word, isPath⟩ := isTarget
  refine ⟨given schema ?_, given table ?_⟩
  · intro empty
    exact not_isPath_of_dot _ (by simpa [empty, mended, unbroken] using isPath)
  · intro empty
    simp [empty, mended, unbroken, IsWord, Spelled] at word

theorem target_of_given (given : (Value.text schema).isGiven = true ∧
    (Value.text table).isGiven = true) :
    target (.text schema) (.text table) =
      if 1 < schema.toList.count '.' then .error (.identifier (.schema (.text schema)))
      else if isName table.toList then path (schema ++ "." ++ table)
      else .error (.identifier (.namePart table)) := by
  simp [target, given, countDots, bind, Except.bind]

theorem target_decides (schema table : String) :
    Decides (target (.text schema) (.text table))
      (IsTarget (mended schema.toList) (mended table.toList)) (schema ++ "." ++ table) := by
  have whole : (schema ++ "." ++ table).toList = schema.toList ++ '.' :: table.toList := by simp
  have located := path_decides (schema ++ "." ++ table)
  rw [whole, mended_append] at located
  by_cases given : (Value.text schema).isGiven = true ∧ (Value.text table).isGiven = true
  swap
  · refine ⟨fun isTarget => absurd (given_of_isTarget isTarget) given, fun _ => ⟨.noTarget, ?_⟩⟩
    rw [target, if_pos]
    simpa [Bool.not_eq_true, imp_iff_not_or] using given
  have named := isName_iff table.toList
  rw [← isWord_mended_iff] at named
  have counted := count_mended schema.toList
  by_cases dotted : 1 < schema.toList.count '.'
  · have untargeted : ¬ IsTarget (mended schema.toList) (mended table.toList) :=
      fun isTarget => absurd isTarget.1 (by omega)
    refine ⟨fun isTarget => absurd isTarget untargeted, fun _ => ⟨.schema (.text schema), ?_⟩⟩
    rw [target_of_given given, if_pos dotted]
  by_cases word : IsWord (mended table.toList)
  · have reaches : target (.text schema) (.text table) = path (schema ++ "." ++ table) := by
      rw [target_of_given given, if_neg dotted, if_pos (named.mpr word)]
    have same : IsTarget (mended schema.toList) (mended table.toList) ↔
        IsPath (mended schema.toList ++ '.' :: mended table.toList) := by
      simp [IsTarget, word, counted]
      omega
    rw [reaches, same]
    exact located
  · refine ⟨fun isTarget => absurd isTarget.2.1 word, fun _ => ⟨.namePart table, ?_⟩⟩
    rw [target_of_given given, if_neg dotted, if_neg (mt named.mp word)]

theorem iff_mended {grammar : List Char → Prop} (unbroken : grammar cs → mended cs = cs) :
    grammar cs ↔ grammar (mended cs) ∧ mended cs = cs := by
  constructor
  · intro allowed
    have whole := unbroken allowed
    exact ⟨by rwa [whole], whole⟩
  · intro ⟨allowed, whole⟩
    rwa [whole] at allowed

theorem isTarget_iff_mended (xs ys : List Char) :
    IsTarget xs ys ↔ IsTarget (mended xs) (mended ys) ∧
      mended (xs ++ '.' :: ys) = xs ++ '.' :: ys := by
  constructor
  · intro isTarget
    have whole := mended_of_isPath isTarget.2.2
    obtain ⟨front, back⟩ := mended_append_eq_self_iff.mp whole
    exact ⟨by rwa [front, back], whole⟩
  · intro ⟨isTarget, whole⟩
    obtain ⟨front, back⟩ := mended_append_eq_self_iff.mp whole
    rwa [front, back] at isTarget

/-- The three checks accept exactly the texts that are in the grammar once they are mended, so
each is exact but for the texts that mending brings into the grammar. -/
theorem identifiers_judged (name schema table : String) :
    Judges (column (.text name)) name (IsWord name.toList) (IsWord (mended name.toList)) ∧
    Judges (pathOf (.text name)) name (IsPath name.toList) (IsPath (mended name.toList)) ∧
    Judges (target (.text schema) (.text table)) (schema ++ "." ++ table)
      (IsTarget schema.toList table.toList)
      (IsTarget (mended schema.toList) (mended table.toList)) := by
  have whole : (schema ++ "." ++ table).toList = schema.toList ++ '.' :: table.toList := by simp
  refine ⟨judges_of_decides (column_decides name) (iff_mended fun word => ?_),
    judges_of_decides (pathOf_decides name) (iff_mended mended_of_isPath),
    judges_of_decides (target_decides schema table) ?_⟩
  · exact mended_of_isPath (isPath_of_isWord word)
  · rw [whole]
    exact isTarget_iff_mended _ _

/-- A break behind a column is let pass. -/
theorem broken_column_accepted :
    column (.text "a\n") = .ok (backQuoted "a\n") ∧
      ¬ Decides (column (.text "a\n")) (IsWord "a\n".toList) "a\n" := by
  have accepted : column (.text "a\n") = .ok (backQuoted "a\n") := by rfl
  have unworded : ¬ IsWord "a\n".toList := by
    intro word
    have fine := isWord_chars word '\n' (by decide)
    revert fine
    decide
  refine ⟨accepted, fun decides => ?_⟩
  obtain ⟨fault, refused⟩ := decides.refuses unworded
  exact ne_of_refused refused accepted

end CheckKeeper.Sql
