import Mathlib.Data.List.Forall2
import CheckKeeper.Proofs.Verdict

namespace CheckKeeper.Sql

/-! Statements without the names in them.

A name stands between back quotes.  What is left of a text without its quoted segments is found
by reading it once; a text may be cut at any place where no segment is open.
-/

variable {text outline first second : String} {c : Char} {cs rest : List Char}

def nextQuoted (quoted : Bool) (c : Char) : Bool :=
  if c = '\x60' then !quoted else quoted

/-- Whether a segment is open behind a text. -/
def quotedAfter (quoted : Bool) (cs : List Char) : Bool :=
  cs.foldl nextQuoted quoted

/-- The characters that stand in no segment, and are no back quotes. -/
def outside : Bool → List Char → List Char
  | _, [] => []
  | quoted, c :: rest =>
      if quoted || c = '\x60' then outside (nextQuoted quoted c) rest
      else c :: outside (nextQuoted quoted c) rest

/-- All segments of the text are closed, and without them it is the outline. -/
structure Erases (text outline : String) : Prop where
  closed : quotedAfter false text.toList = false
  rest : outside false text.toList = outline.toList

def Plain (text : String) : Prop :=
  '\x60' ∉ text.toList

instance (text : String) : Decidable (Plain text) :=
  inferInstanceAs (Decidable (_ ∉ _))

theorem nextQuoted_of_ne (other : c ≠ '\x60') (quoted : Bool) : nextQuoted quoted c = quoted :=
  if_neg other

theorem outside_append (quoted : Bool) (cs rest : List Char) :
    outside quoted (cs ++ rest) = outside quoted cs ++ outside (quotedAfter quoted cs) rest := by
  induction cs generalizing quoted with
  | nil => rfl
  | cons c cs ih =>
      simp only [List.cons_append, outside, quotedAfter, List.foldl_cons] at ih ⊢
      rw [ih]
      split <;> rfl

theorem quotedAfter_append (quoted : Bool) (cs rest : List Char) :
    quotedAfter quoted (cs ++ rest) = quotedAfter (quotedAfter quoted cs) rest :=
  List.foldl_append

theorem quotedAfter_of_plain (plain : '\x60' ∉ cs) (quoted : Bool) :
    quotedAfter quoted cs = quoted := by
  induction cs with
  | nil => rfl
  | cons c cs ih =>
      rw [List.mem_cons, not_or] at plain
      obtain ⟨other, later⟩ := plain
      rw [quotedAfter, List.foldl_cons, nextQuoted_of_ne (Ne.symm other)]
      exact ih later

theorem outside_of_plain (plain : '\x60' ∉ cs) : outside false cs = cs := by
  induction cs with
  | nil => rfl
  | cons c cs ih =>
      rw [List.mem_cons, not_or] at plain
      obtain ⟨other, later⟩ := plain
      have open_text : (false || decide (c = '\x60')) = false := by simpa using Ne.symm other
      rw [outside, nextQuoted_of_ne (Ne.symm other), ih later, open_text]
      rfl

theorem outside_segment (plain : '\x60' ∉ cs) : outside true cs = [] := by
  induction cs with
  | nil => rfl
  | cons c cs ih =>
      rw [List.mem_cons, not_or] at plain
      obtain ⟨other, later⟩ := plain
      rw [outside, nextQuoted_of_ne (Ne.symm other), ih later]
      rfl

theorem Plain.append (left : Plain first) (right : Plain second) : Plain (first ++ second) := by
  rw [Plain, String.toList_append, List.mem_append, not_or]
  exact ⟨left, right⟩

theorem erases_of_plain (plain : Plain text) : Erases text text where
  closed := quotedAfter_of_plain plain false
  rest := outside_of_plain plain

theorem erases_backQuoted (plain : Plain text) : Erases (backQuoted text) "" where
  closed := by
    simp only [backQuoted, String.toList_append, quotedAfter_append]
    have inside : quotedAfter false "\x60".toList = true := rfl
    rw [inside, quotedAfter_of_plain plain]
    rfl
  rest := by
    simp only [backQuoted, String.toList_append, outside_append, quotedAfter_append]
    have inside : quotedAfter false "\x60".toList = true := rfl
    rw [inside, outside_segment plain, quotedAfter_of_plain plain]
    rfl

theorem Erases.append {firstLeft secondLeft : String} (left : Erases first firstLeft)
    (right : Erases second secondLeft) : Erases (first ++ second) (firstLeft ++ secondLeft) where
  closed := by
    rw [String.toList_append, quotedAfter_append, left.closed]
    exact right.closed
  rest := by
    rw [String.toList_append, outside_append, left.closed, left.rest, right.rest,
      String.toList_append]

theorem erases_join {separator : String} (plain : Plain separator) {parts outlines : List String}
    (each : List.Forall₂ Erases parts outlines) :
    Erases (Text.join separator parts) (Text.join separator outlines) := by
  unfold Text.join
  induction each with
  | nil =>
      rw [String.intercalate_nil]
      exact erases_of_plain (by decide)
  | cons head later ih =>
      cases later with
      | nil =>
          rw [String.intercalate_singleton, String.intercalate_singleton]
          exact head
      | cons next later =>
          rw [String.intercalate_cons_cons, String.intercalate_cons_cons]
          exact (head.append (erases_of_plain plain)).append ih

/-- A name between back quotes, without any inside. -/
def IsQuoted (text : String) : Prop :=
  ∃ name, text = backQuoted name ∧ Plain name

theorem IsQuoted.erases (quoted : IsQuoted text) : Erases text "" := by
  obtain ⟨name, rfl, plain⟩ := quoted
  exact erases_backQuoted plain

theorem erases_names {names : List String} (quoted : ∀ name ∈ names, IsQuoted name) :
    List.Forall₂ Erases names (List.replicate names.length "") := by
  induction names with
  | nil => exact .nil
  | cons name names ih =>
      obtain ⟨own, later⟩ := List.forall_mem_cons.mp quoted
      exact .cons own.erases (ih later)

/-- A character that stands in no accepted name. -/
structure Foreign (mark : Char) : Prop where
  noPart : isProjectChar mark = false
  noBreak : mark ≠ '\n'
  noDot : mark ≠ '.'

variable {mark : Char}

theorem foreign_backQuote : Foreign '\x60' :=
  ⟨by decide, by decide, by decide⟩

theorem not_mem_cons (other : c ≠ mark) (later : mark ∉ cs) : mark ∉ c :: cs := by
  rw [List.mem_cons, not_or]
  exact ⟨Ne.symm other, later⟩

theorem ne_of_accepts {part : Char → Bool} (excluded : part mark = false)
    (accepted : part c = true) : c ≠ mark := by
  intro same
  rw [same, excluded] at accepted
  cases accepted

theorem Foreign.not_nameChar (foreign : Foreign mark) : isNameChar mark = false :=
  (Bool.or_eq_false_iff.mp foreign.noPart).1

theorem Foreign.not_nameStart (foreign : Foreign mark) : isNameStart mark = false :=
  (Bool.or_eq_false_iff.mp foreign.not_nameChar).1

theorem Foreign.not_mem_run {part : Char → Bool} (foreign : Foreign mark)
    (excluded : part mark = false) (run : isRunOf part cs = true) : mark ∉ cs := by
  fun_induction isRunOf part cs with
  | case1 => exact List.not_mem_nil
  | case2 => exact not_mem_cons (Ne.symm foreign.noBreak) List.not_mem_nil
  | case3 c rest _ ih =>
      obtain ⟨accepted, later⟩ := (Bool.and_eq_true _ _).mp run
      exact not_mem_cons (ne_of_accepts excluded accepted) (ih later)

theorem Foreign.not_mem_name (foreign : Foreign mark) (name : isName cs = true) : mark ∉ cs := by
  cases cs with
  | nil => cases name
  | cons c cs =>
      obtain ⟨start, run⟩ := (Bool.and_eq_true _ _).mp name
      exact not_mem_cons (ne_of_accepts foreign.not_nameStart start)
        (foreign.not_mem_run foreign.not_nameChar run)

theorem Foreign.not_mem_project (foreign : Foreign mark) (project : isProject cs = true) :
    mark ∉ cs := by
  cases cs with
  | nil => cases project
  | cons c cs =>
      obtain ⟨start, run⟩ := (Bool.and_eq_true _ _).mp project
      have letter : isLetter mark = false := (Bool.or_eq_false_iff.mp foreign.not_nameStart).1
      exact not_mem_cons (ne_of_accepts letter start) (foreign.not_mem_run foreign.noPart run)

theorem Foreign.not_mem_checked {parts : List String} (foreign : Foreign mark)
    (checked : checkNames parts = .ok ()) : ∀ part ∈ parts, mark ∉ part.toList := by
  induction parts with
  | nil => simp
  | cons part parts ih =>
      unfold checkNames at checked
      split at checked
      · rename_i name
        exact List.forall_mem_cons.mpr ⟨foreign.not_mem_name name, ih checked⟩
      · cases checked

/-- A character of a text is the separator, or stands in one of the parts. -/
theorem mem_splitAt {separator : Char} (member : c ∈ cs) :
    c = separator ∨ ∃ part ∈ Text.splitAt separator cs, c ∈ part := by
  induction cs with
  | nil => cases member
  | cons head cs ih =>
      by_cases here : head = separator
      · subst here
        rcases List.mem_cons.mp member with same | later
        · exact Or.inl same
        · rcases ih later with same | ⟨part, inside, found⟩
          · exact Or.inl same
          · exact Or.inr ⟨part, by simp [Text.splitAt, inside], found⟩
      · cases parts : Text.splitAt separator cs with
        | nil => exact absurd parts (Text.splitAt_ne_nil separator cs)
        | cons part later =>
            have split : Text.splitAt separator (head :: cs) = (head :: part) :: later := by
              simp [Text.splitAt, here, parts]
            rw [split]
            rcases List.mem_cons.mp member with rfl | behind
            · exact Or.inr ⟨_, List.mem_cons_self, List.mem_cons_self⟩
            · rw [parts] at ih
              rcases ih behind with same | ⟨found, inside, there⟩
              · exact Or.inl same
              · right
                rcases List.mem_cons.mp inside with rfl | other
                · exact ⟨_, List.mem_cons_self, List.mem_cons_of_mem _ there⟩
                · exact ⟨found, List.mem_cons_of_mem _ other, there⟩

theorem Foreign.not_mem_split (foreign : Foreign mark)
    (each : ∀ part ∈ Text.splitText '.' text, mark ∉ part.toList) : mark ∉ text.toList := by
  intro member
  rcases mem_splitAt member with same | ⟨part, inside, found⟩
  · exact foreign.noDot same
  · have absent := each (String.ofList part) (List.mem_map_of_mem inside)
    rw [String.toList_ofList] at absent
    exact absent found

/-- What is accepted comes between back quotes, without foreign characters inside. -/
theorem Foreign.quoted_column {name : Value} (foreign : Foreign mark)
    (accepted : column name = .ok text) :
    ∃ content, text = backQuoted content ∧ mark ∉ content.toList := by
  unfold column at accepted
  split at accepted
  · rename_i content
    split at accepted
    · rename_i is_name
      cases accepted
      exact ⟨content, rfl, foreign.not_mem_name is_name⟩
    · cases accepted
  · cases accepted

theorem Foreign.quoted_path {location : String} (foreign : Foreign mark)
    (accepted : path location = .ok text) :
    ∃ content, text = backQuoted content ∧ mark ∉ content.toList := by
  unfold path at accepted
  split at accepted
  · rename_i project dataset table parts
    split at accepted
    · rename_i is_project
      obtain ⟨_, checked, made⟩ := Compile.bind_eq_ok accepted
      cases made
      refine ⟨location, rfl, foreign.not_mem_split ?_⟩
      rw [parts]
      exact List.forall_mem_cons.mpr
        ⟨foreign.not_mem_project is_project, foreign.not_mem_checked checked⟩
    · cases accepted
  · rename_i dataset table parts
    obtain ⟨_, checked, made⟩ := Compile.bind_eq_ok accepted
    cases made
    refine ⟨location, rfl, foreign.not_mem_split ?_⟩
    rw [parts]
    exact foreign.not_mem_checked checked
  · rename_i table parts
    split at accepted
    · cases accepted
    · obtain ⟨_, checked, made⟩ := Compile.bind_eq_ok accepted
      cases made
      refine ⟨location, rfl, foreign.not_mem_split ?_⟩
      rw [parts]
      exact foreign.not_mem_checked checked
  · cases accepted

theorem Foreign.quoted_pathOf {location : Value} (foreign : Foreign mark)
    (accepted : pathOf location = .ok text) :
    ∃ content, text = backQuoted content ∧ mark ∉ content.toList := by
  unfold pathOf at accepted
  split at accepted
  · split at accepted
    · exact foreign.quoted_path accepted
    · cases accepted
  · cases accepted

theorem Foreign.quoted_target {schema table : Value} (foreign : Foreign mark)
    (accepted : target schema table = .ok text) :
    ∃ content, text = backQuoted content ∧ mark ∉ content.toList := by
  unfold target at accepted
  split at accepted
  · cases accepted
  · obtain ⟨dots, _, rest⟩ := Compile.bind_eq_ok accepted
    split at rest
    · cases rest
    · split at rest
      · split at rest
        · obtain ⟨written, _, located⟩ := Compile.bind_eq_ok rest
          exact foreign.quoted_path located
        · cases rest
      · cases rest

theorem isQuoted_of_column {name : Value} (accepted : column name = .ok text) : IsQuoted text :=
  foreign_backQuote.quoted_column accepted

theorem isQuoted_of_pathOf {location : Value} (accepted : pathOf location = .ok text) :
    IsQuoted text :=
  foreign_backQuote.quoted_pathOf accepted

theorem isQuoted_of_target {schema table : Value} (accepted : target schema table = .ok text) :
    IsQuoted text :=
  foreign_backQuote.quoted_target accepted

end CheckKeeper.Sql
