import Mathlib.Data.List.Basic
import CheckKeeper.Sql.Guard

namespace CheckKeeper.Sql

/-! What the guard looks at: the words of a query in lower case, and the first of them.

Neither depends on how blanks stand between the words, and on no more than single
characters: the form of a sigma at the end of a word is the one thing about case that
does, and no keyword has one.
-/

variable {own : Char → Bool} {c : Char} {cs xs ys word : List Char}

/-- A character in front of the first run. -/
def extend (c : Char) : List (List Char) → List (List Char)
  | [] => [[c]]
  | run :: later => (c :: run) :: later

/-- The maximal runs of characters with a property. -/
def runs (own : Char → Bool) : List Char → List (List Char)
  | [] => []
  | c :: rest =>
      if own c then if rest.head?.any own then extend c (runs own rest) else [c] :: runs own rest
      else runs own rest

theorem runs_other (other : own c = false) (cs : List Char) : runs own (c :: cs) = runs own cs := by
  simp only [runs, other, Bool.false_eq_true, if_false]

theorem runs_last (belongs : own c = true) (ends : cs.head?.any own = false) :
    runs own (c :: cs) = [c] :: runs own cs := by
  simp only [runs, belongs, ends, Bool.false_eq_true, if_true, if_false]

theorem runs_inside (belongs : own c = true) (goes_on : cs.head?.any own = true) :
    runs own (c :: cs) = extend c (runs own cs) := by
  simp only [runs, belongs, goes_on, if_true]

theorem head_of_any (goes_on : cs.head?.any own = true) :
    ∃ c later, cs = c :: later ∧ own c = true := by
  obtain ⟨c, head⟩ := Option.isSome_iff_exists.mp (Option.isSome_of_any goes_on)
  obtain ⟨later, rfl⟩ := List.head?_eq_some_iff.mp head
  exact ⟨c, later, rfl, goes_on⟩

theorem exists_run (belongs : own c = true) (cs : List Char) :
    ∃ run later, runs own (c :: cs) = (c :: run) :: later := by
  cases goes_on : cs.head?.any own with
  | false => exact ⟨_, _, runs_last belongs goes_on⟩
  | true =>
      rw [runs_inside belongs goes_on]
      cases runs own cs with
      | nil => exact ⟨_, _, rfl⟩
      | cons run later => exact ⟨_, _, rfl⟩

theorem ends_before (other : own c = false) (cs : List Char) : (c :: cs).head?.any own = false := by
  rw [List.head?_cons, Option.any_some, other]

theorem goes_on_before (belongs : own c = true) (cs : List Char) :
    (c :: cs).head?.any own = true := by
  rw [List.head?_cons, Option.any_some, belongs]

theorem wordRuns_eq_runs (cs : List Char) : wordRuns cs = runs Text.isWordChar cs := by
  induction cs with
  | nil => rfl
  | cons c later ih =>
      cases belongs : Text.isWordChar c with
      | false =>
          rw [runs_other belongs, ← ih, wordRuns.eq_def]
          simp only [belongs, Bool.not_false, if_true]
      | true =>
          cases later with
          | nil =>
              rw [runs_last belongs rfl, wordRuns.eq_def]
              simp only [belongs, Bool.not_true, Bool.false_eq_true, if_false]
              rfl
          | cons next later =>
              cases goes_on : Text.isWordChar next with
              | false =>
                  rw [runs_last belongs (ends_before goes_on later), ← ih, wordRuns.eq_def]
                  simp only [belongs, goes_on, Bool.not_true, Bool.not_false, Bool.false_eq_true,
                    if_false, if_true]
              | true =>
                  rw [runs_inside belongs (goes_on_before goes_on later), ← ih, wordRuns.eq_def]
                  simp only [belongs, goes_on, Bool.not_true, Bool.false_eq_true, if_false]
                  cases wordRuns (next :: later) <;> rfl

/-- Characters that are not blank. -/
def inked (c : Char) : Bool :=
  !Text.isBlank c

theorem inked_of_not_blank (other : Text.isBlank c = false) : inked c = true := by
  rw [inked, other, Bool.not_false]

theorem not_inked_of_isBlank (blank : Text.isBlank c = true) : inked c = false := by
  rw [inked, blank, Bool.not_true]

theorem words_eq_runs (cs : List Char) : Text.words cs = runs inked cs := by
  induction cs with
  | nil => rfl
  | cons c later ih =>
      cases blank : Text.isBlank c with
      | true =>
          rw [runs_other (not_inked_of_isBlank blank), ← ih, Text.words.eq_def]
          simp only [blank, if_true]
      | false =>
          cases later with
          | nil =>
              rw [runs_last (inked_of_not_blank blank) rfl, Text.words.eq_def]
              simp only [blank, Bool.false_eq_true, if_false]
              rfl
          | cons next later =>
              cases blank' : Text.isBlank next with
              | true =>
                  rw [runs_last (inked_of_not_blank blank)
                    (ends_before (not_inked_of_isBlank blank') later), ← ih, Text.words.eq_def]
                  simp only [blank, blank', Bool.false_eq_true, if_false, if_true]
              | false =>
                  rw [runs_inside (inked_of_not_blank blank)
                    (goes_on_before (inked_of_not_blank blank') later), ← ih, Text.words.eq_def]
                  simp only [blank, blank', Bool.false_eq_true, if_false]
                  cases Text.words (next :: later) <;> rfl

/-- The runs behind a character matter to it only by the first of their characters. -/
theorem runs_cons_congr (c : Char) (first : xs.head? = ys.head?)
    (same : runs own xs = runs own ys) : runs own (c :: xs) = runs own (c :: ys) := by
  rw [runs, runs, first, same]

/-- A character that belongs to no run keeps the runs before it and behind it apart. -/
theorem runs_append_other (other : own c = false) (xs ys : List Char) :
    runs own (xs ++ c :: ys) = runs own xs ++ runs own ys := by
  induction xs with
  | nil => exact runs_other other ys
  | cons x later ih =>
      rw [List.cons_append]
      cases belongs : own x with
      | false => rw [runs_other belongs, runs_other belongs, ih]
      | true =>
          cases goes_on : later.head?.any own with
          | false =>
              have ends : (later ++ c :: ys).head?.any own = false := by
                cases later with
                | nil => exact ends_before other ys
                | cons => exact goes_on
              rw [runs_last belongs goes_on, runs_last belongs ends, ih, List.cons_append]
          | true =>
              obtain ⟨next, behind, rfl, belongs'⟩ := head_of_any goes_on
              obtain ⟨run, more, found⟩ := exists_run belongs' behind
              have goes_on' := goes_on_before belongs' (behind ++ c :: ys)
              rw [List.cons_append] at ih ⊢
              rw [runs_inside belongs goes_on, runs_inside belongs goes_on', ih, found]
              rfl

theorem runs_of_other (other : ∀ c ∈ cs, own c = false) : runs own cs = [] := by
  induction cs with
  | nil => rfl
  | cons c later ih =>
      rw [runs_other (other c List.mem_cons_self)]
      exact ih fun c member => other c (List.mem_cons_of_mem _ member)

theorem runs_map {f : Char → Char} (keeps : ∀ c, own (f c) = own c) (cs : List Char) :
    runs own (cs.map f) = (runs own cs).map (List.map f) := by
  induction cs with
  | nil => rfl
  | cons c later ih =>
      have first : (later.map f).head?.any own = later.head?.any own := by
        cases later with
        | nil => rfl
        | cons next behind => exact keeps next
      rw [List.map_cons, runs, runs, keeps, first, ih]
      split
      · split
        · cases runs own later <;> rfl
        · rfl
      · rfl

/-- The words of a text with one blank between each two. -/
def spaced (cs : List Char) : List Char :=
  [' '].intercalate (Text.words cs)

theorem isBlank_cases (blank : Text.isBlank c = true) : ∃ n ∈ Text.blanks, c = Char.ofNat n :=
  ⟨c.toNat, by simpa [Text.isBlank] using blank, (Char.ofNat_toNat c).symm⟩

theorem dull_of_isBlank (blank : Text.isBlank c = true) : Text.isWordChar c = false := by
  have table : ∀ n ∈ Text.blanks, Text.isWordChar (Char.ofNat n) = false := by decide +kernel
  obtain ⟨n, member, rfl⟩ := isBlank_cases blank
  exact table n member

theorem spaced_blank (blank : Text.isBlank c = true) (cs : List Char) :
    spaced (c :: cs) = spaced cs := by
  rw [spaced, spaced, words_eq_runs, words_eq_runs, runs_other (not_inked_of_isBlank blank)]

theorem spaced_head (other : Text.isBlank c = false) (cs : List Char) :
    (spaced (c :: cs)).head? = some c := by
  obtain ⟨word, later, found⟩ := exists_run (inked_of_not_blank other) cs
  rw [spaced, words_eq_runs, found]
  cases later with
  | nil => rfl
  | cons => rfl

theorem spaced_cases (other : Text.isBlank c = false) (cs : List Char) :
    (∃ next later, cs = next :: later ∧ Text.isBlank next = false ∧
        spaced (c :: cs) = c :: spaced cs) ∨
      cs.head?.all Text.isBlank = true ∧
        (spaced cs = [] ∧ spaced (c :: cs) = [c] ∨ spaced (c :: cs) = c :: ' ' :: spaced cs) := by
  have belongs := inked_of_not_blank other
  cases goes_on : cs.head?.any inked with
  | false =>
      have ends : cs.head?.all Text.isBlank = true := by
        cases cs with
        | nil => rfl
        | cons next later =>
            rw [List.head?_cons, Option.any_some, inked, Bool.not_eq_false'] at goes_on
            exact goes_on
      refine Or.inr ⟨ends, ?_⟩
      unfold spaced
      rw [words_eq_runs, words_eq_runs, runs_last belongs goes_on]
      cases runs inked cs with
      | nil => exact Or.inl ⟨rfl, rfl⟩
      | cons word later =>
          rw [List.intercalate_cons_cons]
          exact Or.inr rfl
  | true =>
      obtain ⟨next, later, rfl, inked'⟩ := head_of_any goes_on
      obtain ⟨word, behind, found⟩ := exists_run inked' later
      refine Or.inl ⟨next, later, rfl, by rwa [inked, Bool.not_eq_true'] at inked', ?_⟩
      unfold spaced
      rw [words_eq_runs, words_eq_runs, runs_inside belongs goes_on, found]
      cases behind with
      | nil => rw [extend, List.intercalate_singleton, List.intercalate_singleton]
      | cons => rw [extend, List.intercalate_cons_cons, List.intercalate_cons_cons]; rfl

theorem not_word_of_ends (ends : cs.head?.all Text.isBlank = true) :
    cs.head?.any Text.isWordChar = false := by
  cases cs with
  | nil => rfl
  | cons next later =>
      rw [List.head?_cons, Option.all_some] at ends
      exact ends_before (dull_of_isBlank ends) later

theorem runs_apart (ends : cs.head?.any own = false) (c : Char) :
    runs own (c :: cs) = runs own [c] ++ runs own cs := by
  cases belongs : own c with
  | false =>
      rw [runs_other belongs, runs_other belongs]
      rfl
  | true =>
      rw [runs_last belongs ends, runs_last belongs rfl]
      rfl

theorem runs_spaced (cs : List Char) :
    runs Text.isWordChar (spaced cs) = runs Text.isWordChar cs := by
  induction cs with
  | nil => rfl
  | cons c later ih =>
      cases blank : Text.isBlank c with
      | true => rw [spaced_blank blank, runs_other (dull_of_isBlank blank), ih]
      | false =>
          rcases spaced_cases blank later with ⟨next, behind, rfl, inked, same⟩ |
            ⟨ends, ⟨none_left, same⟩ | same⟩
          · rw [same]
            exact runs_cons_congr c (spaced_head inked behind) ih
          · rw [none_left] at ih
            rw [same, runs_apart (not_word_of_ends ends), ← ih]
            exact (List.append_nil _).symm
          · rw [same, runs_apart (not_word_of_ends ends), ← ih]
            exact runs_append_other (dull_of_isBlank (by decide)) [c] (spaced later)

/-- The word characters at the beginning, blanks aside. -/
def leadingWord (cs : List Char) : List Char :=
  (cs.dropWhile Text.isBlank).takeWhile Text.isWordChar

theorem takeWhile_of_ends (ends : cs.head?.any Text.isWordChar = false) :
    cs.takeWhile Text.isWordChar = [] := by
  cases cs with
  | nil => rfl
  | cons next later =>
      rw [List.head?_cons, Option.any_some] at ends
      rw [List.takeWhile_cons, if_neg (by rw [ends]; exact Bool.false_ne_true)]

theorem takeWhile_apart (ends : cs.head?.any Text.isWordChar = false) (c : Char) :
    (c :: cs).takeWhile Text.isWordChar = [c].takeWhile Text.isWordChar := by
  rw [List.takeWhile_cons, List.takeWhile_cons, takeWhile_of_ends ends]
  rfl

theorem takeWhile_spaced (cs : List Char) :
    (spaced cs).takeWhile Text.isWordChar = leadingWord cs := by
  unfold leadingWord
  induction cs with
  | nil => rfl
  | cons c later ih =>
      cases own : Text.isBlank c with
      | true => rw [spaced_blank own, List.dropWhile_cons_of_pos own, ih]
      | false =>
          rw [List.dropWhile_cons_of_neg (by rw [own]; exact Bool.false_ne_true)]
          rcases spaced_cases own later with ⟨next, behind, rfl, own', same⟩ |
            ⟨ends, ⟨_, same⟩ | same⟩
          · rw [List.dropWhile_cons_of_neg (by rw [own']; exact Bool.false_ne_true)] at ih
            rw [same, List.takeWhile_cons, List.takeWhile_cons, ih]
          · rw [same, takeWhile_apart (not_word_of_ends ends)]
          · have blank : Text.isWordChar ' ' = false := dull_of_isBlank (by decide)
            rw [same, takeWhile_apart (ends_before blank _), takeWhile_apart (not_word_of_ends ends)]

/-- What stands behind a text adds nothing to its leading word when it neither goes on with
a word nor has a leading word. -/
theorem leadingWord_append (ends : ys.head?.any Text.isWordChar = false)
    (none_leads : leadingWord ys = []) (xs : List Char) :
    leadingWord (xs ++ ys) = leadingWord xs := by
  induction xs with
  | nil => exact none_leads
  | cons c later ih =>
      unfold leadingWord at ih ⊢
      rw [List.cons_append]
      cases own : Text.isBlank c with
      | true => rw [List.dropWhile_cons_of_pos own, List.dropWhile_cons_of_pos own, ih]
      | false =>
          have kept : ¬ Text.isBlank c = true := by
            rw [own]
            exact Bool.false_ne_true
          rw [List.dropWhile_cons_of_neg kept, List.dropWhile_cons_of_neg kept, ← List.cons_append,
            List.takeWhile_append]
          split
          · rename_i whole
            rw [takeWhile_of_ends ends, List.append_nil]
            exact (List.IsPrefix.eq_of_length (List.takeWhile_prefix _) whole).symm
          · rfl

/-- The sigma at the end of a word as it is elsewhere. -/
def unsigma (c : Char) : Char :=
  if c = Text.finalSigma then Text.smallSigma else c

def lowerForm (c : Char) : List Char :=
  if c = Text.capitalSigma then [Text.smallSigma] else (Text.lowerForms c).map unsigma

/-- A text in lower case, character by character. -/
def lowered (cs : List Char) : List Char :=
  cs.flatMap lowerForm

theorem lowered_cons (c : Char) (cs : List Char) : lowered (c :: cs) = lowerForm c ++ lowered cs :=
  rfl

theorem map_unsigma_lowerAfter (before cs : List Char) :
    (Text.lowerAfter before cs).map unsigma = lowered cs := by
  induction cs generalizing before with
  | nil => rfl
  | cons c later ih =>
      have unsigma_either (word_ends : Bool) :
          unsigma (if word_ends then Text.finalSigma else Text.smallSigma) = Text.smallSigma := by
        cases word_ends <;> rfl
      rw [Text.lowerAfter, List.map_append, ih, lowered_cons, lowerForm]
      split
      · rw [List.map_singleton, unsigma_either]
      · rfl

theorem map_unsigma_lower (cs : List Char) : (Text.lower cs).map unsigma = lowered cs :=
  map_unsigma_lowerAfter [] cs

theorem isWordChar_unsigma (c : Char) : Text.isWordChar (unsigma c) = Text.isWordChar c := by
  unfold unsigma
  split
  · rename_i same
    subst same
    decide +kernel
  · rfl

theorem isBlank_unsigma (c : Char) : Text.isBlank (unsigma c) = Text.isBlank c := by
  unfold unsigma
  split
  · rename_i same
    subst same
    decide +kernel
  · rfl

theorem leadingWord_map_unsigma (cs : List Char) :
    leadingWord (cs.map unsigma) = (leadingWord cs).map unsigma := by
  have blanks : Text.isBlank ∘ unsigma = Text.isBlank := funext isBlank_unsigma
  have own : Text.isWordChar ∘ unsigma = Text.isWordChar := funext isWordChar_unsigma
  unfold leadingWord
  rw [List.dropWhile_map, List.takeWhile_map, blanks, own]

/-- A word without a sigma is the same word whichever form a sigma takes. -/
theorem map_unsigma_eq_iff (no_small : Text.smallSigma ∉ word) (no_final : Text.finalSigma ∉ word) :
    xs.map unsigma = word ↔ xs = word := by
  have unsigma_other {c : Char} (other : c ≠ Text.finalSigma) : unsigma c = c := if_neg other
  constructor
  · rintro rfl
    have unchanged : xs.map unsigma = xs.map id := by
      refine List.map_congr_left fun c member => unsigma_other ?_
      rintro rfl
      exact no_small (List.mem_map_of_mem member)
    rw [unchanged, List.map_id]
  · rintro rfl
    have unchanged : xs.map unsigma = xs.map id :=
      List.map_congr_left fun c member => unsigma_other fun same => no_final (same ▸ member)
    rw [unchanged, List.map_id]

/-- Characters between words: quotes, semicolons and blanks, which have no case. -/
def Between (c : Char) : Prop :=
  Text.isWordChar c = false ∧ lowerForm c = [c]

theorem Between.of_isBlank (blank : Text.isBlank c = true) : Between c := by
  have table : ∀ n ∈ Text.blanks, lowerForm (Char.ofNat n) = [Char.ofNat n] := by decide +kernel
  refine ⟨dull_of_isBlank blank, ?_⟩
  obtain ⟨n, member, rfl⟩ := isBlank_cases blank
  exact table n member

theorem Between.semicolon : Between ';' :=
  ⟨by decide +kernel, by decide +kernel⟩

theorem lowered_append (xs ys : List Char) : lowered (xs ++ ys) = lowered xs ++ lowered ys :=
  List.flatMap_append

theorem Between.lowered_cons (between : Between c) (cs : List Char) :
    lowered (c :: cs) = c :: lowered cs := by
  rw [Sql.lowered_cons, between.2]
  rfl

theorem lowered_of_between (between : ∀ c ∈ cs, Between c) : lowered cs = cs := by
  induction cs with
  | nil => rfl
  | cons c later ih =>
      rw [(between c List.mem_cons_self).lowered_cons,
        ih fun c member => between c (List.mem_cons_of_mem _ member)]

end CheckKeeper.Sql
