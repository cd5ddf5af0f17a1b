import CheckKeeper.Proofs.Trimming
import CheckKeeper.Proofs.Wording

namespace CheckKeeper.Sql

/-! What is embedded, judged again.

The guard judges the text with quoted tokens emptied, and the text with quoted tokens kept
is embedded.  Read anew, the embedded text has the same words but for those that new
literals swallow, unless the cut made a comment of characters that stood apart.
-/

variable {c quote : Char} {cs xs ys : List Char} {p : Char → Bool} {word sql body : String}

theorem startsWithWord_iff (own : ∀ c ∈ word.toList, Text.isWordChar c = true) :
    startsWithWord word cs = true ↔ cs.takeWhile Text.isWordChar = word.toList := by
  have dropped : cs.drop word.length = cs.drop word.toList.length := by rw [String.length_toList]
  unfold startsWithWord
  rw [Bool.and_eq_true, Bool.not_eq_true', List.isPrefixOf_iff_prefix, dropped]
  constructor
  · rintro ⟨⟨later, rfl⟩, ends⟩
    rw [List.drop_left] at ends
    rw [List.takeWhile_append_of_pos own, takeWhile_of_ends ends, List.append_nil]
  · intro leads
    have cut : word.toList ++ cs.dropWhile Text.isWordChar = cs := by
      rw [← leads, List.takeWhile_append_dropWhile]
    refine ⟨⟨_, cut⟩, ?_⟩
    rw [← cut, List.drop_left]
    have first := List.head?_dropWhile_not Text.isWordChar cs
    cases behind : (cs.dropWhile Text.isWordChar).head? with
    | none => rfl
    | some c =>
        rw [behind] at first
        exact first

/-- Words that a query must start with, and words that it must not have. -/
def watchedWords : List String :=
  "select" :: "with" :: forbiddenKeywords

theorem no_sigma_watched (watched : word ∈ watchedWords) :
    Text.smallSigma ∉ word.toList ∧ Text.finalSigma ∉ word.toList := by
  revert word
  decide +kernel

theorem own_watched (watched : word ∈ watchedWords) :
    ∀ c ∈ word.toList, Text.isWordChar c = true := by
  have table : watchedWords.all (·.toList.all Text.isWordChar) = true := by decide +kernel
  exact List.all_eq_true.mp (List.all_eq_true.mp table word watched)

theorem startsWithWord_normalWords (watched : word ∈ watchedWords) (cs : List Char) :
    startsWithWord word (normalWords cs) = true ↔ leadingWord (lowered cs) = word.toList := by
  obtain ⟨no_small, no_final⟩ := no_sigma_watched watched
  rw [startsWithWord_iff (own_watched watched), ← map_unsigma_lower, leadingWord_map_unsigma,
    map_unsigma_eq_iff no_small no_final, ← takeWhile_spaced]
  rfl

theorem mem_wordRuns_normalWords (watched : word ∈ watchedWords) (cs : List Char) :
    word.toList ∈ wordRuns (normalWords cs) ↔ word.toList ∈ runs Text.isWordChar (lowered cs) := by
  obtain ⟨no_small, no_final⟩ := no_sigma_watched watched
  have same_runs : wordRuns (normalWords cs) = runs Text.isWordChar (Text.lower cs) :=
    (wordRuns_eq_runs _).trans (runs_spaced _)
  rw [same_runs, ← map_unsigma_lower, runs_map isWordChar_unsigma, List.mem_map]
  constructor
  · intro member
    exact ⟨_, member, (map_unsigma_eq_iff no_small no_final).mpr rfl⟩
  · rintro ⟨run, member, same⟩
    rwa [← (map_unsigma_eq_iff no_small no_final).mp same]

/-- A text that starts as a query does and has no forbidden keyword. -/
structure Harmless (cs : List Char) : Prop where
  leads : leadingWord (lowered cs) = "select".toList ∨ leadingWord (lowered cs) = "with".toList
  reads : ∀ keyword ∈ forbiddenKeywords, keyword.toList ∉ runs Text.isWordChar (lowered cs)

theorem firstForbidden?_eq_none_iff (cs : List Char) :
    firstForbidden? (normalWords cs) = none ↔
      ∀ keyword ∈ forbiddenKeywords, keyword.toList ∉ runs Text.isWordChar (lowered cs) := by
  have watched {keyword : String} (forbidden : keyword ∈ forbiddenKeywords) :
      keyword ∈ watchedWords := List.mem_cons_of_mem _ (List.mem_cons_of_mem _ forbidden)
  rw [firstForbidden?, List.find?_eq_none]
  constructor
  · intro none_found keyword forbidden member
    rw [← mem_wordRuns_normalWords (watched forbidden)] at member
    refine none_found keyword ?_ (List.contains_iff_mem.mpr forbidden)
    exact List.mem_map.mpr ⟨_, member, String.ofList_toList⟩
  · intro reads word member found
    have forbidden := List.contains_iff_mem.mp found
    obtain ⟨run, inside, rfl⟩ := List.mem_map.mp member
    refine reads _ forbidden ((mem_wordRuns_normalWords (watched forbidden) cs).mp ?_)
    rwa [String.toList_ofList]

/-- The guard lets pass what is harmless and a single statement. -/
theorem checkReadOnly_iff (cs : List Char) :
    checkReadOnly cs = .ok () ↔
      Harmless (Text.strip (emptyQuoted cs)) ∧
        ';' ∉ dropSemicolons (Text.strip (emptyQuoted cs)) := by
  have select_leads := startsWithWord_normalWords (by decide : "select" ∈ watchedWords)
    (Text.strip (emptyQuoted cs))
  have with_leads := startsWithWord_normalWords (by decide : "with" ∈ watchedWords)
    (Text.strip (emptyQuoted cs))
  have reads := firstForbidden?_eq_none_iff (Text.strip (emptyQuoted cs))
  unfold checkReadOnly
  generalize Text.strip (emptyQuoted cs) = body at *
  dsimp only
  constructor
  · intro passed
    split at passed
    · cases passed
    split at passed
    · cases passed
    rename_i starts
    split at passed
    · cases passed
    rename_i none_found
    split at passed
    · cases passed
    rename_i single
    refine ⟨⟨?_, reads.mp none_found⟩, by simpa using single⟩
    rw [← Bool.not_or, Bool.not_eq_true, Bool.not_eq_false', Bool.or_eq_true] at starts
    rwa [← select_leads, ← with_leads]
  · rintro ⟨harmless, single⟩
    have starts := harmless.leads
    rw [← select_leads, ← with_leads] at starts
    have some_words : (normalWords body).isEmpty = false := by
      cases words : normalWords body with
      | cons => rfl
      | nil =>
          rw [words] at starts
          rcases starts with starts | starts <;> exact absurd starts (by decide)
    have none_found := reads.mpr harmless.reads
    have no_semicolon : (dropSemicolons body).contains ';' = false := by simpa using single
    rw [some_words, none_found, no_semicolon]
    rcases starts with starts | starts <;> simp [starts]

theorem leadingWord_of_between (between : ∀ c ∈ cs, Between c) : leadingWord cs = [] := by
  refine takeWhile_of_ends ?_
  cases behind : cs.dropWhile Text.isBlank with
  | nil => rfl
  | cons c later =>
      have member : c ∈ cs := (List.dropWhile_suffix _).subset (behind ▸ List.mem_cons_self)
      exact ends_before (between c member).1 later

theorem runs_append_of_between (between : ∀ c ∈ ys, Between c) (xs : List Char) :
    runs Text.isWordChar (xs ++ ys) = runs Text.isWordChar xs := by
  cases ys with
  | nil => rw [List.append_nil]
  | cons c later =>
      have later_dull : ∀ c ∈ later, Text.isWordChar c = false := fun c member =>
        (between c (List.mem_cons_of_mem _ member)).1
      rw [runs_append_other (between c List.mem_cons_self).1, runs_of_other later_dull,
        List.append_nil]

theorem harmless_congr (leads : leadingWord (lowered xs) = leadingWord (lowered ys))
    (same_runs : runs Text.isWordChar (lowered xs) = runs Text.isWordChar (lowered ys)) :
    Harmless xs ↔ Harmless ys := by
  constructor
  · rintro ⟨starts, reads⟩
    exact ⟨by rwa [← leads], by rwa [← same_runs]⟩
  · rintro ⟨starts, reads⟩
    exact ⟨by rwa [leads], by rwa [same_runs]⟩

theorem harmless_append (between : ∀ c ∈ ys, Between c) :
    Harmless (xs ++ ys) ↔ Harmless xs := by
  have ends : ys.head?.any Text.isWordChar = false := by
    cases ys with
    | nil => rfl
    | cons c later => exact ends_before (between c List.mem_cons_self).1 later
  have leads : leadingWord (lowered (xs ++ ys)) = leadingWord (lowered xs) := by
    rw [lowered_append, lowered_of_between between,
      leadingWord_append ends (leadingWord_of_between between)]
  have same_runs :
      runs Text.isWordChar (lowered (xs ++ ys)) = runs Text.isWordChar (lowered xs) := by
    rw [lowered_append, lowered_of_between between, runs_append_of_between between]
  exact harmless_congr leads same_runs

theorem harmless_dropEndWhile (between : ∀ c, p c = true → Between c) (cs : List Char) :
    Harmless (Text.dropEndWhile p cs) ↔ Harmless cs := by
  have dropped : ∀ c ∈ cs.rtakeWhile p, Between c := fun c member =>
    between c (List.mem_rtakeWhile_imp member)
  have whole : Text.dropEndWhile p cs ++ cs.rtakeWhile p = cs :=
    List.rdropWhile_append_rtakeWhile ..
  rw [← harmless_append dropped, whole]

theorem harmless_dropWhile (cs : List Char) :
    Harmless (cs.dropWhile Text.isBlank) ↔ Harmless cs := by
  induction cs with
  | nil => rfl
  | cons c later ih =>
      cases blank : Text.isBlank c with
      | false => rw [List.dropWhile_cons_of_neg (by simp [blank])]
      | true =>
          have same := (Between.of_isBlank blank).lowered_cons later
          have leads : leadingWord (lowered (c :: later)) = leadingWord (lowered later) := by
            rw [same, leadingWord, List.dropWhile_cons_of_pos blank, leadingWord]
          have same_runs : runs Text.isWordChar (lowered (c :: later)) =
              runs Text.isWordChar (lowered later) := by
            rw [same, runs_other (dull_of_isBlank blank)]
          rw [List.dropWhile_cons_of_pos blank, ih, harmless_congr leads same_runs]

theorem harmless_strip (cs : List Char) : Harmless (Text.strip cs) ↔ Harmless cs := by
  rw [Text.strip, harmless_dropEndWhile (fun _ => Between.of_isBlank), harmless_dropWhile]

theorem harmless_dropSemicolons (cs : List Char) : Harmless (dropSemicolons cs) ↔ Harmless cs := by
  refine harmless_dropEndWhile (fun c semicolon => ?_) cs
  rw [eq_of_beq semicolon]
  exact Between.semicolon

theorem Between.of_isQuote (mark : isQuote quote = true) : Between quote := by
  simp only [isQuote, Bool.or_eq_true, beq_iff_eq] at mark
  rcases mark with (rfl | rfl) | rfl <;> exact ⟨by decide +kernel, by decide +kernel⟩

theorem leadingWord_append_quote (mark : isQuote quote = true) (xs ys : List Char) :
    leadingWord (xs ++ quote :: ys) = leadingWord xs := by
  have ends := ends_before (Between.of_isQuote mark).1 ys
  refine leadingWord_append ends ?_ xs
  have stays : ¬ Text.isBlank quote = true := by simp [not_blank_of_isQuote mark]
  rw [leadingWord, List.dropWhile_cons_of_neg stays, takeWhile_of_ends ends]

theorem lowered_append_quote (mark : isQuote quote = true) (xs ys : List Char) :
    lowered (xs ++ quote :: ys) = lowered xs ++ quote :: lowered ys := by
  rw [lowered_append, (Between.of_isQuote mark).lowered_cons]

theorem Shrinks.subset (shrinks : Shrinks xs ys) : ys ⊆ xs := by
  induction shrinks with
  | refl => exact List.Subset.refl _
  | skip front inner mark later ih =>
      intro c member
      have inside := @ih c
      simp only [List.mem_append, List.mem_cons] at member ⊢
      tauto

theorem Shrinks.leadingWord (shrinks : Shrinks xs ys) :
    leadingWord (lowered ys) = leadingWord (lowered xs) := by
  cases shrinks with
  | refl => rfl
  | skip front inner mark later =>
      rw [lowered_append_quote mark, lowered_append_quote mark, leadingWord_append_quote mark,
        leadingWord_append_quote mark]

theorem Shrinks.runs (shrinks : Shrinks xs ys) :
    runs Text.isWordChar (lowered ys) ⊆ runs Text.isWordChar (lowered xs) := by
  induction shrinks with
  | refl => exact List.Subset.refl _
  | skip front inner mark later ih =>
      have dull := (Between.of_isQuote mark).1
      rw [lowered_append_quote mark, lowered_append_quote mark, lowered_append_quote mark,
        (Between.of_isQuote mark).lowered_cons, runs_append_other dull,
        runs_append_other dull, runs_append_other dull, runs_other dull]
      intro run member
      rcases List.mem_append.mp member with before | behind
      · exact List.mem_append_left _ before
      · exact List.mem_append_right _ (List.mem_append_right _ (ih behind))

theorem Harmless.shrinks (harmless : Harmless xs) (shrinks : Shrinks xs ys) : Harmless ys where
  leads := shrinks.leadingWord ▸ harmless.leads
  reads keyword forbidden member := harmless.reads keyword forbidden (shrinks.runs member)

end CheckKeeper.Sql
