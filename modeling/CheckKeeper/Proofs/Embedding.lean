import CheckKeeper.Proofs.Judgement

namespace CheckKeeper.Sql

/-! What is embedded, judged again.

Read anew, the embedded text has the words and the semicolons of the text that was judged,
but for those that new literals swallow.  Only a comment that comes about where another one
was cut out makes a difference.
-/

variable {c : Char} {cs : List Char} {items : List Token} {sql body : String}

theorem strip_subset (cs : List Char) : Text.strip cs ⊆ cs :=
  List.Subset.trans (List.rdropWhile_prefix _ _).subset (List.dropWhile_suffix _).subset

theorem strip_strip (cs : List Char) : Text.strip (Text.strip cs) = Text.strip cs := by
  have fronted : (cs.dropWhile Text.isBlank).dropWhile Text.isBlank = cs.dropWhile Text.isBlank :=
    List.dropWhile_idempotent _ _
  have front_stays : (Text.strip cs).dropWhile Text.isBlank = Text.strip cs := by
    rw [List.dropWhile_eq_self_iff] at fronted ⊢
    intro some_left
    have shorter : Text.strip cs <+: cs.dropWhile Text.isBlank := List.rdropWhile_prefix _ _
    rw [shorter.getElem some_left]
    exact fronted (some_left.trans_le shorter.length_le)
  rw [Text.strip, front_stays]
  exact List.rdropWhile_idempotent _ _

theorem dropSemicolons_subset (cs : List Char) : dropSemicolons cs ⊆ cs :=
  (List.rdropWhile_prefix _ _).subset

theorem kept_sublist (items : List Token) :
    List.Sublist (items.flatMap Token.kept) (items.flatMap Token.text) := by
  induction items with
  | nil => exact List.Sublist.refl _
  | cons token later ih =>
      rw [List.flatMap_cons, List.flatMap_cons]
      refine List.Sublist.append ?_ ih
      cases token with
      | quoted text => exact List.Sublist.refl _
      | comment text => exact List.nil_sublist _
      | plain c => exact List.Sublist.refl _

theorem stripComments_of_no_comment (no_comment : ∀ text, .comment text ∉ tokens cs) :
    stripComments cs = cs := by
  have same : ∀ token ∈ tokens cs, token.kept = token.text := by
    intro token member
    cases token with
    | quoted text => rfl
    | comment text => exact absurd member (no_comment text)
    | plain c => rfl
  rw [stripComments, List.flatMap_congr same, flatMap_text_tokens]

theorem length_stripComments_lt {text : List Char} (member : .comment text ∈ tokens cs) :
    (stripComments cs).length < cs.length := by
  have some_text : text ≠ [] := by
    cases formed_of_mem member with
    | comment some_text => exact some_text
  obtain ⟨front, behind, split⟩ := List.append_of_mem member
  have shorter := (kept_sublist front).length_le
  have shorter' := (kept_sublist behind).length_le
  have positive := List.length_pos_iff.mpr some_text
  have whole := congrArg List.length (flatMap_text_tokens cs)
  simp only [split, List.flatMap_append, List.flatMap_cons, List.length_append, Token.text] at whole
  simp only [stripComments, split, List.flatMap_append, List.flatMap_cons, List.length_append,
    Token.kept, List.length_nil]
  omega

theorem length_embeddedBody_le (cs : List Char) :
    (embeddedBody cs).length ≤ (stripComments cs).length := by
  have strip_le (cs : List Char) : (Text.strip cs).length ≤ cs.length :=
    (List.rdropWhile_prefix _ _).length_le.trans (List.dropWhile_suffix _).length_le
  have semicolons_le (cs : List Char) : (dropSemicolons cs).length ≤ cs.length :=
    (List.rdropWhile_prefix _ _).length_le
  exact (strip_le _).trans ((semicolons_le _).trans (strip_le _))

theorem harmless_embedded (accepted : checkReadOnly cs = .ok ()) :
    Harmless ((embedded cs).flatMap Token.emptied) ∧ ';' ∉ (embedded cs).flatMap Token.emptied := by
  obtain ⟨harmless, single⟩ := (checkReadOnly_iff cs).mp accepted
  rw [← renders_emptied.embedded, harmless_strip, harmless_dropSemicolons]
  exact ⟨harmless, fun member => single (strip_subset _ member)⟩

theorem dropSemicolons_embedded (single : ';' ∉ (embedded cs).flatMap Token.emptied) :
    dropSemicolons ((embedded cs).flatMap Token.kept) = (embedded cs).flatMap Token.kept := by
  rw [renders_kept.unended fun _ => formed_embedded]
  -- Behind the last token that stays there is no semicolon, so there are comments at most.
  have nothing_behind :
      ((embedded cs).rtakeWhile (Token.droppable (· == ';'))).flatMap Token.kept = [] := by
    refine List.flatMap_eq_nil_iff.mpr fun token member => ?_
    have goes := List.mem_rtakeWhile_imp member
    cases token with
    | quoted text => cases goes
    | comment text => rfl
    | plain c =>
        have inside := (List.rtakeWhile_suffix _ _).subset member
        have semicolon : c = ';' := eq_of_beq goes
        exact absurd (List.mem_flatMap.mpr ⟨_, inside, List.mem_singleton.mpr semicolon.symm⟩) single
  rw [← List.append_nil (List.flatMap _ _), ← nothing_behind, ← List.flatMap_append, unended,
    List.rdropWhile_append_rtakeWhile]

theorem embeddedBody_embeddedBody (accepted : checkReadOnly cs = .ok ())
    (no_comment : ∀ text, .comment text ∉ tokens (embeddedBody cs)) :
    embeddedBody (embeddedBody cs) = embeddedBody cs := by
  have stripped : Text.strip (embeddedBody cs) = embeddedBody cs := strip_strip _
  have unended : dropSemicolons (embeddedBody cs) = embeddedBody cs := by
    rw [embeddedBody_eq]
    exact dropSemicolons_embedded (harmless_embedded accepted).2
  rw [embeddedBody, stripComments_of_no_comment no_comment, stripped, unended, stripped]

/-- Read anew, the embedded text is harmless and a single statement. -/
theorem checkReadOnly_embeddedBody (accepted : checkReadOnly cs = .ok ())
    (no_comment : ∀ text, .comment text ∉ tokens (embeddedBody cs)) :
    checkReadOnly (embeddedBody cs) = .ok () := by
  obtain ⟨harmless, single⟩ := harmless_embedded accepted
  obtain ⟨trail, unclosed⟩ := unclosed_embedded cs
  have shrinks : Shrinks ((embedded cs).flatMap Token.emptied) (emptyQuoted (embeddedBody cs)) := by
    rw [embeddedBody_eq] at no_comment ⊢
    exact shrinks_relexed (fun _ => formed_embedded) unclosed no_comment
  rw [checkReadOnly_iff, harmless_strip]
  refine ⟨harmless.shrinks shrinks, fun member => single ?_⟩
  exact shrinks.subset (strip_subset _ (dropSemicolons_subset _ member))

theorem prepare_eq_ok_iff :
    prepare sql = .ok body ↔
      checkReadOnly sql.toList = .ok () ∧ embeddedBody sql.toList = body.toList := by
  unfold prepare
  cases checkReadOnly sql.toList with
  | error fault =>
      constructor
      · intro passed
        cases passed
      · rintro ⟨passed, _⟩
        cases passed
  | ok =>
      constructor
      · intro passed
        have same : String.ofList (embeddedBody sql.toList) = body := Except.ok.inj passed
        exact ⟨rfl, by rw [← same, String.toList_ofList]⟩
      · rintro ⟨_, same⟩
        rw [same, String.ofList_toList]
        rfl

/-- What was prepared is let pass again and left as it is, unless reading it anew finds a
comment: one that came about where a comment was cut out. -/
theorem prepare_again_iff (prepared : prepare sql = .ok body) :
    prepare body = .ok body ↔ ∀ text, .comment text ∉ tokens body.toList := by
  obtain ⟨accepted, same⟩ := prepare_eq_ok_iff.mp prepared
  rw [prepare_eq_ok_iff]
  constructor
  · rintro ⟨_, unchanged⟩ text member
    have shorter := length_stripComments_lt member
    have no_longer := length_embeddedBody_le body.toList
    rw [unchanged] at no_longer
    omega
  · intro no_comment
    rw [← same] at no_comment ⊢
    exact ⟨checkReadOnly_embeddedBody accepted no_comment,
      embeddedBody_embeddedBody accepted no_comment⟩

theorem commented_unchanged :
    prepare "SELECT 'a--b' -- c\n;" = .ok "SELECT 'a--b'" ∧
      prepare "SELECT 'a--b'" = .ok "SELECT 'a--b'" := by
  have prepared : prepare "SELECT 'a--b' -- c\n;" = .ok "SELECT 'a--b'" := by decide +kernel
  have read : tokens "SELECT 'a--b'".toList =
      "SELECT ".toList.map .plain ++ [.quoted "'a--b'".toList] := by decide +kernel
  refine ⟨prepared, (prepare_again_iff prepared).mpr fun text member => ?_⟩
  rw [read] at member
  rcases List.mem_append.mp member with before | behind
  · obtain ⟨_, _, same⟩ := List.mem_map.mp before
    exact Token.noConfusion same
  · exact Token.noConfusion (List.mem_singleton.mp behind)

/-- A comment between two hyphens keeps them apart and the quotes behind them closed. -/
theorem parted_rejected :
    prepare "SELECT 1 -/**/-'\n; DROP TABLE t'" = .ok "SELECT 1 --'\n; DROP TABLE t'" ∧
      prepare "SELECT 1 --'\n; DROP TABLE t'" = .error (.forbidden "drop") := by
  decide +kernel

end CheckKeeper.Sql
