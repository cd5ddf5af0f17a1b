import Mathlib.Data.List.Basic
import CheckKeeper.Sql.Guard

namespace CheckKeeper.Sql

/-! What becomes of tokens when comments are cut out of a text.

The text that is left is read anew.  A quote that nothing closed may be closed now, since
a comment no longer stands between it and another such quote, or no longer takes part in
an escape.  Unless a new comment comes about, that is all that can happen: new literals
swallow whole tokens, from one plain quote to another.
-/

variable {quote c : Char} {escaped shifted : Bool} {cs xs ys body after : List Char} {token : Token}
  {items rest : List Token}

/-- The text up to the quote that closes a literal, where the next character may be one
that a backslash takes with it. -/
def scan (quote : Char) : Bool → List Char → Option (List Char × List Char)
  | _, [] => none
  | true, c :: rest => (scan quote false rest).map fun (body, after) => (c :: body, after)
  | false, c :: rest =>
      if c = quote then some ([c], rest)
      else (scan quote (c == '\\') rest).map fun (body, after) => (c :: body, after)

theorem cutLiteral?_eq_scan (mark : quote ≠ '\\') (cs : List Char) :
    cutLiteral? quote cs = scan quote false cs := by
  fun_induction cutLiteral? quote cs with
  | case1 => rfl
  | case2 c rest ih =>
      rw [ih]
      simp [scan, mark.symm, Option.map_map, Function.comp_def]
  | case3 rest => simp [scan]
  | case4 rest alone _ =>
      cases rest with
      | nil => simp [scan, mark.symm]
      | cons next later => exact (alone next later rfl rfl).elim
  | case5 c rest _ unlike ordinary ih =>
      have unescaping : (c == '\\') = false := by simpa using ordinary
      rw [ih]
      simp only [scan, if_neg unlike, unescaping]

theorem scan_ordinary (other : c ≠ quote) (ordinary : (c == '\\') = false) (cs : List Char) :
    scan quote escaped (c :: cs) =
      (scan quote false cs).map fun (body, after) => (c :: body, after) := by
  cases escaped with
  | true => rfl
  | false => rw [scan, if_neg other, ordinary]

theorem scan_stable (found : scan quote escaped cs = some (body, after)) (rest : List Char) :
    scan quote escaped (body ++ rest) = some (body, rest) := by
  induction cs generalizing escaped body with
  | nil => cases escaped <;> cases found
  | cons c later ih =>
      cases escaped with
      | true =>
          obtain ⟨⟨inner, behind⟩, cut, same⟩ := Option.map_eq_some_iff.mp found
          cases same
          simp [scan, ih cut]
      | false =>
          simp only [scan] at found
          split at found
          · cases found
            simp [scan, *]
          · rename_i other
            obtain ⟨⟨inner, behind⟩, cut, same⟩ := Option.map_eq_some_iff.mp found
            cases same
            simp [scan, other, ih cut]

/-- A scan that finds nothing runs across any first part of its text. -/
theorem scan_across (nothing_found : scan quote escaped (xs ++ ys) = none) :
    ∃ shifted, ∀ zs, scan quote escaped (xs ++ zs) =
      (scan quote shifted zs).map fun (body, after) => (xs ++ body, after) := by
  induction xs generalizing escaped with
  | nil => exact ⟨escaped, fun zs => by simp⟩
  | cons c later ih =>
      cases escaped with
      | true =>
          rw [List.cons_append, scan, Option.map_eq_none_iff] at nothing_found
          obtain ⟨shifted, across⟩ := ih nothing_found
          refine ⟨shifted, fun zs => ?_⟩
          rw [List.cons_append, scan, across, Option.map_map]
          rfl
      | false =>
          rw [List.cons_append, scan] at nothing_found
          split at nothing_found
          · cases nothing_found
          · rename_i other
            rw [Option.map_eq_none_iff] at nothing_found
            obtain ⟨shifted, across⟩ := ih nothing_found
            refine ⟨shifted, fun zs => ?_⟩
            rw [List.cons_append, scan, if_neg other, across, Option.map_map]
            rfl

theorem scan_none_of_across (nothing_found : scan quote escaped (xs ++ ys) = none)
    (across : ∀ zs, scan quote escaped (xs ++ zs) =
      (scan quote shifted zs).map fun (body, after) => (xs ++ body, after)) :
    scan quote shifted ys = none := by
  rwa [across, Option.map_eq_none_iff] at nothing_found

theorem scan_last (found : scan quote escaped cs = some (body, after)) :
    body.getLast? = some quote := by
  induction cs generalizing escaped body with
  | nil => cases escaped <;> cases found
  | cons c later ih =>
      cases escaped with
      | true =>
          obtain ⟨⟨inner, behind⟩, cut, same⟩ := Option.map_eq_some_iff.mp found
          cases same
          simp [List.getLast?_cons, ih cut]
      | false =>
          simp only [scan] at found
          split at found
          · rename_i closes
            cases found
            simp [closes]
          · obtain ⟨⟨inner, behind⟩, cut, same⟩ := Option.map_eq_some_iff.mp found
            cases same
            simp [List.getLast?_cons, ih cut]

def isQuote (c : Char) : Bool :=
  c == '\'' || c == '"' || c == '\x60'

/-- Tokens as they are cut from a text; what is quoted ends by itself, whatever follows. -/
inductive Formed : Token → Prop
  | literal {quote : Char} {body : List Char} (mark : quote = '\'' ∨ quote = '"')
      (closes : ∀ rest, scan quote false (body ++ rest) = some (body, rest)) :
      Formed (.quoted (quote :: body))
  | name {body : List Char} (closes : ∀ rest, cutName? (body ++ rest) = some (body, rest)) :
      Formed (.quoted ('\x60' :: body))
  | comment {text : List Char} (some_text : text ≠ []) : Formed (.comment text)
  | plain (c : Char) : Formed (.plain c)

theorem cutName?_body {body : List Char} (unquoted : '\x60' ∉ body) (rest : List Char) :
    cutName? (body ++ '\x60' :: rest) = some (body ++ ['\x60'], rest) := by
  induction body with
  | nil => simp [cutName?]
  | cons c later ih =>
      simp only [List.mem_cons, not_or] at unquoted
      simp [cutName?, Ne.symm unquoted.1, ih unquoted.2]

theorem cutName?_stable (found : cutName? cs = some (body, after)) (rest : List Char) :
    cutName? (body ++ rest) = some (body, rest) := by
  induction cs generalizing body with
  | nil => cases found
  | cons c later ih =>
      simp only [cutName?] at found
      split at found
      · rename_i closes
        cases found
        simp [cutName?, closes]
      · rename_i other
        obtain ⟨⟨inner, behind⟩, cut, same⟩ := Option.map_eq_some_iff.mp found
        cases same
        simp [cutName?, other, ih cut]

theorem cutName?_last (found : cutName? cs = some (body, after)) :
    body.getLast? = some '\x60' := by
  induction cs generalizing body with
  | nil => cases found
  | cons c later ih =>
      simp only [cutName?] at found
      split at found
      · rename_i closes
        cases found
        simp [closes]
      · obtain ⟨⟨inner, behind⟩, cut, same⟩ := Option.map_eq_some_iff.mp found
        cases same
        simp [List.getLast?_cons, ih cut]

theorem mem_of_cutName? (found : cutName? cs = some (body, after)) : '\x60' ∈ cs := by
  rw [← cutName?_append found]
  exact List.mem_append_left _ (List.mem_of_getLast? (cutName?_last found))

theorem cutName?_of_mem (member : '\x60' ∈ cs) : cutName? cs ≠ none := by
  induction cs with
  | nil => cases member
  | cons c later ih =>
      simp only [cutName?]
      split
      · simp
      · rename_i other
        rw [List.mem_cons] at member
        simpa using ih (member.resolve_left (Ne.symm other))

theorem cut_cases (found : cutToken? (c :: cs) = some (token, after)) :
    (∃ body, (c = '\'' ∨ c = '"') ∧ token = .quoted (c :: body) ∧
        scan c false cs = some (body, after)) ∨
      (∃ body, c = '\x60' ∧ token = .quoted ('\x60' :: body) ∧ cutName? cs = some (body, after)) ∨
      ∃ text, token = .comment text ∧ text ≠ [] := by
  unfold cutToken? at found
  split at found
  · rename_i same
    cases same
    obtain ⟨⟨body, behind⟩, cut, same⟩ := Option.map_eq_some_iff.mp found
    cases same
    rw [cutLiteral?_eq_scan (by decide)] at cut
    exact Or.inl ⟨body, Or.inl rfl, rfl, cut⟩
  · rename_i same
    cases same
    obtain ⟨⟨body, behind⟩, cut, same⟩ := Option.map_eq_some_iff.mp found
    cases same
    rw [cutLiteral?_eq_scan (by decide)] at cut
    exact Or.inl ⟨body, Or.inr rfl, rfl, cut⟩
  · rename_i same
    cases same
    obtain ⟨⟨body, behind⟩, cut, same⟩ := Option.map_eq_some_iff.mp found
    cases same
    exact Or.inr (Or.inl ⟨body, rfl, rfl, cut⟩)
  · cases found
    exact Or.inr (Or.inr ⟨_, rfl, by simp⟩)
  · obtain ⟨⟨body, behind⟩, cut, same⟩ := Option.map_eq_some_iff.mp found
    cases same
    exact Or.inr (Or.inr ⟨_, rfl, by simp⟩)
  · cases found

theorem formed_of_cut (found : cutToken? (c :: cs) = some (token, after)) : Formed token := by
  rcases cut_cases found with ⟨body, mark, rfl, cut⟩ | ⟨body, _, rfl, cut⟩ | ⟨text, rfl, some_text⟩
  · exact .literal mark (scan_stable cut)
  · exact .name (cutName?_stable cut)
  · exact .comment some_text

theorem tokens_of_cut (found : cutToken? (c :: cs) = some (token, after)) :
    tokens (c :: cs) = token :: tokens after := by
  rw [tokens, firstToken, found]
  rfl

theorem tokens_of_none (none_found : cutToken? (c :: cs) = none) :
    tokens (c :: cs) = .plain c :: tokens cs := by
  rw [tokens, firstToken, none_found]
  rfl

theorem formed_of_mem (member : token ∈ tokens cs) : Formed token := by
  induction cs using tokens.induct with
  | case1 =>
      rw [tokens] at member
      cases member
  | case2 c rest ih =>
      cases found : cutToken? (c :: rest) with
      | none =>
          rw [tokens_of_none found] at member
          rcases List.mem_cons.mp member with rfl | later
          · exact .plain c
          · apply ih
            rw [firstToken, found]
            exact later
      | some cut =>
          rw [tokens_of_cut found] at member
          rcases List.mem_cons.mp member with rfl | later
          · exact formed_of_cut found
          · apply ih
            rw [firstToken, found]
            exact later

/-- Before some text, no plain character opens a longer token. -/
def Unclosed (trail : List Char) : List Token → Prop
  | [] => True
  | .plain c :: later =>
      cutToken? (c :: (later.flatMap Token.text ++ trail)) = none ∧ Unclosed trail later
  | _ :: later => Unclosed trail later

theorem unclosed_tokens (cs : List Char) : Unclosed [] (tokens cs) := by
  induction cs using tokens.induct with
  | case1 =>
      rw [tokens]
      trivial
  | case2 c rest ih =>
      cases found : cutToken? (c :: rest) with
      | none =>
          rw [firstToken, found] at ih
          rw [tokens_of_none found]
          refine ⟨?_, ih⟩
          rw [flatMap_text_tokens, List.append_nil]
          exact found
      | some cut =>
          rw [firstToken, found] at ih
          rw [tokens_of_cut found]
          rcases cut_cases found with ⟨_, _, same, _⟩ | ⟨_, _, same, _⟩ | ⟨_, same, _⟩ <;>
            · rw [same]
              exact ih

theorem Unclosed.right {trail : List Char} (unclosed : Unclosed trail (items ++ rest)) :
    Unclosed trail rest := by
  induction items with
  | nil => exact unclosed
  | cons token later ih =>
      apply ih
      cases token with
      | plain c => exact unclosed.2
      | quoted text => exact unclosed
      | comment text => exact unclosed

theorem Unclosed.left {trail : List Char} (unclosed : Unclosed trail (items ++ rest)) :
    Unclosed (rest.flatMap Token.text ++ trail) items := by
  induction items with
  | nil => trivial
  | cons token later ih =>
      cases token with
      | plain c =>
          refine ⟨?_, ih unclosed.2⟩
          have opens : cutToken? (c :: ((later ++ rest).flatMap Token.text ++ trail)) = none :=
            unclosed.1
          rwa [List.flatMap_append, List.append_assoc] at opens
      | quoted text => exact ih unclosed
      | comment text => exact ih unclosed

theorem quote_ne_of_open {text : List Char} (mark : quote = '\'' ∨ quote = '"')
    (formed : Formed (.quoted text)) (nothing_found : scan quote escaped (text ++ ys) = none) :
    ∃ c body, text = c :: body ∧ c ≠ quote ∧ (c == '\\') = false := by
  cases formed with
  | @literal other body other_mark closes =>
      refine ⟨other, body, rfl, ?_, by rcases other_mark with rfl | rfl <;> rfl⟩
      rintro rfl
      -- The scan would stop at one of the two ends of the literal.
      cases escaped with
      | true => simp [scan, closes] at nothing_found
      | false => simp [scan] at nothing_found
  | name closes => exact ⟨_, _, rfl, by rcases mark with rfl | rfl <;> decide, rfl⟩

/-- A quote that nothing closed is closed by a plain one when comments are gone.  Whether
the next character is escaped may differ, with the comments and without them; behind the
first character of a quoted token it does not. -/
theorem scan_kept (mark : quote = '\'' ∨ quote = '"') (formed : ∀ token ∈ items, Formed token)
    (nothing_found : scan quote escaped (items.flatMap Token.text) = none)
    (found : scan quote shifted (items.flatMap Token.kept) = some (body, after)) :
    ∃ inner later, items = inner ++ .plain quote :: later ∧
      body = inner.flatMap Token.kept ++ [quote] ∧ after = later.flatMap Token.kept := by
  induction items generalizing escaped shifted body with
  | nil => cases shifted <;> cases found
  | cons token later ih =>
      have formed' : ∀ token ∈ later, Formed token := fun token member =>
        formed token (List.mem_cons_of_mem _ member)
      rw [List.flatMap_cons] at nothing_found found
      cases token with
      | comment text =>
          obtain ⟨_, across⟩ := scan_across nothing_found
          obtain ⟨inner, behind, rfl, rfl, rfl⟩ :=
            ih formed' (scan_none_of_across nothing_found across) found
          exact ⟨.comment text :: inner, behind, rfl, rfl, rfl⟩
      | quoted text =>
          obtain ⟨c, rest, rfl, other, ordinary⟩ :=
            quote_ne_of_open mark (formed _ List.mem_cons_self) nothing_found
          rw [Token.text, List.cons_append, scan_ordinary other ordinary,
            Option.map_eq_none_iff] at nothing_found
          rw [Token.kept, List.cons_append, scan_ordinary other ordinary] at found
          obtain ⟨_, across⟩ := scan_across nothing_found
          rw [across, Option.map_map] at found
          obtain ⟨⟨inner, behind⟩, cut, same⟩ := Option.map_eq_some_iff.mp found
          cases same
          obtain ⟨tokens, behind, rfl, rfl, rfl⟩ :=
            ih formed' (scan_none_of_across nothing_found across) cut
          exact ⟨.quoted (c :: rest) :: tokens, behind, rfl, by simp [Token.kept], rfl⟩
      | plain c =>
          obtain ⟨_, across⟩ := scan_across nothing_found
          have still_open := scan_none_of_across nothing_found across
          cases shifted with
          | true =>
              obtain ⟨⟨inner, behind⟩, cut, same⟩ := Option.map_eq_some_iff.mp found
              cases same
              obtain ⟨tokens, behind, rfl, rfl, rfl⟩ := ih formed' still_open cut
              exact ⟨.plain c :: tokens, behind, rfl, rfl, rfl⟩
          | false =>
              rw [Token.kept, List.singleton_append, scan] at found
              split at found
              · rename_i closes
                cases found
                subst closes
                exact ⟨[], later, rfl, rfl, rfl⟩
              · obtain ⟨⟨inner, behind⟩, cut, same⟩ := Option.map_eq_some_iff.mp found
                cases same
                obtain ⟨tokens, behind, rfl, rfl, rfl⟩ := ih formed' still_open cut
                exact ⟨.plain c :: tokens, behind, rfl, rfl, rfl⟩

/-- A text with some quoted parts emptied, among them none, from one quote to the next of
its kind. -/
inductive Shrinks : List Char → List Char → Prop
  | refl (cs : List Char) : Shrinks cs cs
  | skip (front inner : List Char) {quote : Char} {xs ys : List Char} (mark : isQuote quote = true)
      (later : Shrinks xs ys) :
      Shrinks (front ++ quote :: (inner ++ quote :: xs)) (front ++ quote :: quote :: ys)

theorem Shrinks.append_left (shrinks : Shrinks xs ys) (front : List Char) :
    Shrinks (front ++ xs) (front ++ ys) := by
  cases shrinks with
  | refl => exact .refl _
  | skip before inner mark later =>
      rw [← List.append_assoc, ← List.append_assoc]
      exact .skip (front ++ before) inner mark later

theorem mem_text_of_kept (member : c ∈ items.flatMap Token.kept) : c ∈ items.flatMap Token.text := by
  obtain ⟨token, inside, kept⟩ := List.mem_flatMap.mp member
  refine List.mem_flatMap.mpr ⟨token, inside, ?_⟩
  cases token with
  | comment text => cases kept
  | quoted text => exact kept
  | plain c => exact kept

theorem cut_of_formed {text : List Char} (formed : Formed (.quoted text)) (rest : List Char) :
    cutToken? (text ++ rest) = some (.quoted text, rest) := by
  cases formed with
  | literal mark closes =>
      rcases mark with rfl | rfl <;>
        simp [cutToken?, cutLiteral?_eq_scan, closes]
  | name closes => simp [cutToken?, closes]

theorem tokens_of_formed {text : List Char} (formed : Formed (.quoted text)) (rest : List Char) :
    tokens (text ++ rest) = .quoted text :: tokens rest := by
  have found := cut_of_formed formed rest
  cases formed with
  | literal => exact tokens_of_cut found
  | name => exact tokens_of_cut found

theorem scan_none_of_append (nothing_found : scan quote escaped (xs ++ ys) = none) :
    scan quote escaped xs = none := by
  obtain ⟨shifted, across⟩ := scan_across nothing_found
  have here := across []
  rw [List.append_nil] at here
  rw [here]
  cases shifted <;> rfl

/-- A plain character that opens a longer token in the text without comments is a quote, and
the token ends at a plain quote of its kind. -/
theorem cut_of_unclosed {trail : List Char} (formed : ∀ token ∈ items, Formed token)
    (unclosed : cutToken? (c :: (items.flatMap Token.text ++ trail)) = none)
    (found : cutToken? (c :: items.flatMap Token.kept) = some (token, after))
    (no_comment : ∀ text, token ≠ .comment text) :
    isQuote c = true ∧ ∃ inner later, items = inner ++ .plain c :: later ∧
      token = .quoted (c :: (inner.flatMap Token.kept ++ [c])) ∧ after = later.flatMap Token.kept := by
  rcases cut_cases found with ⟨body, mark, rfl, cut⟩ | ⟨body, rfl, rfl, cut⟩ | ⟨text, rfl, _⟩
  · have nothing_found : scan c false (items.flatMap Token.text ++ trail) = none := by
      rcases mark with rfl | rfl <;> simpa [cutToken?, cutLiteral?_eq_scan] using unclosed
    obtain ⟨inner, later, rfl, rfl, rfl⟩ :=
      scan_kept mark formed (scan_none_of_append nothing_found) cut
    exact ⟨by rcases mark with rfl | rfl <;> rfl, inner, later, rfl, rfl, rfl⟩
  · have nothing_found : cutName? (items.flatMap Token.text ++ trail) = none := by
      simpa [cutToken?] using unclosed
    exact absurd nothing_found
      (cutName?_of_mem (List.mem_append_left _ (mem_text_of_kept (mem_of_cutName? cut))))
  · exact absurd rfl (no_comment text)

/-- What the tokens of the text without comments come to when quoted ones are emptied. -/
theorem shrinks_relexed {trail : List Char} (formed : ∀ token ∈ items, Formed token)
    (unclosed : Unclosed trail items)
    (no_comment : ∀ text, .comment text ∉ tokens (items.flatMap Token.kept)) :
    Shrinks (items.flatMap Token.emptied)
      ((tokens (items.flatMap Token.kept)).flatMap Token.emptied) := by
  induction size : items.length using Nat.strongRecOn generalizing items with
  | ind n ih =>
      cases items with
      | nil =>
          simp only [List.flatMap_nil, tokens]
          exact .refl []
      | cons token later =>
          have shorter : later.length < n := by
            rw [← size]
            exact Nat.lt_succ_self _
          have formed' : ∀ token ∈ later, Formed token := fun token member =>
            formed token (List.mem_cons_of_mem _ member)
          cases token with
          | comment text =>
              have shrinks := ih _ shorter formed' unclosed no_comment rfl
              exact shrinks
          | quoted text =>
              have same := tokens_of_formed (formed _ List.mem_cons_self) (later.flatMap Token.kept)
              simp only [List.flatMap_cons, Token.kept, same] at no_comment ⊢
              have no_comment' : ∀ text, .comment text ∉ tokens (later.flatMap Token.kept) :=
                fun text member => no_comment text (List.mem_cons_of_mem _ member)
              exact (ih _ shorter formed' unclosed no_comment' rfl).append_left _
          | plain c =>
              obtain ⟨opens, unclosed⟩ := unclosed
              simp only [List.flatMap_cons, Token.kept, List.singleton_append] at no_comment ⊢
              cases found : cutToken? (c :: later.flatMap Token.kept) with
              | none =>
                  rw [tokens_of_none found] at no_comment ⊢
                  have no_comment' : ∀ text, .comment text ∉ tokens (later.flatMap Token.kept) :=
                    fun text member => no_comment text (List.mem_cons_of_mem _ member)
                  exact (ih _ shorter formed' unclosed no_comment' rfl).append_left [c]
              | some cut =>
                  obtain ⟨token, after⟩ := cut
                  rw [tokens_of_cut found] at no_comment ⊢
                  obtain ⟨mark, inner, behind, rfl, rfl, rfl⟩ := cut_of_unclosed formed' opens found
                    fun text same => no_comment text (same ▸ List.mem_cons_self)
                  have no_comment' : ∀ text, .comment text ∉ tokens (behind.flatMap Token.kept) :=
                    fun text member => no_comment text (List.mem_cons_of_mem _ member)
                  have fewer : behind.length < n := by
                    rw [List.length_append, List.length_cons] at shorter
                    omega
                  have formed'' : ∀ token ∈ behind, Formed token := fun token member =>
                    formed' token (by simp [member])
                  have shrinks := ih _ fewer formed'' unclosed.right.2 no_comment' rfl
                  have skipped := Shrinks.skip [] (inner.flatMap Token.emptied) mark shrinks
                  simpa [Token.emptied] using skipped

end CheckKeeper.Sql
