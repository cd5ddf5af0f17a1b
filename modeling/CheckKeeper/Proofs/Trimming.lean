import Mathlib.Data.List.DropRight
import CheckKeeper.Proofs.Lexing

namespace CheckKeeper.Sql

/-! Trimming a text by its tokens.

Blanks and semicolons at the ends of a text are plain characters, with comments among
them.  Which tokens are trimmed is the same whether quoted ones are kept or emptied.
-/

variable {render : Token → List Char} {p : Char → Bool} {c : Char} {token : Token}
  {items : List Token} {trail : List Char}

/-- Ways to write tokens out without the comments; quoted tokens keep the quotes at their
ends. -/
structure Renders (render : Token → List Char) : Prop where
  comment (text : List Char) : render (.comment text) = []
  plain (c : Char) : render (.plain c) = [c]
  opens {text : List Char} (formed : Formed (.quoted text)) :
    (render (.quoted text)).head?.any isQuote = true
  closes {text : List Char} (formed : Formed (.quoted text)) :
    (render (.quoted text)).getLast?.any isQuote = true

theorem Formed.ends {text : List Char} (formed : Formed (.quoted text)) :
    ∃ quote body, text = quote :: body ∧ isQuote quote = true ∧ body.getLast? = some quote := by
  cases formed with
  | literal mark closes =>
      exact ⟨_, _, rfl, by rcases mark with rfl | rfl <;> rfl, scan_last (closes [])⟩
  | name closes => exact ⟨_, _, rfl, rfl, cutName?_last (closes [])⟩

theorem renders_kept : Renders Token.kept where
  comment _ := rfl
  plain _ := rfl
  opens formed := by
    obtain ⟨quote, body, rfl, mark, _⟩ := formed.ends
    exact mark
  closes formed := by
    obtain ⟨quote, body, rfl, mark, last⟩ := formed.ends
    rw [Token.kept, List.getLast?_cons, last]
    exact mark

theorem renders_emptied : Renders Token.emptied where
  comment _ := rfl
  plain _ := rfl
  opens formed := by
    obtain ⟨quote, body, rfl, mark, _⟩ := formed.ends
    exact mark
  closes formed := by
    obtain ⟨quote, body, rfl, mark, _⟩ := formed.ends
    exact mark

theorem Renders.reversed (renders : Renders render) : Renders (List.reverse ∘ render) where
  comment text := by rw [Function.comp_apply, renders.comment, List.reverse_nil]
  plain c := by rw [Function.comp_apply, renders.plain, List.reverse_singleton]
  opens formed := by
    rw [Function.comp_apply, List.head?_reverse]
    exact renders.closes formed
  closes formed := by
    rw [Function.comp_apply, List.getLast?_reverse]
    exact renders.opens formed

/-- Tokens that go when characters with `p` are dropped. -/
def Token.droppable (p : Char → Bool) : Token → Bool
  | .quoted _ => false
  | .comment _ => true
  | .plain c => p c

theorem Renders.dropWhile (renders : Renders render)
    (marks_stay : ∀ c, isQuote c = true → p c = false) (formed : ∀ token ∈ items, Formed token) :
    (items.flatMap render).dropWhile p = (items.dropWhile (Token.droppable p)).flatMap render := by
  induction items with
  | nil => rfl
  | cons token later ih =>
      have ih := ih fun token member => formed token (List.mem_cons_of_mem _ member)
      rw [List.flatMap_cons]
      cases token with
      | comment text =>
          rw [renders.comment, List.nil_append, ih, List.dropWhile_cons_of_pos rfl]
      | plain c =>
          rw [renders.plain, List.singleton_append]
          cases goes : p c with
          | true =>
              have goes' : Token.droppable p (.plain c) = true := goes
              rw [List.dropWhile_cons_of_pos goes, List.dropWhile_cons_of_pos goes', ih]
          | false =>
              have stays : ¬ p c = true := by simp [goes]
              have stays' : ¬ Token.droppable p (.plain c) = true := stays
              rw [List.dropWhile_cons_of_neg stays, List.dropWhile_cons_of_neg stays',
                List.flatMap_cons, renders.plain]
              rfl
      | quoted text =>
          have opens := renders.opens (formed _ List.mem_cons_self)
          obtain ⟨quote, head⟩ := Option.isSome_iff_exists.mp (Option.isSome_of_any opens)
          rw [head, Option.any_some] at opens
          obtain ⟨inner, written⟩ := List.head?_eq_some_iff.mp head
          have stays : ¬ p quote = true := by simp [marks_stay quote opens]
          rw [List.dropWhile_cons_of_neg (by exact Bool.false_ne_true), List.flatMap_cons, written,
            List.cons_append, List.dropWhile_cons_of_neg stays]

theorem Renders.dropEndWhile (renders : Renders render)
    (marks_stay : ∀ c, isQuote c = true → p c = false) (formed : ∀ token ∈ items, Formed token) :
    Text.dropEndWhile p (items.flatMap render) =
      (items.rdropWhile (Token.droppable p)).flatMap render := by
  have formed' : ∀ token ∈ items.reverse, Formed token := fun token member =>
    formed token (List.mem_reverse.mp member)
  have twice : List.reverse ∘ List.reverse ∘ render = render := by
    funext token
    exact List.reverse_reverse _
  rw [Text.dropEndWhile, List.reverse_flatMap, renders.reversed.dropWhile marks_stay formed',
    List.reverse_flatMap, twice, List.rdropWhile]

theorem not_blank_of_isQuote (mark : isQuote c = true) : Text.isBlank c = false := by
  simp only [isQuote, Bool.or_eq_true, beq_iff_eq] at mark
  rcases mark with (rfl | rfl) | rfl <;> decide

theorem not_semicolon_of_isQuote (mark : isQuote c = true) : (c == ';') = false := by
  simp only [isQuote, Bool.or_eq_true, beq_iff_eq] at mark
  rcases mark with (rfl | rfl) | rfl <;> decide

/-- The tokens without the blanks and comments at their ends. -/
def trimmed (items : List Token) : List Token :=
  (items.dropWhile (Token.droppable Text.isBlank)).rdropWhile (Token.droppable Text.isBlank)

/-- The tokens without the semicolons and comments behind them. -/
def unended (items : List Token) : List Token :=
  items.rdropWhile (Token.droppable (· == ';'))

theorem infix_trimmed (items : List Token) : trimmed items <:+: items :=
  (List.rdropWhile_prefix _ _).isInfix.trans (List.dropWhile_suffix _).isInfix

theorem infix_unended (items : List Token) : unended items <:+: items :=
  (List.rdropWhile_prefix _ _).isInfix

theorem Renders.trimmed (renders : Renders render) (formed : ∀ token ∈ items, Formed token) :
    Text.strip (items.flatMap render) = (trimmed items).flatMap render := by
  have marks_stay : ∀ c, isQuote c = true → Text.isBlank c = false := fun _ => not_blank_of_isQuote
  have formed' : ∀ token ∈ items.dropWhile (Token.droppable Text.isBlank), Formed token :=
    fun token member => formed token ((List.dropWhile_suffix _).subset member)
  rw [Text.strip, renders.dropWhile marks_stay formed, renders.dropEndWhile marks_stay formed',
    Sql.trimmed]

theorem Renders.unended (renders : Renders render) (formed : ∀ token ∈ items, Formed token) :
    dropSemicolons (items.flatMap render) = (unended items).flatMap render :=
  renders.dropEndWhile (fun _ => not_semicolon_of_isQuote) formed

theorem Unclosed.within {inner : List Token} (unclosed : Unclosed trail items)
    (inside : inner <:+: items) : ∃ trail, Unclosed trail inner := by
  obtain ⟨front, behind, rfl⟩ := inside
  exact ⟨_, unclosed.left.right⟩

/-- The tokens of a query that are embedded. -/
def embedded (cs : List Char) : List Token :=
  trimmed (unended (trimmed (tokens cs)))

theorem infix_embedded (cs : List Char) : embedded cs <:+: tokens cs :=
  (infix_trimmed _).trans ((infix_unended _).trans (infix_trimmed _))

theorem formed_embedded {cs : List Char} (member : token ∈ embedded cs) : Formed token :=
  formed_of_mem ((infix_embedded cs).subset member)

theorem unclosed_embedded (cs : List Char) : ∃ trail, Unclosed trail (embedded cs) :=
  (unclosed_tokens cs).within (infix_embedded cs)

theorem Renders.embedded (renders : Renders render) (cs : List Char) :
    Text.strip (dropSemicolons (Text.strip ((tokens cs).flatMap render))) =
      (embedded cs).flatMap render := by
  have formed : ∀ token ∈ tokens cs, Formed token := fun _ => formed_of_mem
  have formed' : ∀ token ∈ Sql.trimmed (tokens cs), Formed token := fun token member =>
    formed token ((infix_trimmed _).subset member)
  have formed'' : ∀ token ∈ Sql.unended (Sql.trimmed (tokens cs)), Formed token :=
    fun token member => formed' token ((infix_unended _).subset member)
  rw [renders.trimmed formed, renders.unended formed', renders.trimmed formed'', Sql.embedded]

theorem embeddedBody_eq (cs : List Char) : embeddedBody cs = (embedded cs).flatMap Token.kept :=
  renders_kept.embedded cs

end CheckKeeper.Sql
