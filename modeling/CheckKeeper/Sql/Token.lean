namespace CheckKeeper.Sql

/-! Tokens of a query, as far as the guard tells them apart.

Quoted are literals in single or double quotes, in which a backslash takes the
next character with it, and names in back quotes.  A quote or a comment that is
opened and never closed opens nothing: its first character is plain.
-/

inductive Token where
  | quoted (text : List Char)
  | comment (text : List Char)
  | plain (c : Char)
deriving DecidableEq, Repr

def Token.text : Token → List Char
  | .quoted text => text
  | .comment text => text
  | .plain c => [c]

/-- The text up to the quote that closes a literal, and what follows it. -/
def cutLiteral? (quote : Char) : List Char → Option (List Char × List Char)
  | [] => none
  | '\\' :: c :: rest => (cutLiteral? quote rest).map fun (body, after) => ('\\' :: c :: body, after)
  | c :: rest =>
      if c = quote then some ([c], rest)
      else if c = '\\' then none
      else (cutLiteral? quote rest).map fun (body, after) => (c :: body, after)

/-- The text up to the back quote that closes a name, and what follows it. -/
def cutName? : List Char → Option (List Char × List Char)
  | [] => none
  | c :: rest =>
      if c = '\x60' then some ([c], rest)
      else (cutName? rest).map fun (body, after) => (c :: body, after)

/-- The text up to the first mark that closes a block comment, and what follows
it. -/
def cutBlock? : List Char → Option (List Char × List Char)
  | [] => none
  | '*' :: '/' :: rest => some (['*', '/'], rest)
  | c :: rest => (cutBlock? rest).map fun (body, after) => (c :: body, after)

/-- A token that is longer than one plain character, and what follows it. -/
def cutToken? : List Char → Option (Token × List Char)
  | '\'' :: rest => (cutLiteral? '\'' rest).map fun (body, after) => (.quoted ('\'' :: body), after)
  | '"' :: rest => (cutLiteral? '"' rest).map fun (body, after) => (.quoted ('"' :: body), after)
  | '\x60' :: rest => (cutName? rest).map fun (body, after) => (.quoted ('\x60' :: body), after)
  | '-' :: '-' :: rest =>
      some (.comment ('-' :: '-' :: rest.takeWhile (· != '\n')), rest.dropWhile (· != '\n'))
  | '/' :: '*' :: rest =>
      (cutBlock? rest).map fun (body, after) => (.comment ('/' :: '*' :: body), after)
  | _ => none

/-- The first token of a text that starts with `c`, and what follows it. -/
def firstToken (c : Char) (rest : List Char) : Token × List Char :=
  (cutToken? (c :: rest)).getD (.plain c, rest)

theorem cutLiteral?_append {quote : Char} {cs body after : List Char}
    (found : cutLiteral? quote cs = some (body, after)) : body ++ after = cs := by
  fun_induction cutLiteral? quote cs generalizing body after with
  | case1 => simp at found
  | case2 c rest ih =>
      obtain ⟨⟨inner, behind⟩, cut, same⟩ := Option.map_eq_some_iff.mp found
      simp only [Prod.mk.injEq] at same
      obtain ⟨rfl, rfl⟩ := same
      simp [ih cut]
  | case3 rest =>
      simp only [Option.some.injEq, Prod.mk.injEq] at found
      obtain ⟨rfl, rfl⟩ := found
      rfl
  | case4 => simp at found
  | case5 c rest _ _ _ ih =>
      obtain ⟨⟨inner, behind⟩, cut, same⟩ := Option.map_eq_some_iff.mp found
      simp only [Prod.mk.injEq] at same
      obtain ⟨rfl, rfl⟩ := same
      simp [ih cut]

theorem cutName?_append {cs body after : List Char}
    (found : cutName? cs = some (body, after)) : body ++ after = cs := by
  induction cs generalizing body after with
  | nil => simp [cutName?] at found
  | cons c rest ih =>
      simp only [cutName?] at found
      split at found
      · rename_i closes
        simp only [Option.some.injEq, Prod.mk.injEq] at found
        obtain ⟨rfl, rfl⟩ := found
        rfl
      · obtain ⟨⟨inner, behind⟩, cut, same⟩ := Option.map_eq_some_iff.mp found
        simp only [Prod.mk.injEq] at same
        obtain ⟨rfl, rfl⟩ := same
        simp [ih cut]

theorem cutBlock?_append {cs body after : List Char}
    (found : cutBlock? cs = some (body, after)) : body ++ after = cs := by
  fun_induction cutBlock? cs generalizing body after with
  | case1 => simp at found
  | case2 rest =>
      simp only [Option.some.injEq, Prod.mk.injEq] at found
      obtain ⟨rfl, rfl⟩ := found
      rfl
  | case3 c rest _ ih =>
      obtain ⟨⟨inner, behind⟩, cut, same⟩ := Option.map_eq_some_iff.mp found
      simp only [Prod.mk.injEq] at same
      obtain ⟨rfl, rfl⟩ := same
      simp [ih cut]

theorem cutToken?_append {cs after : List Char} {token : Token}
    (found : cutToken? cs = some (token, after)) : token.text ++ after = cs := by
  unfold cutToken? at found
  split at found
  · obtain ⟨⟨body, behind⟩, cut, same⟩ := Option.map_eq_some_iff.mp found
    simp only [Prod.mk.injEq] at same
    obtain ⟨rfl, rfl⟩ := same
    simp [Token.text, cutLiteral?_append cut]
  · obtain ⟨⟨body, behind⟩, cut, same⟩ := Option.map_eq_some_iff.mp found
    simp only [Prod.mk.injEq] at same
    obtain ⟨rfl, rfl⟩ := same
    simp [Token.text, cutLiteral?_append cut]
  · obtain ⟨⟨body, behind⟩, cut, same⟩ := Option.map_eq_some_iff.mp found
    simp only [Prod.mk.injEq] at same
    obtain ⟨rfl, rfl⟩ := same
    simp [Token.text, cutName?_append cut]
  · simp only [Option.some.injEq, Prod.mk.injEq] at found
    obtain ⟨rfl, rfl⟩ := found
    simp [Token.text]
  · obtain ⟨⟨body, behind⟩, cut, same⟩ := Option.map_eq_some_iff.mp found
    simp only [Prod.mk.injEq] at same
    obtain ⟨rfl, rfl⟩ := same
    simp [Token.text, cutBlock?_append cut]
  · simp at found

theorem Token.text_ne_nil_of_cut {cs after : List Char} {token : Token}
    (found : cutToken? cs = some (token, after)) : token.text ≠ [] := by
  unfold cutToken? at found
  split at found <;>
    first
    | (obtain ⟨⟨body, behind⟩, _, same⟩ := Option.map_eq_some_iff.mp found
       simp only [Prod.mk.injEq] at same
       obtain ⟨rfl, rfl⟩ := same
       simp [Token.text])
    | (simp only [Option.some.injEq, Prod.mk.injEq] at found
       obtain ⟨rfl, rfl⟩ := found
       simp [Token.text])
    | simp at found

theorem firstToken_append (c : Char) (rest : List Char) :
    (firstToken c rest).1.text ++ (firstToken c rest).2 = c :: rest := by
  unfold firstToken
  cases found : cutToken? (c :: rest) with
  | none => simp [Token.text]
  | some cut => simpa using cutToken?_append found

theorem firstToken_shorter (c : Char) (rest : List Char) :
    (firstToken c rest).2.length < (c :: rest).length := by
  have whole := congrArg List.length (firstToken_append c rest)
  have some_text : (firstToken c rest).1.text ≠ [] := by
    unfold firstToken
    cases found : cutToken? (c :: rest) with
    | none => simp [Token.text]
    | some cut => simpa using Token.text_ne_nil_of_cut found
  have positive := List.length_pos_iff.mpr some_text
  simp only [List.length_append] at whole
  omega

def tokens : List Char → List Token
  | [] => []
  | c :: rest => (firstToken c rest).1 :: tokens (firstToken c rest).2
termination_by cs => cs.length
decreasing_by exact firstToken_shorter c rest

theorem flatMap_text_tokens (cs : List Char) : (tokens cs).flatMap Token.text = cs := by
  fun_induction tokens cs with
  | case1 => rfl
  | case2 c rest ih => simpa [ih] using firstToken_append c rest

end CheckKeeper.Sql
