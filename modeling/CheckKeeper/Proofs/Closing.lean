import CheckKeeper.Proofs.Lexing

namespace CheckKeeper.Sql

/-! What a text opens and closes.

An opening mark that nothing closes is a plain token, so a text closes all it opens if its plain
tokens hold none.  The same is found in one pass over the characters that remembers where it
stands and how many parentheses are open.
-/

variable {c quote : Char} {cs body after rest : List Char} {token : Token}
  {items : List Token} {depth final : Nat} {escaped : Bool}

structure Closed (items : List Token) : Prop where
  quotes : ∀ c, .plain c ∈ items → isQuote c = false
  blocks : ¬ [.plain '/', .plain '*'] <:+: items

/-- No parenthesis closes what none has opened, and all are closed at the end. -/
structure Balanced (items : List Token) : Prop where
  opened : ∀ front, front <+: items → front.count (.plain ')') ≤ front.count (.plain '(')
  closed : items.count (.plain '(') = items.count (.plain ')')

/-- The number of open parentheses behind a character, if it closes none too many. -/
def nest (depth : Nat) (c : Char) : Option Nat :=
  if c = '(' then some (depth + 1)
  else if c = ')' then (if depth = 0 then none else some (depth - 1))
  else some depth

def Token.nest (depth : Nat) : Token → Option Nat
  | .plain c => Sql.nest depth c
  | _ => some depth

theorem nest_of_ne (unopening : c ≠ '(') (unclosing : c ≠ ')') : nest depth c = some depth := by
  rw [nest, if_neg unopening, if_neg unclosing]

theorem forall_prefix_cons {bound : List Token → Prop} :
    (∀ front, front <+: token :: items → bound front) ↔
      bound [] ∧ ∀ front, front <+: items → bound (token :: front) := by
  constructor
  · intro all
    exact ⟨all [] List.nil_prefix, fun front isFront => all _ (by simpa using isFront)⟩
  · intro ⟨empty, longer⟩ front isFront
    cases front with
    | nil => exact empty
    | cons first later =>
        obtain ⟨rfl, later_front⟩ := List.cons_prefix_cons.mp isFront
        exact longer later later_front

theorem foldlM_nest_iff (items : List Token) (depth final : Nat) :
    items.foldlM Token.nest depth = some final ↔
      (∀ front, front <+: items →
        front.count (.plain ')') ≤ depth + front.count (.plain '(')) ∧
      depth + items.count (.plain '(') = final + items.count (.plain ')') := by
  induction items generalizing depth with
  | nil => simp
  | cons token rest ih =>
      rw [List.foldlM_cons, forall_prefix_cons]
      by_cases opens : token = .plain '('
      · subst opens
        have deeper : Token.nest depth (.plain '(') = some (depth + 1) := rfl
        simp [deeper, ih, Nat.add_assoc, Nat.add_comm 1]
      by_cases closes : token = .plain ')'
      · subst closes
        have unopened (front : List Token) :
            (Token.plain ')' :: front).count (.plain '(') = front.count (.plain '(') :=
          List.count_cons_of_ne (by decide)
        have closed (front : List Token) :
            (Token.plain ')' :: front).count (.plain ')') = front.count (.plain ')') + 1 :=
          List.count_cons_self
        simp only [unopened, closed]
        cases depth with
        | zero =>
            have refused : Token.nest 0 (.plain ')') = none := rfl
            simp only [refused]
            constructor
            · intro reached
              cases reached
            · intro ⟨⟨_, bounded⟩, _⟩
              have alone := bounded [] List.nil_prefix
              rw [List.count_nil, List.count_nil] at alone
              omega
        | succ depth =>
            have shallower : Token.nest (depth + 1) (.plain ')') = some depth := rfl
            simp only [shallower, Option.bind_eq_bind, Option.bind_some, ih]
            constructor
            · intro ⟨bounded, total⟩
              refine ⟨⟨Nat.zero_le _, fun front isFront => ?_⟩, by omega⟩
              have bound := bounded front isFront
              omega
            · intro ⟨⟨_, bounded⟩, total⟩
              refine ⟨fun front isFront => ?_, by omega⟩
              have bound := bounded front isFront
              omega
      · have same : token.nest depth = some depth := by
          cases token with
          | plain c =>
              have unopening : c ≠ '(' := fun same => opens (by rw [same])
              have unclosing : c ≠ ')' := fun same => closes (by rw [same])
              exact nest_of_ne unopening unclosing
          | quoted text => rfl
          | comment text => rfl
        simp [same, opens, closes, ih]

theorem balanced_iff (items : List Token) :
    Balanced items ↔ items.foldlM Token.nest 0 = some 0 := by
  rw [foldlM_nest_iff]
  simp only [Nat.zero_add]
  constructor
  · intro balanced
    exact ⟨balanced.opened, balanced.closed⟩
  · intro ⟨opened, closed⟩
    exact ⟨opened, closed⟩

theorem cutBlock?_extend (found : cutBlock? cs = some (body, after)) (rest : List Char) :
    cutBlock? (cs ++ rest) = some (body, after ++ rest) := by
  fun_induction cutBlock? cs generalizing body after with
  | case1 => cases found
  | case2 later =>
      cases found
      simp [cutBlock?]
  | case3 c later unclosing ih =>
      obtain ⟨⟨inner, behind⟩, cut, same⟩ := Option.map_eq_some_iff.mp found
      cases same
      rw [List.cons_append, cutBlock?, ih cut]
      · rfl
      · intro more star slash
        cases later with
        | nil => cases cut
        | cons next others =>
            obtain ⟨rfl, _⟩ := List.cons_eq_cons.mp slash
            exact unclosing others star rfl

/-- Whether a mark of two characters starts with `c` before `rest`. -/
def Marks (c : Char) (rest : List Char) : Prop :=
  c = '-' ∧ rest.head? = some '-' ∨ c = '/' ∧ rest.head? = some '*'

theorem cutToken?_eq_none (unquoted : isQuote c = false) (apart : ¬ Marks c rest) :
    cutToken? (c :: rest) = none := by
  unfold cutToken?
  split <;> simp_all [isQuote, Marks]

theorem ne_plain_of_cut (found : cutToken? (c :: cs) = some (token, after)) (single : Char) :
    token ≠ .plain single := by
  intro same
  obtain ⟨_, _, cut, _⟩ | ⟨_, _, cut, _⟩ | ⟨_, cut, _⟩ := cut_cases found <;>
    rw [same] at cut <;> cases cut

theorem head_tokens_iff (cs : List Char) :
    (tokens cs).head? = some (.plain '*') ↔ cs.head? = some '*' := by
  cases cs with
  | nil => simp [tokens]
  | cons c rest =>
      constructor
      · intro star
        cases found : cutToken? (c :: rest) with
        | none =>
            rw [tokens_of_none found] at star
            simpa using star
        | some cut =>
            rw [tokens_of_cut found] at star
            exact absurd (Option.some.inj star) (ne_plain_of_cut found '*')
      · intro star
        obtain rfl : c = '*' := by simpa using star
        rw [tokens_of_none (cutToken?_eq_none (by decide) (by simp [Marks]))]
        rfl

theorem closed_cons_iff : Closed (token :: items) ↔
    (∀ c, token = .plain c → isQuote c = false) ∧
      ¬ (token = .plain '/' ∧ items.head? = some (.plain '*')) ∧ Closed items := by
  have starts : [.plain '/', .plain '*'] <+: token :: items ↔
      token = .plain '/' ∧ items.head? = some (.plain '*') := by
    cases items <;> simp [List.cons_prefix_cons, eq_comm]
  constructor
  · intro ⟨quotes, blocks⟩
    rw [List.infix_cons_iff, starts, not_or] at blocks
    refine ⟨fun c plain => quotes c (by simp [plain]), blocks.1, ?_, blocks.2⟩
    exact fun c member => quotes c (List.mem_cons_of_mem _ member)
  · intro ⟨unquoted, apart, closed⟩
    refine ⟨fun c member => ?_, ?_⟩
    · cases List.mem_cons.mp member with
      | inl here => exact unquoted c here.symm
      | inr later => exact closed.quotes c later
    · rw [List.infix_cons_iff, starts, not_or]
      exact ⟨apart, closed.blocks⟩

theorem closed_token_iff (found : cutToken? (c :: cs) = some (token, after)) :
    Closed (token :: items) ↔ Closed items := by
  simp [closed_cons_iff, ne_plain_of_cut found]

theorem nest_of_cut (found : cutToken? (c :: cs) = some (token, after)) (depth : Nat) :
    token.nest depth = some depth := by
  cases token with
  | plain single => exact absurd rfl (ne_plain_of_cut found single)
  | quoted text => rfl
  | comment text => rfl

theorem closed_plain_iff (none_found : cutToken? (c :: rest) = none) :
    Closed (.plain c :: tokens rest) ↔
      isQuote c = false ∧ ¬ Marks c rest ∧ Closed (tokens rest) := by
  have undashed : ¬ (c = '-' ∧ rest.head? = some '-') := by
    intro ⟨dash, dashes⟩
    cases rest with
    | nil => cases dashes
    | cons next later =>
        obtain rfl : next = '-' := by simpa using dashes
        rw [dash] at none_found
        simp [cutToken?] at none_found
  rw [closed_cons_iff, head_tokens_iff]
  simp [Marks, undashed]

@[elab_as_elim]
theorem tokens_induction {motive : List Char → Prop} (nil : motive [])
    (plain : ∀ c rest, cutToken? (c :: rest) = none → motive rest → motive (c :: rest))
    (cut : ∀ c rest token after, cutToken? (c :: rest) = some (token, after) → motive after →
      motive (c :: rest)) (cs : List Char) : motive cs := by
  induction cs using tokens.induct with
  | case1 => exact nil
  | case2 c rest ih =>
      cases found : cutToken? (c :: rest) with
      | none =>
          rw [firstToken, found] at ih
          exact plain c rest found ih
      | some first =>
          rw [firstToken, found] at ih
          exact cut c rest first.1 first.2 found ih

theorem line_append (cs rest : List Char) :
    (cs ++ '\n' :: rest).takeWhile (· != '\n') = cs.takeWhile (· != '\n') ∧
      (cs ++ '\n' :: rest).dropWhile (· != '\n') = cs.dropWhile (· != '\n') ++ '\n' :: rest := by
  induction cs with
  | nil => simp
  | cons c later ih => by_cases break_here : c = '\n' <;> simp [break_here, ih]

/-- A quoted token and a block comment end by themselves, any other before a line break. -/
theorem cutToken?_extend (found : cutToken? (c :: cs) = some (token, after)) (rest : List Char) :
    cutToken? (c :: cs ++ '\n' :: rest) = some (token, after ++ '\n' :: rest) := by
  cases token with
  | quoted text =>
      have whole : text ++ after = c :: cs := cutToken?_append found
      rw [← whole, List.append_assoc]
      exact cut_of_formed (formed_of_cut found) _
  | comment text =>
      unfold cutToken? at found
      split at found
      iterate 3
        obtain ⟨_, _, same⟩ := Option.map_eq_some_iff.mp found
        cases same
      · rename_i later same
        cases same
        cases found
        simp [cutToken?, line_append]
      · rename_i later same
        cases same
        obtain ⟨⟨body, behind⟩, cut, same⟩ := Option.map_eq_some_iff.mp found
        cases same
        simp [cutToken?, cutBlock?_extend cut]
      · cases found
  | plain single => exact absurd rfl (ne_plain_of_cut found single)

/-- What closes all it opens is read by itself before a line break. -/
theorem tokens_append_of_closed (closed : Closed (tokens cs)) (rest : List Char) :
    tokens (cs ++ '\n' :: rest) = tokens cs ++ tokens ('\n' :: rest) := by
  induction cs using tokens_induction with
  | nil => simp [tokens]
  | plain c later found ih =>
      rw [tokens_of_none found] at closed ⊢
      obtain ⟨unquoted, apart, closed⟩ := (closed_plain_iff found).mp closed
      have still : ¬ Marks c (later ++ '\n' :: rest) := by
        cases later <;> simp_all [Marks]
      rw [List.cons_append, tokens_of_none (cutToken?_eq_none unquoted still), ih closed]
      rfl
  | cut c later token after found ih =>
      rw [tokens_of_cut found] at closed ⊢
      have extended := cutToken?_extend found rest
      rw [List.cons_append] at extended ⊢
      rw [tokens_of_cut extended, ih ((closed_token_iff found).mp closed)]
      rfl

/-- Where a character stands; `star`, `slash` and `dash` are behind the first character of a
mark of two. -/
inductive Place where
  | outside
  | literal (quote : Char)
  | escaped (quote : Char)
  | name
  | line
  | block
  | star
  | slash
  | dash
deriving DecidableEq, Repr

def Place.isOutside : Place → Bool
  | .outside | .slash | .dash => true
  | _ => false

/-- The place behind a character that starts a token. -/
def Place.behind (c : Char) : Place :=
  if c = '\'' ∨ c = '"' then .literal c
  else if c = '\x60' then .name
  else if c = '/' then .slash
  else if c = '-' then .dash
  else .outside

def Place.next : Place → Char → Place
  | .outside, c => .behind c
  | .slash, c => if c = '*' then .block else .behind c
  | .dash, c => if c = '-' then .line else .behind c
  | .literal quote, c =>
      if c = quote then .outside else if c = '\\' then .escaped quote else .literal quote
  | .escaped quote, _ => .literal quote
  | .name, c => if c = '\x60' then .outside else .name
  | .line, c => if c = '\n' then .outside else .line
  | .block, c => if c = '*' then .star else .block
  | .star, c => if c = '/' then .outside else if c = '*' then .star else .block

/-- Whether a text, read from a place inside this many parentheses, ends outside with all of
them closed.  A line break follows, which ends a comment. -/
def closesFrom : Place → Nat → List Char → Bool
  | place, depth, [] => (place.isOutside || place == .line) && depth == 0
  | place, depth, c :: rest =>
      if place.isOutside then
        match nest depth c with
        | none => false
        | some depth => closesFrom (place.next c) depth rest
      else closesFrom (place.next c) depth rest

def closesAll (cs : List Char) : Bool :=
  closesFrom .outside 0 cs

/-- A token is passed over when its end is found; without an end nothing closes. -/
def closesBehind (depth : Nat) : Option (List Char × List Char) → Bool
  | none => false
  | some (_, after) => closesFrom .outside depth after

theorem closesBehind_map (push : List Char → List Char) (depth : Nat)
    (cut : Option (List Char × List Char)) :
    closesBehind depth (cut.map fun (body, after) => (push body, after)) =
      closesBehind depth cut := by
  cases cut <;> rfl

theorem closesFrom_inside {place : Place} (inside : place.isOutside = false) :
    closesFrom place depth (c :: cs) = closesFrom (place.next c) depth cs := by
  simp [closesFrom, inside]

theorem closesFrom_literal (quote : Char) (escaped : Bool) (depth : Nat) (cs : List Char) :
    closesFrom (if escaped then .escaped quote else .literal quote) depth cs =
      closesBehind depth (scan quote escaped cs) := by
  induction cs generalizing escaped with
  | nil => cases escaped <;> rfl
  | cons c rest ih =>
      cases escaped with
      | true =>
          have inner := ih false
          rw [if_pos rfl, closesFrom_inside rfl, scan, closesBehind_map]
          exact inner
      | false =>
          have inner := ih (c == '\\')
          simp only [Bool.false_eq_true, if_false, scan]
          rw [closesFrom_inside rfl]
          by_cases closes : c = quote
          · simp [closes, Place.next, closesBehind]
          · rw [if_neg closes, closesBehind_map, ← inner]
            by_cases escapes : c = '\\'
            · subst escapes
              simp [Place.next, closes]
            · simp [Place.next, closes, escapes]

theorem closesFrom_name (depth : Nat) (cs : List Char) :
    closesFrom .name depth cs = closesBehind depth (cutName? cs) := by
  induction cs with
  | nil => rfl
  | cons c rest ih =>
      rw [closesFrom_inside rfl, cutName?]
      by_cases closes : c = '\x60'
      · simp [closes, Place.next, closesBehind]
      · rw [if_neg closes, closesBehind_map, ← ih]
        simp [Place.next, closes]

theorem closesFrom_block (depth : Nat) (cs : List Char) :
    closesFrom .block depth cs = closesBehind depth (cutBlock? cs) ∧
      closesFrom .star depth cs = closesBehind depth (cutBlock? ('*' :: cs)) := by
  induction cs with
  | nil => exact ⟨rfl, rfl⟩
  | cons c rest ih =>
      obtain ⟨inBlock, behindStar⟩ := ih
      have block : closesFrom .block depth (c :: rest) =
          closesBehind depth (cutBlock? (c :: rest)) := by
        rw [closesFrom_inside rfl]
        by_cases star : c = '*'
        · simpa [star, Place.next] using behindStar
        · rw [cutBlock?, closesBehind_map, ← inBlock]
          · simp [Place.next, star]
          · exact fun _ same => absurd same star
      refine ⟨block, ?_⟩
      rw [closesFrom_inside rfl]
      by_cases slash : c = '/'
      · simp [slash, Place.next, cutBlock?, closesBehind]
      · rw [cutBlock?, closesBehind_map, ← block, closesFrom_inside rfl]
        · simp [Place.next, slash]
        · intro later _ same
          exact slash (List.cons_eq_cons.mp same).1

theorem closesFrom_line (depth : Nat) (cs : List Char) :
    closesFrom .line depth cs = closesFrom .outside depth (cs.dropWhile (· != '\n')) := by
  induction cs with
  | nil => rfl
  | cons c rest ih =>
      rw [closesFrom_inside rfl]
      by_cases ends : c = '\n'
      · simp [ends, Place.next, closesFrom, nest, Place.isOutside, Place.behind]
      · simp [ends, Place.next, ih]

theorem closesFrom_outside (depth : Nat) (c : Char) (rest : List Char) :
    closesFrom .outside depth (c :: rest) =
      (nest depth c).elim false fun depth => closesFrom (.behind c) depth rest := by
  have outside : Place.outside.isOutside = true := rfl
  rw [closesFrom, if_pos outside]
  cases nest depth c <;> rfl

/-- Behind the first character of a mark that does not go on, all is as if outside. -/
theorem closesFrom_behind (unquoted : isQuote c = false) (apart : ¬ Marks c rest) (depth : Nat) :
    closesFrom (.behind c) depth rest = closesFrom .outside depth rest := by
  have unliteral : ¬ (c = '\'' ∨ c = '"') ∧ c ≠ '\x60' := by simpa [isQuote] using unquoted
  rw [Place.behind, if_neg unliteral.1, if_neg unliteral.2]
  by_cases slash : c = '/'
  · rw [if_pos slash]
    cases rest with
    | nil => rfl
    | cons next later =>
        have starless : next ≠ '*' := by simpa [Marks, slash] using apart
        simp [closesFrom, Place.next, Place.isOutside, starless]
  rw [if_neg slash]
  by_cases dash : c = '-'
  · rw [if_pos dash]
    cases rest with
    | nil => rfl
    | cons next later =>
        have dashless : next ≠ '-' := by simpa [Marks, dash] using apart
        simp [closesFrom, Place.next, Place.isOutside, dashless]
  · rw [if_neg dash]

theorem closesFrom_quote (mark : quote = '\'' ∨ quote = '"') (depth : Nat) (rest : List Char) :
    closesFrom .outside depth (quote :: rest) = closesBehind depth (scan quote false rest) := by
  have behind : Place.behind quote = .literal quote := if_pos mark
  have level : nest depth quote = some depth := by
    obtain rfl | rfl := mark <;> rfl
  rw [closesFrom_outside, level, behind]
  exact closesFrom_literal quote false depth rest

theorem closesFrom_cut (found : cutToken? (c :: rest) = some (token, after)) (depth : Nat) :
    closesFrom .outside depth (c :: rest) = closesFrom .outside depth after := by
  obtain ⟨body, mark, rfl, cut⟩ | ⟨body, rfl, rfl, cut⟩ | ⟨text, rfl, _⟩ := cut_cases found
  · rw [closesFrom_quote mark, cut]
    rfl
  · have named : closesFrom .outside depth ('\x60' :: rest) = closesFrom .name depth rest := rfl
    rw [named, closesFrom_name, cut]
    rfl
  · unfold cutToken? at found
    split at found
    iterate 3
      obtain ⟨_, _, same⟩ := Option.map_eq_some_iff.mp found
      cases same
    · rename_i later same
      cases same
      cases found
      have lined : closesFrom .outside depth ('-' :: '-' :: later) = closesFrom .line depth later :=
        rfl
      rw [lined, closesFrom_line]
    · rename_i later same
      cases same
      obtain ⟨_, cut, same⟩ := Option.map_eq_some_iff.mp found
      cases same
      have blocked : closesFrom .outside depth ('/' :: '*' :: later) =
        closesFrom .block depth later := rfl
      rw [blocked, (closesFrom_block depth later).1, cut]
      rfl
    · cases found

/-- A mark that nothing closes leaves the rest of the text inside. -/
theorem closesFrom_stray (none_found : cutToken? (c :: rest) = none)
    (stray : isQuote c = true ∨ Marks c rest) (depth : Nat) :
    closesFrom .outside depth (c :: rest) = false := by
  obtain quoted | ⟨rfl, dashes⟩ | ⟨rfl, star⟩ := stray
  · by_cases named : c = '\x60'
    · subst named
      have endless : cutName? rest = none := by simpa [cutToken?] using none_found
      have inName : closesFrom .outside depth ('\x60' :: rest) = closesFrom .name depth rest := rfl
      rw [inName, closesFrom_name, endless]
      rfl
    · have mark : c = '\'' ∨ c = '"' := by simpa [isQuote, named] using quoted
      have endless : scan c false rest = none := by
        obtain rfl | rfl := mark <;> simpa [cutToken?, cutLiteral?_eq_scan] using none_found
      rw [closesFrom_quote mark, endless]
      rfl
  · cases rest with
    | nil => cases dashes
    | cons next later =>
        obtain rfl : next = '-' := by simpa using dashes
        simp [cutToken?] at none_found
  · cases rest with
    | nil => cases star
    | cons next later =>
        obtain rfl : next = '*' := by simpa using star
        have blocked : closesFrom .outside depth ('/' :: '*' :: later) =
          closesFrom .block depth later := rfl
        have endless : cutBlock? later = none := by simpa [cutToken?] using none_found
        rw [blocked, (closesFrom_block depth later).1, endless]
        rfl

theorem closesFrom_iff (depth : Nat) (cs : List Char) :
    closesFrom .outside depth cs = true ↔
      Closed (tokens cs) ∧ (tokens cs).foldlM Token.nest depth = some 0 := by
  induction cs using tokens_induction generalizing depth with
  | nil =>
      have closed : Closed [] := ⟨by simp, by simp⟩
      simp [tokens, closesFrom, Place.isOutside, closed]
  | plain c rest found ih =>
      rw [tokens_of_none found, closed_plain_iff found]
      by_cases stray : isQuote c = true ∨ Marks c rest
      · rw [closesFrom_stray found stray]
        refine iff_of_false Bool.false_ne_true fun closed => ?_
        obtain ⟨⟨unquoted, apart, _⟩, _⟩ := closed
        cases stray with
        | inl quoted => exact Bool.false_ne_true (unquoted.symm.trans quoted)
        | inr marks => exact apart marks
      · obtain ⟨unquoted, apart⟩ := not_or.mp stray
        have unquoted : isQuote c = false := Bool.eq_false_iff.mpr unquoted
        simp only [closesFrom_outside, closesFrom_behind unquoted apart, List.foldlM_cons,
          Token.nest, unquoted, apart, not_false_eq_true, true_and]
        cases nest depth c with
        | none => simp
        | some deeper => exact ih deeper
  | cut c rest token after found ih =>
      rw [tokens_of_cut found, closed_token_iff found, closesFrom_cut found, ih, List.foldlM_cons,
        nest_of_cut found]
      rfl

theorem closesAll_iff (cs : List Char) :
    closesAll cs = true ↔ Closed (tokens cs) ∧ Balanced (tokens cs) := by
  rw [balanced_iff]
  exact closesFrom_iff 0 cs

end CheckKeeper.Sql
