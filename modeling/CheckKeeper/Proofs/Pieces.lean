import CheckKeeper.Proofs.Closing

namespace CheckKeeper.Sql

/-! Texts that are put together of pieces.

Each piece stands for itself: no token begins in one and ends in another.  So comments are
cut out piece by piece, and the guard sees of quoted pieces and comments only that they are
there, not what is in them.
-/

variable {quote c : Char} {body content rest : List Char}

inductive Piece where
  | literal (quote : Char) (body : List Char)
  | name (body : List Char)
  | line (content : List Char)
  | block (content : List Char)
  | plain (text : List Char)
deriving DecidableEq, Repr

/-- Characters that do not end a literal; a backslash takes the next one with it. -/
inductive LiteralBody (quote : Char) : List Char → Prop
  | nil : LiteralBody quote []
  | ordinary {c : Char} {body : List Char} (other : c ≠ quote) (unescaping : c ≠ '\\')
      (later : LiteralBody quote body) : LiteralBody quote (c :: body)
  | escaped (c : Char) {body : List Char} (later : LiteralBody quote body) :
      LiteralBody quote ('\\' :: c :: body)

/-- Text that opens no token, neither by itself nor together with what follows it. -/
structure PlainText (text : List Char) : Prop where
  unquoted : ∀ c ∈ text, isQuote c = false
  dashes : ¬ ['-', '-'] <:+: text
  opening : ¬ ['/', '*'] <:+: text
  dash : text.getLast? ≠ some '-'
  slash : text.getLast? ≠ some '/'

namespace Piece

def text : Piece → List Char
  | literal quote body => quote :: (body ++ [quote])
  | name body => '\x60' :: (body ++ ['\x60'])
  | line content => '-' :: '-' :: content
  | block content => '/' :: '*' :: (content ++ ['*', '/'])
  | plain text => text

def isComment : Piece → Bool
  | line _ | block _ => true
  | _ => false

def Sound : Piece → Prop
  | literal quote body => (quote = '\'' ∨ quote = '"') ∧ LiteralBody quote body
  | name body => '\x60' ∉ body
  | line content => '\n' ∉ content
  | block content => ¬ ['*', '/'] <:+: content
  | plain text => PlainText text

/-- The piece with nothing between its marks. -/
def outline : Piece → Piece
  | literal quote _ => literal quote []
  | name _ => name []
  | line _ => line []
  | block _ => block []
  | plain text => plain text

def tokens : Piece → List Token
  | plain text => text.map .plain
  | piece => [if piece.isComment then .comment piece.text else .quoted piece.text]

end Piece

def joined (pieces : List Piece) : List Char :=
  pieces.flatMap Piece.text

/-- What ends a comment that goes to the end of its line. -/
def EndsLine (rest : List Char) : Prop :=
  rest = [] ∨ rest.head? = some '\n'

/-- Sound pieces one after another, line comments each at the end of a line. -/
def SoundText : List Piece → Prop
  | [] => True
  | piece :: later =>
      piece.Sound ∧ (∀ content, piece = .line content → EndsLine (joined later)) ∧ SoundText later

theorem SoundText.each {pieces : List Piece} {piece : Piece} (sound : SoundText pieces)
    (inside : piece ∈ pieces) : piece.Sound := by
  induction pieces with
  | nil => cases inside
  | cons first later ih =>
      cases List.mem_cons.mp inside with
      | inl here => exact here ▸ sound.1
      | inr behind => exact ih sound.2.2 behind

theorem scan_literalBody (mark : quote = '\'' ∨ quote = '"') (inside : LiteralBody quote body)
    (rest : List Char) :
    scan quote false (body ++ quote :: rest) = some (body ++ [quote], rest) := by
  induction inside with
  | nil => simp [scan]
  | ordinary other unescaping later ih =>
      rw [List.cons_append, scan_ordinary other (by simpa using unescaping), ih]
      rfl
  | escaped c later ih =>
      have apart : '\\' ≠ quote := by
        rcases mark with rfl | rfl <;> decide
      simp [scan, apart, ih]

theorem cutBlock?_content (unclosed : ¬ ['*', '/'] <:+: content) (rest : List Char) :
    cutBlock? (content ++ '*' :: '/' :: rest) = some (content ++ ['*', '/'], rest) := by
  induction content with
  | nil => simp [cutBlock?]
  | cons c later ih =>
      rw [List.infix_cons_iff, not_or] at unclosed
      rw [List.cons_append, cutBlock?, ih unclosed.2]
      · rfl
      · intro behind star slash
        cases later with
        | nil => simp at slash
        | cons next more => simp_all [List.cons_prefix_cons]

theorem cutToken?_line (unbroken : '\n' ∉ content) (ends : EndsLine rest) :
    cutToken? ('-' :: '-' :: (content ++ rest)) = some (.comment ('-' :: '-' :: content), rest) := by
  have all_inside : ∀ c ∈ content, (c != '\n') = true := by
    intro c inside
    simpa using ne_of_mem_of_not_mem inside unbroken
  have stops : rest.takeWhile (· != '\n') = [] ∧ rest.dropWhile (· != '\n') = rest := by
    rcases ends with rfl | head
    · exact ⟨rfl, rfl⟩
    · cases rest with
      | nil => cases head
      | cons next later =>
          obtain rfl : next = '\n' := by simpa using head
          simp
  simp only [cutToken?, List.takeWhile_append_of_pos all_inside,
    List.dropWhile_append_of_pos all_inside, stops, List.append_nil]

theorem PlainText.tail (plain : PlainText (c :: content)) : PlainText content where
  unquoted next inside := plain.unquoted next (List.mem_cons_of_mem _ inside)
  dashes inside := plain.dashes (List.infix_cons inside)
  opening inside := plain.opening (List.infix_cons inside)
  dash last := plain.dash (by simp [List.getLast?_cons, last])
  slash last := plain.slash (by simp [List.getLast?_cons, last])

theorem PlainText.not_marks (plain : PlainText (c :: content)) (rest : List Char) :
    ¬ Marks c (content ++ rest) := by
  obtain ⟨_, dashes, opening, dash, slash⟩ := plain
  cases content with
  | nil =>
      simp only [List.getLast?_singleton, ne_eq, Option.some.injEq] at dash slash
      simp [Marks, dash, slash]
  | cons next later =>
      intro marks
      rcases marks with ⟨rfl, head⟩ | ⟨rfl, head⟩
      · obtain rfl : next = '-' := by simpa using head
        exact dashes (List.prefix_append ['-', '-'] later).isInfix
      · obtain rfl : next = '*' := by simpa using head
        exact opening (List.prefix_append ['/', '*'] later).isInfix

theorem tokens_plainText (plain : PlainText content) (rest : List Char) :
    tokens (content ++ rest) = content.map .plain ++ tokens rest := by
  induction content with
  | nil => rfl
  | cons c later ih =>
      have none_cut : cutToken? (c :: (later ++ rest)) = none :=
        cutToken?_eq_none (plain.unquoted c List.mem_cons_self) (plain.not_marks rest)
      rw [List.cons_append, tokens_of_none none_cut, ih plain.tail]
      rfl

theorem Piece.tokens_append {piece : Piece} (sound : piece.Sound)
    (ends : ∀ content, piece = .line content → EndsLine rest) :
    Sql.tokens (piece.text ++ rest) = piece.tokens ++ Sql.tokens rest := by
  cases piece with
  | literal quote body =>
      obtain ⟨mark, inside⟩ := sound
      have formed : Formed (.quoted (quote :: (body ++ [quote]))) := by
        refine .literal mark fun later => ?_
        rw [List.append_assoc]
        exact scan_literalBody mark inside later
      exact tokens_of_formed formed rest
  | name body =>
      have formed : Formed (.quoted ('\x60' :: (body ++ ['\x60']))) := by
        refine .name fun later => ?_
        rw [List.append_assoc]
        exact cutName?_body sound later
      exact tokens_of_formed formed rest
  | line content => exact tokens_of_cut (cutToken?_line sound (ends content rfl))
  | block content =>
      have cut : cutToken? ('/' :: '*' :: (content ++ '*' :: '/' :: rest)) =
          some (.comment ('/' :: '*' :: (content ++ ['*', '/'])), rest) := by
        simp [cutToken?, cutBlock?_content sound]
      have same : (Piece.block content).text ++ rest =
          '/' :: '*' :: (content ++ '*' :: '/' :: rest) := by
        simp [Piece.text]
      rw [same]
      exact tokens_of_cut cut
  | plain text => exact tokens_plainText sound rest

/-- No token crosses from one piece to the next. -/
theorem tokens_joined {pieces : List Piece} (sound : SoundText pieces) :
    tokens (joined pieces) = pieces.flatMap Piece.tokens := by
  induction pieces with
  | nil => simp [joined, tokens]
  | cons piece later ih =>
      obtain ⟨here, ends, sound⟩ := sound
      have split : joined (piece :: later) = piece.text ++ joined later := List.flatMap_cons
      rw [split, piece.tokens_append here ends, ih sound, List.flatMap_cons]

theorem Piece.kept_tokens (piece : Piece) :
    piece.tokens.flatMap Token.kept = if piece.isComment then [] else piece.text := by
  cases piece with
  | plain text => simp [Piece.tokens, Piece.isComment, Piece.text, List.flatMap_map, Token.kept]
  | _ => simp [Piece.tokens, Piece.isComment, Piece.text, Token.kept]

theorem Piece.emptied_tokens (piece : Piece) :
    piece.tokens.flatMap Token.emptied = piece.outline.tokens.flatMap Token.emptied := by
  cases piece <;> simp [Piece.tokens, Piece.outline, Piece.isComment, Piece.text, Token.emptied]

theorem Piece.head_text (piece : Piece) : piece.text.head? = piece.outline.text.head? := by
  cases piece <;> rfl

theorem head_joined (pieces : List Piece) :
    (joined pieces).head? = (joined (pieces.map Piece.outline)).head? := by
  unfold joined
  induction pieces with
  | nil => rfl
  | cons piece later ih =>
      rw [List.map_cons, List.flatMap_cons, List.flatMap_cons, List.head?_append,
        List.head?_append, ih, piece.head_text]

theorem endsLine_iff : EndsLine rest ↔ rest.head? = none ∨ rest.head? = some '\n' := by
  rw [EndsLine, List.head?_eq_none_iff]

/-- Whether a line comment stands at the end of a line does not depend on the contents of
the pieces behind it. -/
theorem SoundText.of_outline {pieces others : List Piece} (sound : SoundText pieces)
    (each : ∀ other ∈ others, other.Sound)
    (same : others.map Piece.outline = pieces.map Piece.outline) : SoundText others := by
  induction others generalizing pieces with
  | nil => trivial
  | cons other others ih =>
      cases pieces with
      | nil => cases same
      | cons piece later =>
          obtain ⟨same_piece, same_later⟩ := List.cons_eq_cons.mp same
          obtain ⟨_, ends, sound⟩ := sound
          refine ⟨each other List.mem_cons_self, ?_, ih sound (fun more inside =>
            each more (List.mem_cons_of_mem _ inside)) same_later⟩
          intro content is_line
          subst is_line
          have head : (joined others).head? = (joined later).head? := by
            rw [head_joined, same_later, ← head_joined]
          rw [endsLine_iff, head, ← endsLine_iff]
          cases piece with
          | line content' => exact ends content' rfl
          | _ => cases same_piece

theorem stripComments_joined {pieces : List Piece} (sound : SoundText pieces) :
    stripComments (joined pieces) = joined (pieces.filter (!·.isComment)) := by
  rw [stripComments, tokens_joined sound, List.flatMap_assoc, joined]
  induction pieces with
  | nil => rfl
  | cons piece later ih =>
      rw [List.flatMap_cons, ih sound.2.2, piece.kept_tokens, List.filter_cons]
      cases piece.isComment <;> simp

theorem emptyQuoted_joined {pieces : List Piece} (sound : SoundText pieces) :
    emptyQuoted (joined pieces) =
      (pieces.map Piece.outline).flatMap fun piece => piece.tokens.flatMap Token.emptied := by
  rw [emptyQuoted, tokens_joined sound, List.flatMap_assoc, List.flatMap_map]
  congr 1
  funext piece
  exact piece.emptied_tokens

/-- Of a text that is put together of pieces, the comments are taken out and the rest is left
as it is, and the verdict is the same whatever the quoted pieces and the comments say. -/
theorem lexing_of_pieces {pieces : List Piece} (sound : SoundText pieces) :
    stripComments (joined pieces) = joined (pieces.filter (!·.isComment)) ∧
    ∀ others : List Piece, (∀ other ∈ others, other.Sound) →
      others.map Piece.outline = pieces.map Piece.outline →
      checkReadOnly (joined others) = checkReadOnly (joined pieces) := by
  refine ⟨stripComments_joined sound, ?_⟩
  intro others each same
  have emptied : emptyQuoted (joined others) = emptyQuoted (joined pieces) := by
    rw [emptyQuoted_joined (sound.of_outline each same), emptyQuoted_joined sound, same]
  unfold checkReadOnly
  rw [emptied]

/-- A query that says the same in a literal, in a name and in two comments. -/
def sayingOften (content : List Char) : List Piece :=
  [.plain ['W', 'I', 'T', 'H', ' '], .literal '\'' content, .block content, .name content,
    .line content, .plain ['\n', ';']]

theorem soundText_sayingOften {content : List Char} (in_literal : LiteralBody '\'' content)
    (in_name : '\x60' ∉ content) (in_line : '\n' ∉ content) (in_block : ¬ ['*', '/'] <:+: content) :
    SoundText (sayingOften content) := by
  have first : PlainText ['W', 'I', 'T', 'H', ' '] := by
    constructor <;> simp [List.infix_cons_iff, isQuote]
  have last : PlainText ['\n', ';'] := by
    constructor <;> simp [List.infix_cons_iff, isQuote]
  simp [sayingOften, SoundText, Piece.Sound, EndsLine, joined, Piece.text, *]

theorem lexing_of_sayingOften :
    SoundText (sayingOften ['-', '-', '"']) ∧
      stripComments (joined (sayingOften ['-', '-', '"'])) =
        "WITH '--\"'\x60--\"\x60\n;".toList ∧
      checkReadOnly (joined (sayingOften [])) =
        checkReadOnly (joined (sayingOften ['-', '-', '"'])) := by
  have in_literal : LiteralBody '\'' ['-', '-', '"'] :=
    .ordinary (by decide) (by decide) (.ordinary (by decide) (by decide)
      (.ordinary (by decide) (by decide) .nil))
  have sound : SoundText (sayingOften ['-', '-', '"']) :=
    soundText_sayingOften in_literal (by decide) (by decide) (by decide)
  have other_sound : SoundText (sayingOften []) :=
    soundText_sayingOften .nil (by decide) (by decide) (by decide)
  obtain ⟨stripped, judged⟩ := lexing_of_pieces sound
  exact ⟨sound, stripped.trans rfl, judged (sayingOften []) (fun _ => other_sound.each) rfl⟩

end CheckKeeper.Sql
