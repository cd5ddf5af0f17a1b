import CheckKeeper.Proofs.Closing
import CheckKeeper.Proofs.Embedding
import CheckKeeper.Proofs.Statement

namespace CheckKeeper.Compile

/-! The queries of a consistency check inside its statement.

Each query is written between parentheses of its own, on lines of its own.  A query that closes
all it opens is read there as it is read alone, and the parenthesis behind it is the one that
ends it.  The guard does not ask for that.
-/

open Sql

variable {c : Char} {cs xs ys lead body : List Char} {items inside behind : List Token}
  {depth deeper : Nat} {results source target sql : String} {table : Value}

/-- A text that is read the same whatever follows it, and leaves that to be read as it is. -/
def Standalone (cs : List Char) : Prop :=
  ∀ rest, tokens (cs ++ rest) = tokens cs ++ tokens rest

/-- A character that neither quotes nor can start a mark. -/
def isOrdinary (c : Char) : Bool :=
  !isQuote c && c != '/' && c != '-'

theorem tokens_ordinary (ordinary : isOrdinary c = true) (rest : List Char) :
    tokens (c :: rest) = .plain c :: tokens rest := by
  have unlike : (isQuote c = false ∧ c ≠ '/') ∧ c ≠ '-' := by simpa [isOrdinary] using ordinary
  exact tokens_of_none (cutToken?_eq_none unlike.1.1 (by simp [Marks, unlike]))

theorem standalone_ordinary (ordinary : cs.all isOrdinary = true) : Standalone cs := by
  intro rest
  induction cs with
  | nil => simp [tokens]
  | cons c later ih =>
      rw [List.all_cons, Bool.and_eq_true] at ordinary
      rw [List.cons_append, tokens_ordinary ordinary.1, tokens_ordinary ordinary.1,
        ih ordinary.2]
      rfl

theorem Standalone.append (first : Standalone xs) (second : Standalone ys) :
    Standalone (xs ++ ys) := by
  intro rest
  rw [List.append_assoc, first, second, first, List.append_assoc]

theorem standalone_line (closed : Closed (tokens cs)) : Standalone (cs ++ ['\n']) := by
  have newline (rest : List Char) : tokens ('\n' :: rest) = .plain '\n' :: tokens rest :=
    tokens_ordinary (by decide) rest
  intro rest
  have alone := tokens_append_of_closed closed []
  have before := tokens_append_of_closed closed rest
  simp only [newline, tokens] at alone before
  simp [alone, before]

theorem standalone_of_isQuoted (quoted : IsQuoted results) : Standalone results.toList := by
  obtain ⟨name, rfl, plain⟩ := quoted
  have spelled : (backQuoted name).toList = '\x60' :: (name.toList ++ ['\x60']) := by
    simp [backQuoted]
  have formed : Formed (.quoted ('\x60' :: (name.toList ++ ['\x60']))) := by
    refine .name fun rest => ?_
    rw [List.append_assoc]
    exact cutName?_body plain rest
  intro rest
  have alone := tokens_of_formed formed []
  rw [List.append_nil] at alone
  rw [spelled, tokens_of_formed formed rest, alone]
  simp [tokens]

theorem standalone_insertLine (accepted : pathOf table = .ok results) :
    Standalone (insertLine results).toList := by
  have front : Standalone "INSERT INTO ".toList := standalone_ordinary (by decide)
  have back : Standalone (" (" ++ resultColumns ++ ")").toList := standalone_ordinary (by decide)
  have whole := (front.append (standalone_of_isQuoted (isQuoted_of_pathOf accepted))).append back
  simpa [insertLine] using whole

/-- The tokens inside a parenthesis and those behind its end. -/
def cutGroup? : Nat → List Token → Option (List Token × List Token)
  | _, [] => none
  | depth, token :: rest =>
      match token.nest depth with
      | none => some ([], rest)
      | some depth => (cutGroup? depth rest).map fun (inside, behind) => (token :: inside, behind)

theorem cutGroup?_append (level : items.foldlM Token.nest depth = some deeper)
    (found : cutGroup? deeper behind = some (inside, rest)) :
    cutGroup? depth (items ++ behind) = some (items ++ inside, rest) := by
  induction items generalizing depth with
  | nil =>
      cases level
      exact found
  | cons token later ih =>
      rw [List.foldlM_cons] at level
      cases step : token.nest depth with
      | none => simp [step] at level
      | some next =>
          rw [step] at level
          simp [cutGroup?, step, ih level]

/-- A statement holds a query between parentheses on lines of its own: it is read as what stands
before, the query, and what stands behind are read, and the parenthesis before the query is
closed by the one behind it. -/
structure Encloses (statement lead body rest : List Char) : Prop where
  written : statement = lead ++ '(' :: '\n' :: (body ++ '\n' :: ')' :: rest)
  read : tokens statement = tokens lead ++ .plain '(' ::
    .plain '\n' :: (tokens body ++ .plain '\n' :: .plain ')' :: tokens rest)
  ends : cutGroup? 0 (.plain '\n' :: (tokens body ++ .plain '\n' :: .plain ')' :: tokens rest)) =
    some (.plain '\n' :: (tokens body ++ [.plain '\n']), tokens rest)

theorem encloses_of_closed (standalone : Standalone lead) (closed : Closed (tokens body))
    (balanced : Balanced (tokens body)) (rest : List Char) :
    Encloses (lead ++ '(' :: '\n' :: (body ++ '\n' :: ')' :: rest)) lead body rest where
  written := rfl
  read := by
    have plain (c : Char) (ordinary : isOrdinary c = true) (rest : List Char) :=
      tokens_ordinary ordinary rest
    rw [standalone, plain '(' (by decide), plain '\n' (by decide), tokens_append_of_closed closed,
      plain '\n' (by decide), plain ')' (by decide)]
  ends := by
    have level := (balanced_iff _).mp balanced
    have last : cutGroup? 0 (.plain '\n' :: .plain ')' :: tokens rest) =
        some ([.plain '\n'], tokens rest) := rfl
    have whole := cutGroup?_append level last
    have first : Token.nest 0 (.plain '\n') = some 0 := rfl
    rw [cutGroup?, first]
    simp [whole]

def sourceLead (results : String) : List Char :=
  (insertLine results).toList ++ "\nWITH source_rows AS ".toList

def targetLead (results source : String) : List Char :=
  sourceLead results ++ ("(\n".toList ++ (source.toList ++ ['\n'] ++ "),\ntarget_rows AS ".toList))

theorem joinLines_eq {lines : List String} (given : ∀ line ∈ lines, line ≠ "") :
    joinLines lines = Text.join "\n" lines := by
  have kept : lines.filter (· != "") = lines := by
    rw [List.filter_eq_self]
    intro line member
    simpa using given line member
  rw [joinLines, kept]

theorem consistencyStatement_eq (results : String) (has_source : source ≠ "")
    (has_target : target ≠ "") :
    ∃ rest, (consistencyStatement results source target).toList =
      targetLead results source ++ '(' :: '\n' :: (target.toList ++ '\n' :: ')' :: rest) := by
  have has_insert : insertLine results ≠ "" := by simp [insertLine]
  have headed (next : String) (later : List String) :
      (Text.join "\n" (insertLine results :: "WITH source_rows AS (" :: source :: ")," ::
        "target_rows AS (" :: target :: ")," :: next :: later)).toList =
      targetLead results source ++ '(' :: '\n' :: (target.toList ++ '\n' :: ')' ::
        ',' :: '\n' :: (Text.join "\n" (next :: later)).toList) := by
    simp [Text.join, String.intercalate_cons_cons, targetLead, sourceLead]
  rw [consistencyStatement, joinLines_eq (by simp [has_insert, has_source, has_target]), headed]
  exact ⟨_, rfl⟩

/-- A query closes all it opens, and so is enclosed in a statement as either of its queries. -/
structure Contained (body : String) : Prop where
  closed : Closed (tokens body.toList)
  balanced : Balanced (tokens body.toList)
  as_source {table : Value} {results target : String} (accepted : pathOf table = .ok results)
    (given : target ≠ "") :
    ∃ rest, Encloses (consistencyStatement results body target).toList (sourceLead results)
      body.toList rest
  as_target {table : Value} {results source : String} (accepted : pathOf table = .ok results)
    (given : source ≠ "") (closed : Closed (tokens source.toList)) :
    ∃ rest, Encloses (consistencyStatement results source body).toList (targetLead results source)
      body.toList rest

theorem standalone_sourceLead (accepted : pathOf table = .ok results) :
    Standalone (sourceLead results) :=
  (standalone_insertLine accepted).append (standalone_ordinary (by decide))

theorem standalone_targetLead (accepted : pathOf table = .ok results)
    (closed : Closed (tokens source.toList)) : Standalone (targetLead results source) := by
  have opening : Standalone "(\n".toList := standalone_ordinary (by decide)
  have between : Standalone "),\ntarget_rows AS ".toList := standalone_ordinary (by decide)
  have query := (standalone_line closed).append between
  exact (standalone_sourceLead accepted).append (opening.append query)

theorem contained_of_closed {body : String} (given : body ≠ "")
    (closed : Closed (tokens body.toList)) (balanced : Balanced (tokens body.toList)) :
    Contained body where
  closed := closed
  balanced := balanced
  as_source := by
    intro table results target accepted has_target
    obtain ⟨rest, written⟩ := consistencyStatement_eq results given has_target
    have split : (consistencyStatement results body target).toList = sourceLead results ++
        '(' :: '\n' :: (body.toList ++ '\n' :: ')' :: (",\ntarget_rows AS (\n".toList ++
          (target.toList ++ '\n' :: ')' :: rest))) := by
      simp [written, targetLead]
    rw [split]
    exact ⟨_, encloses_of_closed (standalone_sourceLead accepted) closed balanced _⟩
  as_target := by
    intro table results source accepted has_source source_closed
    obtain ⟨rest, written⟩ := consistencyStatement_eq results has_source given
    rw [written]
    exact ⟨rest,
      encloses_of_closed (standalone_targetLead accepted source_closed) closed balanced rest⟩

/-- The words that are asked for stand outside quotes, so there is something to embed. -/
theorem embeddedBody_ne_nil (accepted : checkReadOnly cs = .ok ()) : embeddedBody cs ≠ [] := by
  obtain ⟨harmless, -⟩ := harmless_embedded accepted
  rw [embeddedBody_eq]
  intro empty
  have blank : (embedded cs).flatMap Token.emptied = [] := by
    rw [List.flatMap_eq_nil_iff] at empty ⊢
    intro token member
    have kept := empty token member
    cases token with
    | quoted text =>
        have bare : text = [] := kept
        simp [Token.emptied, bare]
    | comment text => rfl
    | plain c => cases kept
  rw [blank] at harmless
  obtain leads | leads := harmless.leads <;> exact absurd leads (by decide)

/-- Whatever the guard accepts is contained exactly if one pass over what is embedded ends
outside all quotes, comments and parentheses. -/
theorem accepted_contained_iff (sql : String) :
    (∀ body, prepare sql = .ok body → Contained body) ↔
      (checkReadOnly sql.toList = .ok () → closesAll (embeddedBody sql.toList) = true) := by
  constructor
  · intro contained accepted
    have prepared : prepare sql = .ok (String.ofList (embeddedBody sql.toList)) :=
      prepare_eq_ok_iff.mpr ⟨accepted, by simp⟩
    have embedded := contained _ prepared
    rw [closesAll_iff]
    simpa using And.intro embedded.closed embedded.balanced
  · intro closes body prepared
    obtain ⟨accepted, same⟩ := prepare_eq_ok_iff.mp prepared
    have given : body ≠ "" := by
      intro empty
      exact embeddedBody_ne_nil accepted (by simp [same, empty])
    obtain ⟨closed, balanced⟩ := (closesAll_iff _).mp (closes accepted)
    rw [same] at closed balanced
    exact contained_of_closed given closed balanced

/-- The parenthesis that ends this query's expression is its own, and another begins. -/
theorem escaping_accepted :
    prepare "SELECT 1), x AS (SELECT 2" = .ok "SELECT 1), x AS (SELECT 2" ∧
      ¬ ∀ body, prepare "SELECT 1), x AS (SELECT 2" = .ok body → Contained body := by
  have prepared : prepare "SELECT 1), x AS (SELECT 2" = .ok "SELECT 1), x AS (SELECT 2" := by
    decide +kernel
  refine ⟨prepared, fun contained => ?_⟩
  have balanced := (contained _ prepared).balanced
  rw [balanced_iff] at balanced
  revert balanced
  decide +kernel

end CheckKeeper.Compile
