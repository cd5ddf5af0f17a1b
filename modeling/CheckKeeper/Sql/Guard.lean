import CheckKeeper.Sql.Token
import CheckKeeper.Text.WordChar
import CheckKeeper.Text.Case
import CheckKeeper.Failure

namespace CheckKeeper.Sql

/-! The guard of queries that operators write.

A query is embedded in a statement, so it must be a single one and only read.  It
is judged by its text with comments removed and quoted tokens emptied, and
embedded with comments removed and quoted tokens as they are.
-/

def forbiddenKeywords : List String :=
  ["insert", "update", "delete", "merge", "truncate", "create", "drop", "alter", "grant", "revoke",
    "call", "execute"]

/-- What is left of a token when comments are removed. -/
def Token.kept : Token → List Char
  | .quoted text => text
  | .comment _ => []
  | .plain c => [c]

/-- What is left of a token when quoted ones are emptied besides. -/
def Token.emptied : Token → List Char
  | .quoted text => text.take 1 ++ text.take 1
  | .comment _ => []
  | .plain c => [c]

def stripComments (cs : List Char) : List Char :=
  (tokens cs).flatMap Token.kept

def emptyQuoted (cs : List Char) : List Char :=
  (tokens cs).flatMap Token.emptied

/-- The text in lower case with single blanks between its words. -/
def normalWords (body : List Char) : List Char :=
  [' '].intercalate (Text.words (Text.lower body))

/-- The maximal runs of letters, digits and underscores. -/
def wordRuns : List Char → List (List Char)
  | [] => []
  | c :: rest =>
      if !Text.isWordChar c then wordRuns rest
      else
        match rest with
        | [] => [[c]]
        | next :: _ =>
            if !Text.isWordChar next then [c] :: wordRuns rest
            else
              match wordRuns rest with
              | [] => [[c]]
              | run :: later => (c :: run) :: later

/-- Whether `word` stands at the beginning as a whole word. -/
def startsWithWord (word : String) (cs : List Char) : Bool :=
  word.toList.isPrefixOf cs && !((cs.drop word.length).head?.any Text.isWordChar)

def firstForbidden? (words : List Char) : Option String :=
  ((wordRuns words).map String.ofList).find? forbiddenKeywords.contains

/-- The text without the semicolons at its end. -/
def dropSemicolons (cs : List Char) : List Char :=
  Text.dropEndWhile (· == ';') cs

/-- Refuses anything but one read-only query.  Semicolons at the end are let
pass. -/
def checkReadOnly (cs : List Char) : Except QueryFault Unit :=
  let body := Text.strip (emptyQuoted cs)
  let words := normalWords body
  if words.isEmpty then .error .empty
  else if !startsWithWord "select" words && !startsWithWord "with" words then
    .error (.start (String.ofList words))
  else
    match firstForbidden? words with
    | some keyword => .error (.forbidden keyword)
    | none => if (dropSemicolons body).contains ';' then .error .manyStatements else .ok ()

/-- The text of a query to be embedded, without judging it. -/
def embeddedBody (cs : List Char) : List Char :=
  Text.strip (dropSemicolons (Text.strip (stripComments cs)))

/-- The text to be embedded for a query that passes. -/
def prepare (sql : String) : Except QueryFault String := do
  checkReadOnly sql.toList
  return String.ofList (embeddedBody sql.toList)

end CheckKeeper.Sql
