import CheckKeeper.Text.Blank

namespace CheckKeeper.EnvFile

open CheckKeeper.Text

/-! Files that set variables of the environment.

A file holds one variable a line, `NAME=value`, with the word `export` in front if
one likes.  A value may stand in quotes and then go over several lines.  What
cannot be read is passed over up to the end of its line.  In a value `${NAME}`
stands for the value of another variable.
-/

/-- A variable and what stands behind its equal sign, if there is one. -/
structure Binding where
  name : Option (List Char)
  value : Option (List Char)

def isLineEnd (c : Char) : Bool :=
  c == '\n' || c == '\r'

/-- Blanks that do not end the line. -/
def isInlineBlank (c : Char) : Bool :=
  isBlank c && !isLineEnd c

def skipInline (cs : List Char) : List Char :=
  cs.dropWhile isInlineBlank

/-- What follows the end of the line that stands here. -/
def lineEnd? : List Char → Option (List Char)
  | [] => some []
  | '\r' :: '\n' :: rest => some rest
  | c :: rest => if isLineEnd c then some rest else none

def restOfLine (cs : List Char) : List Char :=
  match cs.dropWhile (!isLineEnd ·) with
  | [] => []
  | _ :: rest => rest

/-- Passes over the word `export` with the blanks behind it. -/
def skipExport (cs : List Char) : List Char :=
  let behind := cs.drop 6
  if cs.take 6 == "export".toList && behind.head?.any isInlineBlank then skipInline behind else cs

/-- The content up to the closing quote, where a quote behind a backslash does not
close if a later one does. -/
def quotedContent? (quote : Char) : List Char → Option (List Char × List Char)
  | [] => none
  | '\\' :: rest =>
      match rest with
      | [] => none
      | next :: behind =>
          if next = quote then
            match quotedContent? quote behind with
            | some (content, later) => some ('\\' :: next :: content, later)
            | none => some (['\\'], behind)
          else
            (quotedContent? quote (next :: behind)).map fun (content, later) =>
              ('\\' :: content, later)
  | c :: rest =>
      if c = quote then some ([], rest)
      else (quotedContent? quote rest).map fun (content, later) => (c :: content, later)

/-- What the letters of escapes stand for in double quotes. -/
def escapes : List (Char × Char) :=
  [('\\', '\\'), ('\'', '\''), ('"', '"'), ('a', '\x07'), ('b', '\x08'), ('f', '\x0c'), ('n', '\n'),
    ('r', '\r'), ('t', '\t'), ('v', '\x0b')]

def unescape (known : List (Char × Char)) : List Char → List Char
  | [] => []
  | '\\' :: rest =>
      match rest with
      | [] => ['\\']
      | letter :: behind =>
          match known.lookup letter with
          | some meant => meant :: unescape known behind
          | none => '\\' :: unescape known (letter :: behind)
  | c :: rest => c :: unescape known rest

/-- A value without quotes ends in front of blanks with a number sign behind them. -/
def dropComment : List Char → List Char
  | [] => []
  | c :: rest =>
      if isBlank c && (rest.dropWhile isBlank).head? == some '#' then []
      else c :: dropComment rest

def readName? (cs : List Char) : Option (Option (List Char) × List Char) :=
  match cs with
  | '#' :: _ => some (none, cs)
  | '\'' :: rest =>
      let name := rest.takeWhile (· != '\'')
      match rest.dropWhile (· != '\'') with
      | _ :: behind => if name.isEmpty then none else some (some name, behind)
      | [] => none
  | _ =>
      let isPart := fun c => !(c == '=' || c == '#' || isBlank c)
      let name := cs.takeWhile isPart
      if name.isEmpty then none else some (some name, cs.dropWhile isPart)

/-- The value that stands here, or nothing if its quotes do not close. -/
def readValue? (cs : List Char) : Option (List Char × List Char) :=
  match cs with
  | [] => some ([], [])
  | '\'' :: rest =>
      (quotedContent? '\'' rest).map fun (content, behind) =>
        (unescape (escapes.take 2) content, behind)
  | '"' :: rest =>
      (quotedContent? '"' rest).map fun (content, behind) => (unescape escapes content, behind)
  | c :: _ =>
      if isLineEnd c then some ([], cs)
      else
        let line := cs.takeWhile (!isLineEnd ·)
        some (dropEndWhile isBlank (dropComment line), cs.dropWhile (!isLineEnd ·))

/-- What follows a comment and the end of its line. -/
def finishLine? (cs : List Char) : Option (List Char) :=
  let here := skipInline cs
  lineEnd? (if here.head? == some '#' then here.dropWhile (!isLineEnd ·) else here)

/-- The binding that begins here, or nothing in place of what cannot be read, and what
follows it. -/
def readBinding (cs : List Char) : Option Binding × List Char :=
  let start := skipExport cs
  match readName? start with
  | none => (none, restOfLine start)
  | some (name, afterName) =>
      match skipInline afterName with
      | '=' :: rest =>
          let here := skipInline rest
          match readValue? here with
          | none => (none, restOfLine here)
          | some (value, behind) =>
              match finishLine? behind with
              | some later => (some ⟨name, some value⟩, later)
              | none => (none, restOfLine (skipInline behind))
      | here =>
          match finishLine? here with
          | some later => (some ⟨name, none⟩, later)
          | none => (none, restOfLine here)

/-- The variables of a file in the order of their lines. -/
def readBindings : Nat → List Char → List (List Char × Option (List Char))
  | 0, _ => []
  | count + 1, cs =>
      match cs.dropWhile isBlank with
      | [] => []
      | here =>
          let (binding, later) := readBinding here
          let rest := readBindings count later
          match binding.bind fun b => b.name.map fun name => (name, b.value) with
          | some found => found :: rest
          | none => rest

/-- A part of a value: characters that stand for themselves, or a variable with what
it stands for if it is not set. -/
inductive Atom where
  | literal (text : List Char)
  | variable (name : List Char) (otherwise : List Char)
deriving DecidableEq, Repr

/-- A variable in braces behind a dollar sign, and what follows it. -/
def braced? (cs : List Char) : Option (Atom × List Char) :=
  let name := cs.takeWhile fun c => c != '\x7d' && c != ':'
  match cs.drop name.length with
  | '\x7d' :: behind => some (.variable name [], behind)
  | ':' :: '-' :: rest =>
      match rest.dropWhile (· != '\x7d') with
      | _ :: behind => some (.variable name (rest.takeWhile (· != '\x7d')), behind)
      | [] => none
  | _ => none

def addChar (c : Char) : List Atom → List Atom
  | .literal text :: rest => .literal (c :: text) :: rest
  | atoms => .literal [c] :: atoms

def atoms : Nat → List Char → List Atom
  | 0, _ => []
  | _, [] => []
  | count + 1, c :: rest =>
      match (if c = '$' && rest.head? == some '\x7b' then braced? rest.tail else none) with
      | some (found, behind) => found :: atoms count behind
      | none => addChar c (atoms count rest)

variable {m : Type → Type} [Monad m]

/-- The text of parts; `environment` is asked before what the file has set. -/
def resolve (environment : String → m (Option String)) (set : List (String × Option String)) :
    List Atom → m String
  | [] => return ""
  | .literal text :: rest => do
      return String.ofList text ++ (← resolve environment set rest)
  | .variable name otherwise :: rest => do
      let key := String.ofList name
      let meant ←
        match ← environment key with
        | some value => pure value
        | none =>
            match set.lookup key with
            | some value => pure (value.getD "")
            | none => pure (String.ofList otherwise)
      return meant ++ (← resolve environment set rest)

/-- Sets a variable: in its place if it is there, and else at the end. -/
def setVariable (set : List (String × Option String)) (name : String) (value : Option String) :
    List (String × Option String) :=
  if set.any (·.1 == name) then
    set.map fun other => if other.1 == name then (name, value) else other
  else set ++ [(name, value)]

def resolveAll (environment : String → m (Option String)) (set : List (String × Option String)) :
    List (List Char × Option (List Char)) → m (List (String × Option String))
  | [] => return set
  | (name, value) :: rest => do
      let meant ← value.mapM fun text => resolve environment set (atoms text.length text)
      resolveAll environment (setVariable set (String.ofList name) meant) rest

/-- The variables that a file sets, with their values. -/
def read (environment : String → m (Option String)) (content : String) :
    m (List (String × Option String)) :=
  let text := content.toList
  resolveAll environment [] (readBindings (text.length + 1) text)

end CheckKeeper.EnvFile
