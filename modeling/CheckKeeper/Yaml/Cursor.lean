import CheckKeeper.Text.Quoted
import CheckKeeper.Number.Literal

namespace CheckKeeper.Yaml

/-! Places in a YAML text.

A cursor stands between two characters and knows its line and column, counted from
0.  A fault names the place where it was noticed, and perhaps what was being read
and where that began.
-/

structure Mark where
  line : Nat
  column : Nat
  offset : Nat
deriving DecidableEq, Repr

structure Cursor where
  rest : List Char
  mark : Mark

def isBreak (c : Char) : Bool :=
  c == '\n' || c == '\r' || c == '\x85' || c == '\u2028' || c == '\u2029'

def isSpaceOrTab (c : Char) : Bool :=
  c == ' ' || c == '\t'

/-- Whether a character, or the end of the text, cuts one word from the next. -/
def isGap (c : Option Char) : Bool :=
  c.all fun c => isSpaceOrTab c || isBreak c

def byteOrderMark : Char := '\ufeff'

namespace Mark

def start : Mark :=
  ⟨0, 0, 0⟩

/-- The place behind a character, of which `next` is the one that follows. -/
def after (mark : Mark) (c : Char) (next : Option Char) : Mark :=
  if isBreak c && !(c == '\r' && next == some '\n') then ⟨mark.line + 1, 0, mark.offset + 1⟩
  else ⟨mark.line, if c == byteOrderMark then mark.column else mark.column + 1, mark.offset + 1⟩

end Mark

namespace Cursor

def start (text : List Char) : Cursor :=
  ⟨text, .start⟩

def peek (c : Cursor) : Option Char :=
  c.rest.head?

/-- The character that stands `distance` characters ahead. -/
def ahead (c : Cursor) (distance : Nat) : Option Char :=
  c.rest[distance]?

def column (c : Cursor) : Nat :=
  c.mark.column

def atEnd (c : Cursor) : Bool :=
  c.rest.isEmpty

def atBreak (c : Cursor) : Bool :=
  c.peek.any isBreak

def next (c : Cursor) : Cursor :=
  match c.rest with
  | [] => c
  | first :: rest => ⟨rest, c.mark.after first rest.head?⟩

def skip : Nat → Cursor → Cursor
  | 0, c => c
  | count + 1, c => c.next.skip count

/-- The characters from here on that satisfy `p`, and the place behind them. -/
def takeWhile (p : Char → Bool) (c : Cursor) : List Char × Cursor :=
  let taken := c.rest.takeWhile p
  (taken, c.skip taken.length)

def skipWhile (p : Char → Bool) (c : Cursor) : Cursor :=
  (c.takeWhile p).2

/-- The line break that stands here, with the place behind it; a break of two
characters reads as one. -/
def lineBreak? (c : Cursor) : Option (Char × Cursor) :=
  match c.rest with
  | '\r' :: '\n' :: _ => some ('\n', c.skip 2)
  | first :: _ =>
      if first == '\u2028' || first == '\u2029' then some (first, c.next)
      else if isBreak first then some ('\n', c.next)
      else none
  | [] => none

/-- Whether one of the two marks between documents stands here. -/
def atDocumentMark (c : Cursor) : Bool :=
  (c.rest.take 3 == ['-', '-', '-'] || c.rest.take 3 == ['.', '.', '.']) && isGap (c.ahead 3)

end Cursor

/-- The kinds of faults, by the stage of reading that notices them; the last two are numbers
that no character has. -/
inductive FaultKind where
  | character
  | token
  | shape
  | document
  | meaning
  | beyondCharacters
  | beyondMeasure
deriving DecidableEq, Repr

structure Fault where
  kind : FaultKind
  context : Option String
  contextMark : Option Mark
  problem : String
  mark : Mark
deriving Repr

namespace Fault

def single (kind : FaultKind) (problem : String) (mark : Mark) : Fault :=
  ⟨kind, none, none, problem, mark⟩

/-- A fault that is noticed while something is read. -/
def within (kind : FaultKind) (context : String) (start : Mark) (problem : String) (mark : Mark) :
    Fault :=
  ⟨kind, some context, some start, problem, mark⟩

end Fault

def showChar (c : Option Char) : String :=
  Text.quotedText (String.singleton (c.getD (Char.ofNat 0)))

/-- Characters that are shown on either side of a place. -/
def snippetWidth : Nat := 37

/-- One side of a line, nearest characters first, and whether it was cut. -/
def snippetSide (cs : List Char) : List Char × Bool :=
  let side := cs.takeWhile fun c => !isBreak c
  if snippetWidth ≤ side.length then (side.take (snippetWidth - 5), true) else (side, false)

/-- The line of a place, with a caret below the place. -/
def snippet (text : List Char) (mark : Mark) : String :=
  let (before, beforeCut) := snippetSide (text.take mark.offset).reverse
  let (after, afterCut) := snippetSide (text.drop mark.offset)
  let head := if beforeCut then " ... " else ""
  let tail := if afterCut then " ... " else ""
  let indent := String.ofList (List.replicate (4 + before.length + head.length) ' ')
  "    " ++ head ++ String.ofList (before.reverse ++ after) ++ tail ++ "\n" ++ indent ++ "^"

/-- Where a text comes from.  Of a file only the name is known when a fault is
told; of a text itself the line is shown too. -/
inductive Source where
  | text (content : List Char)
  | file (name : String)

def Source.name : Source → String
  | .text _ => "<unicode string>"
  | .file name => name

def describeMark (source : Source) (mark : Mark) : String :=
  let place := "  in \"" ++ source.name ++ "\", line " ++
    Number.renderInt (mark.line + 1 : Nat) ++ ", column " ++ Number.renderInt (mark.column + 1 : Nat)
  match source with
  | .text content => place ++ ":\n" ++ snippet content mark
  | .file _ => place

/-- The text of a fault.  The place where the reading began is left out if it is the
place of the fault. -/
def Fault.message (source : Source) (fault : Fault) : String :=
  match fault.kind with
  | .character =>
      fault.problem ++ "\n  in \"" ++ source.name ++ "\", position " ++
        Number.renderInt (fault.mark.offset : Nat)
  | _ =>
      let context := fault.context.elim [] fun words => [words]
      let began := (fault.contextMark.filter fun mark =>
        mark.line != fault.mark.line || mark.column != fault.mark.column).elim []
          fun mark => [describeMark source mark]
      Text.join "\n" (context ++ began ++ [fault.problem, describeMark source fault.mark])

def Fault.name (fault : Fault) : String :=
  match fault.kind with
  | .character => "ReaderError"
  | .token => "ScannerError"
  | .shape => "ParserError"
  | .document => "ComposerError"
  | .meaning => "ConstructorError"
  | .beyondCharacters => "ValueError"
  | .beyondMeasure => "OverflowError"

end CheckKeeper.Yaml
