import CheckKeeper.Text.Blank
import CheckKeeper.Text.Case
import CheckKeeper.Text.PictureTable

namespace CheckKeeper.Text

/-! Texts on a terminal that knows markup in square brackets.

A text is marked before it is written, so that its brackets are shown as they are.
That leaves some traces: a backslash in front of a bracket that opens no tag goes
away, one at the very end is doubled, a name between two colons becomes the picture
of that name, and characters that would move the cursor are dropped or, of tabs,
written as blanks.
-/

def opensTag (c : Char) : Bool :=
  ('a' ≤ c && c ≤ 'z') || c == '#' || c == '/' || c == '@'

/-- Whether a tag goes on behind its opening bracket: it has no other bracket in it
and is closed. -/
def isTagBody : List Char → Bool
  | [] => false
  | c :: rest => opensTag c && (rest.find? fun d => d == '[' || d == ']') == some ']'

def dropBackslashes : List Char → List Char
  | [] => []
  | [c] => [c]
  | c :: next :: rest =>
      if c = '\\' && next = '[' then dropBackslashes (next :: rest)
      else c :: dropBackslashes (next :: rest)

/-- Whether one backslash, and not more of them, stands at the end. -/
def endsInBackslash (cs : List Char) : Bool :=
  (cs.reverse.takeWhile (· == '\\')).length == 1

/-- Whether a tag stands here, perhaps behind backslashes. -/
def startsTag (cs : List Char) : Bool :=
  match cs.dropWhile (· == '\\') with
  | '[' :: rest => isTagBody rest
  | _ => false

/-- What stands before the next tag, and the rest. -/
def cutPlain : List Char → List Char × List Char
  | [] => ([], [])
  | c :: rest =>
      if startsTag (c :: rest) then ([], c :: rest)
      else
        let (plain, left) := cutPlain rest
        (c :: plain, left)

/-- The parts of a text that are shown one by one: tags, backslashes in front of
them, and what stands between. -/
def parts : Nat → List Char → List (List Char)
  | 0, _ => []
  | fuel + 1, cs =>
      let (plain, left) := cutPlain cs
      if left.isEmpty then [dropBackslashes plain]
      else
        let (slashes, tag) := left.span (· == '\\')
        let (opened, behind) := tag.span (· != ']')
        dropBackslashes plain :: slashes :: (opened ++ behind.take 1) :: parts fuel (behind.drop 1)

def pairs : List (List Char) → List (List Char × List Char)
  | name :: picture :: rest => (name, picture) :: pairs rest
  | _ => []

def picture? (name : List Char) : Option (List Char) :=
  (pairs (words pictureTable.toList)).lookup (lowerText (String.ofList name)).toList

/-- The ends of names that ask for one of two ways to draw a picture, and the
characters that do so. -/
def drawings : List (List Char × Char) :=
  [("-text".toList, '\ufe0e'), ("-emoji".toList, '\ufe0f')]

/-- The picture of the word between two colons. -/
def pictureOf (word : List Char) : Option (List Char) :=
  let drawing := drawings.find? fun (ending, _) => ending.isSuffixOf word
  let name := drawing.elim word fun (ending, _) => word.take (word.length - ending.length)
  (picture? name).map fun picture => picture ++ (drawing.map (·.2)).toList

def drawPictures : Nat → List Char → List Char
  | 0, cs => cs
  | _, [] => []
  | fuel + 1, c :: rest =>
      let (word, behind) := rest.span fun d => d != ':' && !isBlank d
      if c = ':' && behind.head? == some ':' then
        (pictureOf word).getD (':' :: word ++ [':']) ++ drawPictures fuel behind.tail
      else c :: drawPictures fuel rest

/-- Characters that a terminal does not show. -/
def isCursorMark (c : Char) : Bool :=
  c == '\x07' || c == '\x08' || c == '\x0b' || c == '\x0c' || c == '\r'

/-- Writes tabs as blanks up to the next column that eight divides. -/
def expandTabs (column : Nat) : List Char → List Char
  | [] => []
  | c :: rest =>
      if c = '\t' then
        let width := 8 - column % 8
        List.replicate width ' ' ++ expandTabs (column + width) rest
      else c :: expandTabs (if c = '\n' then 0 else column + 1) rest

/-- What a terminal shows of a text that begins at a column. -/
def shownFrom (column : Nat) (cs : List Char) : List Char :=
  let marked := if endsInBackslash cs then cs ++ ['\\'] else cs
  let drawn := (parts (marked.length + 1) marked).flatMap fun part =>
    drawPictures part.length part
  expandTabs column (drawn.filter fun c => !isCursorMark c)

/-- What follows a sequence that sets colours, of which the first two characters are
read. -/
def colourEnd? (cs : List Char) : Option (List Char) :=
  match cs.dropWhile fun c => c == ';' || c == '?' || ('0' ≤ c && c ≤ '9') with
  | [] => none
  | c :: rest =>
      if ('a' ≤ c && c ≤ 'z') || ('A' ≤ c && c ≤ 'Z') then some rest else none

def dropColoursWithin : Nat → List Char → List Char
  | 0, cs => cs
  | _, [] => []
  | fuel + 1, c :: rest =>
      match (if c = '\x1b' && rest.head? == some '[' then colourEnd? rest.tail else none) with
      | some behind => dropColoursWithin fuel behind
      | none => c :: dropColoursWithin fuel rest

def dropColours (cs : List Char) : List Char :=
  dropColoursWithin cs.length cs

end CheckKeeper.Text
