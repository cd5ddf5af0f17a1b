import CheckKeeper.Yaml.Scalar
import CheckKeeper.Json.Writer

namespace CheckKeeper.Yaml

/-! YAML text of a record, one field a line.

A text is written plain if it reads back as itself, and else between quotes: single
ones while it holds no more than plain ASCII, and double ones with escapes for the
rest.
-/

/-- Characters that may not begin a plain scalar. -/
def openingIndicators : List Char :=
  "#,[]\x7b\x7d&*!|>'\"%@\x60".toList

def isGapOrEnd (c : Option Char) : Bool :=
  c.all fun c => c == ' ' || c == '\t' || isBreakMark c
where
  isBreakMark (c : Char) : Bool :=
    c == '\n' || c == '\r' || c == '\x85' || c == '\u2028' || c == '\u2029'

/-- Whether marks of YAML stand where a plain scalar would be misread; `before` is
the character in front, if there is one. -/
def hasIndicator (before : Option Char) : List Char → Bool
  | [] => false
  | c :: rest =>
      let gapFollows := isGapOrEnd rest.head?
      let opening := before.isNone &&
        (openingIndicators.contains c || (c == '?' || c == '-') && gapFollows)
      opening || c == ':' && gapFollows || c == '#' && isGapOrEnd before ||
        hasIndicator (some c) rest

/-- Whether a text begins like a mark between documents. -/
def beginsLikeDocument (text : List Char) : Bool :=
  text.take 3 == ['-', '-', '-'] || text.take 3 == ['.', '.', '.']

def isPlainAscii (c : Char) : Bool :=
  ' ' ≤ c && c ≤ '~'

def isPlainText (text : List Char) : Bool :=
  readsAsText text && text.all isPlainAscii && !beginsLikeDocument text &&
    !hasIndicator none text && text.head? != some ' ' && text.getLast? != some ' '

def escapeLetters : List (Char × Char) :=
  [('\x00', '0'), ('\x07', 'a'), ('\x08', 'b'), ('\t', 't'), ('\n', 'n'), ('\x0b', 'v'),
    ('\x0c', 'f'), ('\r', 'r'), ('\x1b', 'e'), ('"', '"'), ('\\', '\\'), ('\x85', 'N'),
    ('\xa0', '_'), ('\u2028', 'L'), ('\u2029', 'P')]

def upperHex (width n : Nat) : List Char :=
  (Text.hexDigits width n).map Char.toUpper

def escapedChar (c : Char) : List Char :=
  match escapeLetters.lookup c with
  | some letter => ['\\', letter]
  | none =>
      if isPlainAscii c then [c]
      else if c.toNat < 0x100 then '\\' :: 'x' :: upperHex 2 c.toNat
      else if c.toNat < 0x10000 then '\\' :: 'u' :: upperHex 4 c.toNat
      else '\\' :: 'U' :: upperHex 8 c.toNat

def doubleQuoted (text : List Char) : List Char :=
  '"' :: text.flatMap escapedChar ++ ['"']

def singleQuoted (text : List Char) : List Char :=
  '\'' :: text.flatMap (fun c => if c == '\'' then ['\'', '\''] else [c]) ++ ['\'']

def writeText (content : String) : String :=
  let text := content.toList
  if isPlainText text then content
  else if text.all isPlainAscii then String.ofList (singleQuoted text)
  else String.ofList (doubleQuoted text)

/-- The digits of a number always have a point. -/
def writeFloat (x : Float) : String :=
  let written := Number.renderWith ⟨".inf", ".nan"⟩ x
  if written.toList.contains '.' then written
  else String.ofList (written.toList.flatMap fun c => if c == 'e' then ['.', '0', 'e'] else [c])

/-- The text of a value; lists and records are written as JSON, which is YAML too. -/
def writeValue : Value → String
  | .null => "null"
  | .bool flag => if flag then "true" else "false"
  | .int number => Number.renderInt number
  | .float number => writeFloat number
  | .text content => writeText content
  | .moment point => point.renderWith ' '
  | .day date => date.render
  | other => ((Json.write .lenient other).toOption).getD "null"

/-- The fields of a record, each on a line of its own. -/
def write (fields : List (String × Value)) : String :=
  String.join (fields.map fun (name, value) => writeText name ++ ": " ++ writeValue value ++ "\n")

end CheckKeeper.Yaml
