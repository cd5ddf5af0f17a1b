import CheckKeeper.Yaml.Cursor

namespace CheckKeeper.Yaml

/-! Tokens of a YAML text.

Beside the marks and scalars that are written, there are tokens for what only the
columns say: where a block of entries or pairs begins and ends, and that what
stands in front of a colon is a key.  The last is known only at the colon, so the
lexer remembers where a key may have begun and puts its tokens in later.
-/

inductive Lexeme where
  | streamEnd
  | directive
  | documentStart
  | documentEnd
  | sequenceStart
  | mappingStart
  | blockEnd
  | listOpen
  | listClose
  | recordOpen
  | recordClose
  | key
  | value
  | item
  | comma
  | alias (name : String)
  | anchor (name : String)
  | tag (name : String)
  | scalar (plain : Bool) (content : List Char)
  | broken (fault : Fault)

def Lexeme.label : Lexeme → String
  | .streamEnd => "'<stream end>'"
  | .directive => "'<directive>'"
  | .documentStart => "'<document start>'"
  | .documentEnd => "'<document end>'"
  | .sequenceStart => "'<block sequence start>'"
  | .mappingStart => "'<block mapping start>'"
  | .blockEnd => "'<block end>'"
  | .listOpen => "'['"
  | .listClose => "']'"
  | .recordOpen => "'\x7b'"
  | .recordClose => "'\x7d'"
  | .key => "'?'"
  | .value => "':'"
  | .item => "'-'"
  | .comma => "','"
  | .alias _ => "'<alias>'"
  | .anchor _ => "'<anchor>'"
  | .tag _ => "'<tag>'"
  | .scalar _ _ => "'<scalar>'"
  | .broken _ => "'<stream end>'"

structure Token where
  lexeme : Lexeme
  mark : Mark

/-- A place where a key may have begun: the number of its first token, and whether
nothing but a key can stand there. -/
structure PendingKey where
  number : Nat
  required : Bool
  mark : Mark

/-- The state of the lexer.  The tokens stand last first; `blocks` holds the columns
of the blocks around the innermost one, whose column is `block`; `keys` has one
place for each level of brackets, the innermost first. -/
structure Lexer where
  cursor : Cursor
  tokens : List Token
  block : Int
  blocks : List Int
  depth : Nat
  keyAllowed : Bool
  keys : List (Option PendingKey)

namespace Lexer

def start (text : List Char) : Lexer where
  cursor := .start text
  tokens := []
  block := -1
  blocks := []
  depth := 0
  keyAllowed := true
  keys := [none]

def mark (l : Lexer) : Mark :=
  l.cursor.mark

def inBrackets (l : Lexer) : Bool :=
  l.depth != 0

def emitAt (l : Lexer) (mark : Mark) (lexeme : Lexeme) : Lexer :=
  { l with tokens := ⟨lexeme, mark⟩ :: l.tokens }

def emit (l : Lexer) (lexeme : Lexeme) : Lexer :=
  l.emitAt l.mark lexeme

/-- Puts a token in front of the one with this number. -/
def insert (l : Lexer) (number : Nat) (mark : Mark) (lexeme : Lexeme) : Lexer :=
  { l with tokens := l.tokens.insertIdx (l.tokens.length - number) ⟨lexeme, mark⟩ }

def move (l : Lexer) (cursor : Cursor) : Lexer :=
  { l with cursor }

def missingColon (l : Lexer) (key : PendingKey) : Fault :=
  .within .token "while scanning a simple key" key.mark "could not find expected ':'" l.mark

/-- Ends the blocks that stand further right than a column. -/
def closeBlocks (column : Int) : Nat → Lexer → Lexer
  | 0, l => l
  | count + 1, l =>
      if column < l.block then
        closeBlocks column count
          { l.emit .blockEnd with block := l.blocks.headD (-1), blocks := l.blocks.tail }
      else l

/-- Ends the blocks that do not go on at a column; in brackets columns do not count. -/
def unwind (column : Int) (l : Lexer) : Lexer :=
  if l.inBrackets then l else closeBlocks column l.blocks.length l

/-- Begins a block at a column, unless one is there. -/
def openBlock (column : Nat) (l : Lexer) : Option Lexer :=
  if l.block < column then
    some { l with block := column, blocks := l.block :: l.blocks }
  else none

/-- Whether a key that began here may still end: it stands on the line, and is not
too long. -/
def isLive (l : Lexer) (key : PendingKey) : Bool :=
  key.mark.line == l.mark.line && l.mark.offset - key.mark.offset ≤ 1024

/-- Gives up the keys that can no longer end. -/
def dropStaleKeys (l : Lexer) : Except Fault Lexer :=
  match (l.keys.filterMap id).find? fun key => key.required && !l.isLive key with
  | some key => .error (l.missingColon key)
  | none => .ok { l with keys := l.keys.map fun key => key.filter l.isLive }

def dropKey (l : Lexer) : Except Fault Lexer :=
  match l.keys with
  | some key :: outer =>
      if key.required then .error (l.missingColon key) else .ok { l with keys := none :: outer }
  | _ => .ok l

def saveKey (l : Lexer) : Except Fault Lexer := do
  if l.keyAllowed then
    let required := !l.inBrackets && l.block == (l.cursor.column : Int)
    let dropped ← l.dropKey
    return { dropped with
      keys := some ⟨l.tokens.length, required, l.mark⟩ :: dropped.keys.tail }
  else return l

/-- Passes over blanks, comments and line breaks. -/
def skipGaps : Nat → Lexer → Lexer
  | 0, l => l
  | count + 1, l =>
      let here := l.cursor.skipWhile (· == ' ')
      let behind :=
        if here.peek == some '#' then here.skipWhile fun c => !isBreak c else here
      match behind.lineBreak? with
      | some (_, below) =>
          skipGaps count { l with cursor := below, keyAllowed := l.keyAllowed || !l.inBrackets }
      | none => l.move behind

/-- The breaks of empty lines, as far as no mark between documents stands there. -/
def emptyLines : Nat → List Char → Cursor → List Char × Cursor × Bool
  | 0, found, c => (found, c, false)
  | count + 1, found, c =>
      if c.atDocumentMark then (found, c, true)
      else
        let here := c.skipWhile (· == ' ')
        match here.lineBreak? with
        | some (mark, below) => emptyLines count (found ++ [mark]) below
        | none => (found, here, false)

/-- What one or more breaks within a text stand for: one break is a blank, more are
all but the first. -/
def foldBreaks (first : Char) (later : List Char) : List Char :=
  (if first != '\n' then [first] else if later.isEmpty then [' '] else []) ++ later

/-- The gap behind a word of a plain scalar, and whether a line ended in it.  No gap
is left where the scalar ends for good. -/
def plainGap (c : Cursor) : List Char × Cursor × Bool :=
  let (spaces, here) := c.takeWhile (· == ' ')
  match here.lineBreak? with
  | some (first, below) =>
      let (later, behind, ended) := emptyLines (below.rest.length + 1) [] below
      (if ended then [] else foldBreaks first later, behind, true)
  | none => (spaces, here, false)

def isBracketMark (c : Char) : Bool :=
  c == ',' || c == '[' || c == ']' || c == '\x7b' || c == '\x7d'

/-- The characters of the next word of a plain scalar. -/
def plainWord (inBrackets : Bool) : List Char → List Char
  | [] => []
  | c :: rest =>
      let colonEnds := c == ':' &&
        (isGap rest.head? || inBrackets && rest.head?.any isBracketMark)
      if isGap (some c) || colonEnds || inBrackets && (isBracketMark c || c == '?') then []
      else c :: plainWord inBrackets rest

/-- A plain scalar from a word on: its characters, and whether its last gap holds a
line break. -/
def plainScalar (inBrackets : Bool) (least : Int) :
    Nat → List Char → Bool → Cursor → List Char × Cursor × Bool
  | 0, gap, broke, c => (gap, c, broke)
  | count + 1, gap, broke, c =>
      if c.peek == some '#' then ([], c, broke)
      else
        let word := plainWord inBrackets c.rest
        if word.isEmpty then ([], c, broke)
        else
          let (nextGap, behind, brokeNext) := plainGap (c.skip word.length)
          if nextGap.isEmpty || behind.peek == some '#' ||
              !inBrackets && (behind.column : Int) < least then
            (gap ++ word, behind, brokeNext)
          else
            let (more, last, brokeLast) :=
              plainScalar inBrackets least count nextGap brokeNext behind
            (gap ++ word ++ more, last, brokeLast)

/-- A plain scalar.  If a line ended behind it, a key may follow. -/
def readPlain (l : Lexer) : Except Fault Lexer := do
  let saved ← l.saveKey
  let (content, behind, broke) :=
    plainScalar l.inBrackets (l.block + 1) (l.cursor.rest.length + 1) [] false l.cursor
  return { saved.emit (.scalar true content) with cursor := behind, keyAllowed := broke }

/-- The characters that short escapes stand for. -/
def shortEscapes : List (Char × Char) :=
  [('0', '\x00'), ('a', '\x07'), ('b', '\x08'), ('t', '\t'), ('\t', '\t'), ('n', '\n'),
    ('v', '\x0b'), ('f', '\x0c'), ('r', '\r'), ('e', '\x1b'), (' ', ' '), ('"', '"'),
    ('\\', '\\'), ('/', '/'), ('N', '\x85'), ('_', '\xa0'), ('L', '\u2028'), ('P', '\u2029')]

/-- How many digits follow the letter of a numbered escape. -/
def escapeWidths : List (Char × Nat) :=
  [('x', 2), ('u', 4), ('U', 8)]

def hexValue? (c : Char) : Option Nat :=
  if '0' ≤ c && c ≤ '9' then some (c.toNat - 48)
  else if 'a' ≤ c && c ≤ 'f' then some (c.toNat - 87)
  else if 'A' ≤ c && c ≤ 'F' then some (c.toNat - 55)
  else none

def hexNumber (digits : List Char) : Nat :=
  digits.foldl (fun total c => total * 16 + (hexValue? c).getD 0) 0

/-- The character of a number.  A surrogate, which is no character of a text, is replaced. -/
def charOf (mark : Mark) (code : Nat) : Except Fault Char :=
  if 0x7fffffff < code then .error (.single .beyondMeasure "" mark)
  else if 0x10ffff < code then .error (.single .beyondCharacters "" mark)
  else if 0xd800 ≤ code && code < 0xe000 then .ok '\ufffd'
  else .ok (Char.ofNat code)

/-- The breaks and blanks between the lines of a quoted scalar. -/
def quotedBreaks (start : Mark) : Nat → List Char → Cursor → Except Fault (List Char × Cursor)
  | 0, found, c => .ok (found, c)
  | count + 1, found, c =>
      if c.atDocumentMark then
        .error (.within .token "while scanning a quoted scalar" start
          "found unexpected document separator" c.mark)
      else
        let here := c.skipWhile isSpaceOrTab
        match here.lineBreak? with
        | some (mark, below) => quotedBreaks start count (found ++ [mark]) below
        | none => .ok (found, here)

def quotedGap (start : Mark) (c : Cursor) : Except Fault (List Char × Cursor) := do
  let (spaces, here) := c.takeWhile isSpaceOrTab
  if here.atEnd then
    .error (.within .token "while scanning a quoted scalar" start "found unexpected end of stream"
      here.mark)
  else
    match here.lineBreak? with
    | some (first, below) =>
        let (later, behind) ← quotedBreaks start (below.rest.length + 1) [] below
        return (foldBreaks first later, behind)
    | none => return (spaces, here)

/-- What a backslash and the characters behind it stand for; `c` stands behind the
backslash. -/
def escape (start : Mark) (c : Cursor) : Except Fault (List Char × Cursor) :=
  let context := "while scanning a double-quoted scalar"
  match c.peek.bind fun d => shortEscapes.lookup d with
  | some meant => .ok ([meant], c.next)
  | none =>
      match c.peek.bind fun d => escapeWidths.lookup d with
      | some width =>
          let digits := (c.next.rest.takeWhile fun d => (hexValue? d).isSome).take width
          if digits.length = width then
            (charOf c.next.mark (hexNumber digits)).map fun meant => ([meant], c.next.skip width)
          else
            .error (.within .token context start
              ("expected escape sequence of " ++ Number.renderInt (width : Nat) ++
                " hexadecimal numbers, but found " ++ showChar (c.next.ahead digits.length))
              c.next.mark)
      | none =>
          match c.lineBreak? with
          | some (_, below) => quotedBreaks start (below.rest.length + 1) [] below
          | none =>
              .error (.within .token context start
                ("found unknown escape character " ++ showChar c.peek) c.mark)

def quotedScalar (quote : Char) (start : Mark) :
    Nat → Cursor → Except Fault (List Char × Cursor)
  | 0, c => .ok ([], c)
  | count + 1, c => do
      let isDouble := quote == '"'
      match c.rest with
      | '\'' :: '\'' :: _ =>
          if isDouble then
            let (more, behind) ← quotedScalar quote start count (c.skip 2)
            return ('\'' :: '\'' :: more, behind)
          else
            let (more, behind) ← quotedScalar quote start count (c.skip 2)
            return ('\'' :: more, behind)
      | first :: _ =>
          if first = quote then return ([], c.next)
          else if first = '\\' && isDouble then
            let (meant, here) ← escape start c.next
            let (more, behind) ← quotedScalar quote start count here
            return (meant ++ more, behind)
          else if isGap (some first) then
            let (gap, here) ← quotedGap start c
            let (more, behind) ← quotedScalar quote start count here
            return (gap ++ more, behind)
          else
            let (more, behind) ← quotedScalar quote start count c.next
            return (first :: more, behind)
      | [] => do
          let _ ← quotedGap start c
          return ([], c)

def readQuoted (quote : Char) (l : Lexer) : Except Fault Lexer := do
  let saved ← l.saveKey
  let (content, behind) ←
    quotedScalar quote l.mark (l.cursor.rest.length + 1) l.cursor.next
  return { saved.emit (.scalar false content) with cursor := behind, keyAllowed := false }

/-- How the breaks at the end of a block scalar are kept. -/
inductive Chomping where
  | clip
  | strip
  | keep
deriving DecidableEq, Repr

def chompingOf? : Option Char → Option Chomping
  | some '+' => some .keep
  | some '-' => some .strip
  | _ => none

def digitOf? (c : Option Char) : Option Nat :=
  (c.filter Number.isDigit).map fun d => d.toNat - 48

/-- What stands behind the mark of a block scalar: how it ends, and how far it is
set in. -/
def blockHeader (start : Mark) (c : Cursor) :
    Except Fault (Chomping × Option Nat × Cursor) := do
  let context := "while scanning a block scalar"
  let (first, c) := match chompingOf? c.peek with
    | some chomping => (some chomping, c.next)
    | none => (none, c)
  let indent := digitOf? c.peek
  if indent == some 0 then
    .error (.within .token context start
      "expected indentation indicator in the range 1-9, but found 0" c.mark)
  else
    let c := if indent.isSome then c.next else c
    let (second, c) :=
      if first.isNone && indent.isSome then
        match chompingOf? c.peek with
        | some chomping => (some chomping, c.next)
        | none => (none, c)
      else (first, c)
    if c.peek.any fun d => !(d == ' ' || isBreak d) then
      .error (.within .token context start
        ("expected chomping or indentation indicators, but found " ++ showChar c.peek) c.mark)
    else
      let here := c.skipWhile (· == ' ')
      let behind := if here.peek == some '#' then here.skipWhile fun d => !isBreak d else here
      match behind.lineBreak? with
      | some (_, below) => return (second.getD .clip, indent, below)
      | none =>
          if behind.atEnd then return (second.getD .clip, indent, behind)
          else
            .error (.within .token context start
              ("expected a comment or a line break, but found " ++ showChar behind.peek)
              behind.mark)

/-- The empty lines in front of a block scalar, and how far its blanks reach. -/
def blockIndent : Nat → List Char → Nat → Cursor → List Char × Nat × Cursor
  | 0, found, widest, c => (found, widest, c)
  | count + 1, found, widest, c =>
      if c.peek == some ' ' then blockIndent count found (max widest c.next.column) c.next
      else
        match c.lineBreak? with
        | some (mark, below) => blockIndent count (found ++ [mark]) widest below
        | none => (found, widest, c)

def skipIndent (indent : Nat) : Nat → Cursor → Cursor
  | 0, c => c
  | count + 1, c =>
      if c.column < indent && c.peek == some ' ' then skipIndent indent count c.next else c

/-- The empty lines in front of a line that is set in by `indent`. -/
def blockBreaks (indent : Nat) : Nat → List Char → Cursor → List Char × Cursor
  | 0, found, c => (found, c)
  | count + 1, found, c =>
      let here := skipIndent indent indent c
      match here.lineBreak? with
      | some (mark, below) => blockBreaks indent count (found ++ [mark]) below
      | none => (found, here)

/-- The lines of a block scalar: its text, the last line break, the empty lines
behind it. -/
def blockLines (folded : Bool) (indent : Nat) :
    Nat → List Char → Cursor → List Char × List Char × List Char × Cursor
  | 0, breaks, c => ([], [], breaks, c)
  | count + 1, breaks, c =>
      if c.column = indent && !c.atEnd then
        let (line, here) := c.takeWhile fun d => !isBreak d
        let (ending, below) := match here.lineBreak? with
          | some (mark, below) => ([mark], below)
          | none => ([], here)
        let (later, behind) := blockBreaks indent (below.rest.length + 1) [] below
        if behind.column = indent && !behind.atEnd then
          let joined :=
            if folded && ending == ['\n'] && !line.head?.any isSpaceOrTab &&
                !behind.peek.any isSpaceOrTab then
              if later.isEmpty then [' '] else []
            else ending
          let (more, rest) := blockLines folded indent count later behind
          (breaks ++ line ++ joined ++ more, rest)
        else (breaks ++ line, ending, later, behind)
      else ([], [], breaks, c)

def readBlock (folded : Bool) (l : Lexer) : Except Fault Lexer := do
  let dropped ← l.dropKey
  let (chomping, given, c) ← blockHeader l.mark l.cursor.next
  let least := (max 1 (l.block + 1)).toNat
  let fuel := c.rest.length + 1
  let (breaks, indent, first) :=
    match given with
    | some step =>
        let indent := least + step - 1
        let (breaks, first) := blockBreaks indent fuel [] c
        (breaks, indent, first)
    | none =>
        let (breaks, widest, first) := blockIndent fuel [] 0 c
        (breaks, max least widest, first)
  let (text, ending, later, behind) := blockLines folded indent fuel breaks first
  let content :=
    match chomping with
    | .strip => text
    | .clip => text ++ ending
    | .keep => text ++ ending ++ later
  return { dropped.emit (.scalar false content) with cursor := behind, keyAllowed := true }

def isNameChar (c : Char) : Bool :=
  c.isAlphanum || c == '-' || c == '_'

def readName (what : String) (make : String → Lexeme) (l : Lexer) : Except Fault Lexer := do
  let saved ← l.saveKey
  let (name, behind) := l.cursor.next.takeWhile isNameChar
  let context := "while scanning an " ++ what
  let fault := fun () => Except.error (.within .token context l.mark
    ("expected alphabetic or numeric character, but found " ++ showChar behind.peek) behind.mark)
  if name.isEmpty then fault ()
  else if isGap behind.peek || behind.peek.any fun c => "?:,]\x7d%@\x60".toList.contains c then
    return { saved.emit (make (String.ofList name)) with cursor := behind, keyAllowed := false }
  else fault ()

def readTag (l : Lexer) : Except Fault Lexer := do
  let saved ← l.saveKey
  let (name, behind) := l.cursor.takeWhile fun c =>
    !isGap (some c) && !(l.inBrackets && isBracketMark c)
  return { saved.emit (.tag (String.ofList name)) with cursor := behind, keyAllowed := false }

/-- Ends the blocks in front of a mark between documents. -/
def readDocumentMark (lexeme : Lexeme) (width : Nat) (l : Lexer) : Except Fault Lexer := do
  let dropped ← (l.unwind (-1)).dropKey
  let marked := dropped.emit lexeme
  return { marked with cursor := l.cursor.skip width, keyAllowed := false }

/-- A line that speaks of the document and is passed over. -/
def readDirective (l : Lexer) : Except Fault Lexer := do
  let dropped ← (l.unwind (-1)).dropKey
  let marked := dropped.emit .directive
  return { marked with cursor := l.cursor.skipWhile fun c => !isBreak c, keyAllowed := false }

def readOpening (lexeme : Lexeme) (l : Lexer) : Except Fault Lexer := do
  let saved ← l.saveKey
  return { saved.emit lexeme with
    cursor := l.cursor.next, keyAllowed := true, depth := l.depth + 1, keys := none :: saved.keys }

def readClosing (lexeme : Lexeme) (l : Lexer) : Except Fault Lexer := do
  let dropped ← l.dropKey
  return { dropped.emit lexeme with
    cursor := l.cursor.next, keyAllowed := false, depth := l.depth - 1
    keys := if l.inBrackets then dropped.keys.tail else dropped.keys }

def readComma (l : Lexer) : Except Fault Lexer := do
  let dropped ← l.dropKey
  return { dropped.emit .comma with cursor := l.cursor.next, keyAllowed := true }

/-- Begins a block at the column of the cursor, if there is none. -/
def startBlock (lexeme : Lexeme) (l : Lexer) : Lexer :=
  if l.inBrackets then l
  else
    match l.openBlock l.cursor.column with
    | some opened => opened.emit lexeme
    | none => l

def readItem (l : Lexer) : Except Fault Lexer := do
  if !l.inBrackets && !l.keyAllowed then
    .error (.single .token "sequence entries are not allowed here" l.mark)
  else
    let dropped ← (l.startBlock .sequenceStart).dropKey
    return { dropped.emit .item with cursor := l.cursor.next, keyAllowed := true }

def readKey (l : Lexer) : Except Fault Lexer := do
  if !l.inBrackets && !l.keyAllowed then
    .error (.single .token "mapping keys are not allowed here" l.mark)
  else
    let dropped ← (l.startBlock .mappingStart).dropKey
    return { dropped.emit .key with cursor := l.cursor.next, keyAllowed := !l.inBrackets }

/-- Puts the tokens of a key in front of what turned out to be one. -/
def insertKey (key : PendingKey) (l : Lexer) : Lexer :=
  let keyed := l.insert key.number key.mark .key
  if l.inBrackets then keyed
  else
    match keyed.openBlock key.mark.column with
    | some opened => opened.insert key.number key.mark .mappingStart
    | none => keyed

def readValue (l : Lexer) : Except Fault Lexer := do
  match l.keys with
  | some key :: outer =>
      let keyed := { l.insertKey key with keys := none :: outer }
      return { keyed.emit .value with cursor := l.cursor.next, keyAllowed := false }
  | _ =>
      if !l.inBrackets && !l.keyAllowed then
        .error (.single .token "mapping values are not allowed here" l.mark)
      else
        let dropped ← (l.startBlock .mappingStart).dropKey
        return { dropped.emit .value with cursor := l.cursor.next, keyAllowed := !l.inBrackets }

/-- Characters that no plain scalar begins with. -/
def indicators : List Char :=
  ['-', '?', ':', ',', '[', ']', '\x7b', '\x7d', '#', '&', '*', '!', '|', '>', '\'', '"', '%', '@',
    '\x60']

def atPlain (l : Lexer) : Bool :=
  match l.cursor.rest with
  | [] => false
  | c :: rest =>
      !isGap (some c) &&
        (!indicators.contains c ||
          !isGap rest.head? && (c == '-' || !l.inBrackets && (c == '?' || c == ':')))

/-- The next token behind the gaps, where the text goes on with `c`. -/
def readFrom (c : Char) (l : Lexer) : Except Fault Lexer :=
  let gapFollows := isGap (l.cursor.ahead 1)
  let lineStart := l.cursor.column == 0
  if c == '%' && lineStart then l.readDirective
  else if c == '-' && lineStart && l.cursor.atDocumentMark then
    l.readDocumentMark .documentStart 3
  else if c == '.' && lineStart && l.cursor.atDocumentMark then l.readDocumentMark .documentEnd 3
  else if c == '[' then l.readOpening .listOpen
  else if c == '\x7b' then l.readOpening .recordOpen
  else if c == ']' then l.readClosing .listClose
  else if c == '\x7d' then l.readClosing .recordClose
  else if c == ',' then l.readComma
  else if c == '-' && gapFollows then l.readItem
  else if c == '?' && (l.inBrackets || gapFollows) then l.readKey
  else if c == ':' && (l.inBrackets || gapFollows) then l.readValue
  else if c == '*' then l.readName "alias" .alias
  else if c == '&' then l.readName "anchor" .anchor
  else if c == '!' then l.readTag
  else if c == '|' && !l.inBrackets then l.readBlock false
  else if c == '>' && !l.inBrackets then l.readBlock true
  else if c == '\'' || c == '"' then l.readQuoted c
  else if l.atPlain then l.readPlain
  else
    .error ⟨.token, some "while scanning for the next token", none,
      "found character " ++ showChar (some c) ++ " that cannot start any token", l.mark⟩

/-- The end of the text, behind the ends of all blocks. -/
def finish (l : Lexer) : Except Fault Lexer := do
  let dropped ← (l.unwind (-1)).dropKey
  return dropped.emit .streamEnd

/-- Reads tokens up to the end of the text, or to a fault, which is the last one. -/
def run : Nat → Lexer → Lexer
  | 0, l => l.emit .streamEnd
  | count + 1, l =>
      let spaced := skipGaps (l.cursor.rest.length + 1) l
      let step := fun (l : Lexer) =>
        match l.cursor.peek with
        | some c => l.readFrom c
        | none => l.finish
      match spaced.dropStaleKeys with
      | .error fault => spaced.emit (.broken fault)
      | .ok fresh =>
          let here := fresh.unwind fresh.cursor.column
          match step here with
          | .error fault => here.emit (.broken fault)
          | .ok after => if here.cursor.atEnd then after else run count after

end Lexer

def isAllowed (c : Char) : Bool :=
  c == '\t' || c == '\n' || c == '\r' || c == '\x85' || (' ' ≤ c && c ≤ '~') ||
    ('\xa0' ≤ c && c != '\ufffe' && c != '\uffff')

/-- The first character that a YAML text may not hold. -/
def forbidden? (text : List Char) : Option Fault :=
  (text.findIdx? (!isAllowed ·)).bind fun index => text[index]?.map fun c =>
    .single .character
      ("unacceptable character #x" ++ String.ofList (Text.hexDigits 4 c.toNat) ++
        ": special characters are not allowed")
      ⟨0, 0, index⟩

/-- The tokens of a text; the last is the end of the text or a fault. -/
def tokens (text : List Char) : List Token :=
  match forbidden? text with
  | some fault => [⟨.broken fault, fault.mark⟩]
  | none =>
      let start := Lexer.start (if text.head? == some byteOrderMark then text.tail else text)
      (Lexer.run (2 * text.length + 2) start).tokens.reverse

end CheckKeeper.Yaml
