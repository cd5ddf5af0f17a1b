import CheckKeeper.Value.Basic

namespace CheckKeeper.Json

/-! Values from JSON text.

Besides JSON proper the names of the numbers without digits are read.  Of fields
with one name the last value counts, at the place of the first.  A number without
point and exponent is an integer.
-/

inductive ReadFault where
  | malformed
  | tooDeep
  | tooManyDigits (count : Nat)
deriving DecidableEq, Repr

/-- How deep lists and records may stand in one another. -/
def depthLimit : Nat := 990

def isSpace (c : Char) : Bool :=
  c == ' ' || c == '\t' || c == '\n' || c == '\r'

def skipSpace (cs : List Char) : List Char :=
  cs.dropWhile isSpace

def hexValue? (c : Char) : Option Nat :=
  if '0' ≤ c && c ≤ '9' then some (c.toNat - 48)
  else if 'a' ≤ c && c ≤ 'f' then some (c.toNat - 87)
  else if 'A' ≤ c && c ≤ 'F' then some (c.toNat - 55)
  else none

/-- The number that four hexadecimal digits write, and what follows them. -/
def readUnit? : List Char → Option (Nat × List Char)
  | a :: b :: c :: d :: rest => do
      let high ← hexValue? a
      let second ← hexValue? b
      let third ← hexValue? c
      let low ← hexValue? d
      return (((high * 16 + second) * 16 + third) * 16 + low, rest)
  | _ => none

def isHighSurrogate (unit : Nat) : Bool :=
  0xd800 ≤ unit && unit < 0xdc00

def isLowSurrogate (unit : Nat) : Bool :=
  0xdc00 ≤ unit && unit < 0xe000

/-- What stands in a text for half a character. -/
def replacement : Char := Char.ofNat 0xfffd

def charOfUnit (unit : Nat) : Char :=
  if isHighSurrogate unit || isLowSurrogate unit then replacement else Char.ofNat unit

/-- The second half of a character, if it follows. -/
def readLowHalf? : List Char → Option (Nat × List Char)
  | '\\' :: 'u' :: rest =>
      match readUnit? rest with
      | some (unit, after) => if isLowSurrogate unit then some (unit, after) else none
      | none => none
  | _ => none

/-- The character behind the mark `\u`, which may take two units. -/
def readEscapedUnit? (cs : List Char) : Option (Char × List Char) := do
  let (unit, rest) ← readUnit? cs
  if isHighSurrogate unit then
    match readLowHalf? rest with
    | some (low, after) =>
        return (Char.ofNat (0x10000 + (unit - 0xd800) * 0x400 + (low - 0xdc00)), after)
    | none => return (replacement, rest)
  else return (charOfUnit unit, rest)

/-- The character that stands behind a backslash in the short escapes. -/
def shortEscape? : Char → Option Char
  | '"' => some '"'
  | '\\' => some '\\'
  | '/' => some '/'
  | 'b' => some '\x08'
  | 'f' => some '\x0c'
  | 'n' => some '\n'
  | 'r' => some '\r'
  | 't' => some '\t'
  | _ => none

/-- One character of a text or its end, and what follows. -/
def readTextStep? : List Char → Option (Option Char × List Char)
  | [] => none
  | '"' :: rest => some (none, rest)
  | '\\' :: 'u' :: rest => (readEscapedUnit? rest).map fun (c, after) => (some c, after)
  | '\\' :: mark :: rest => (shortEscape? mark).map fun c => (some c, rest)
  | c :: rest => if c.toNat < 0x20 || c = '\\' then none else some (some c, rest)

/-- The rest of a text behind its opening quote.  Each step takes at least one
character, so as many steps as there are characters are enough. -/
def readText? : Nat → List Char → Option (List Char × List Char)
  | 0, _ => none
  | steps + 1, cs =>
      match readTextStep? cs with
      | none => none
      | some (none, rest) => some ([], rest)
      | some (some c, rest) => (readText? steps rest).map fun (more, after) => (c :: more, after)

def readTextAt (cs : List Char) : Except ReadFault (String × List Char) :=
  match readText? (cs.length + 1) cs with
  | some (content, rest) => .ok (String.ofList content, rest)
  | none => .error .malformed

/-- The fraction with its point, if there is one, and what follows. -/
def cutFraction : List Char → List Char × List Char
  | '.' :: rest =>
      let digits := rest.takeWhile Number.isDigit
      if digits.isEmpty then ([], '.' :: rest) else ('.' :: digits, rest.dropWhile Number.isDigit)
  | cs => ([], cs)

/-- The exponent with its mark, if there is one, and what follows. -/
def cutExponent : List Char → List Char × List Char
  | mark :: rest =>
      let sign := if rest.head? == some '+' || rest.head? == some '-' then rest.take 1 else []
      let digits := (rest.drop sign.length).takeWhile Number.isDigit
      if (mark = 'e' || mark = 'E') && !digits.isEmpty then
        (mark :: sign ++ digits, rest.drop (sign.length + digits.length))
      else ([], mark :: rest)
  | [] => ([], [])

/-- The digits before the point: one nought, or digits that start with none. -/
def cutWhole (cs : List Char) : List Char × List Char :=
  match cs with
  | '0' :: rest => (['0'], rest)
  | _ => (cs.takeWhile Number.isDigit, cs.dropWhile Number.isDigit)

def readNumber (negative : Bool) (cs : List Char) : Except ReadFault (Value × List Char) :=
  let (whole, afterWhole) := cutWhole cs
  if whole.isEmpty then .error .malformed
  else
    let (fraction, afterFraction) := cutFraction afterWhole
    let (exponent, rest) := cutExponent afterFraction
    if fraction.isEmpty && exponent.isEmpty then
      if Number.digitLimit < whole.length then .error (.tooManyDigits whole.length)
      else
        let magnitude : Int := Number.natOfDigits whole
        .ok (.int (if negative then -magnitude else magnitude), rest)
    else
      match Number.readDecimal? (whole ++ fraction ++ exponent) with
      | some decimal => .ok (.float (Number.ofCode negative decimal.readCode), rest)
      | none => .error .malformed

/-- What follows `word`, if the text starts with it. -/
def afterWord? (word : String) (cs : List Char) : Option (List Char) :=
  if word.toList.isPrefixOf cs then some (cs.drop word.length) else none

def namedValues : List (String × Value) :=
  [("null", .null), ("true", .bool true), ("false", .bool false), ("NaN", .float Number.notANumber),
    ("Infinity", .float (Number.ofCode false Number.infinityCode)),
    ("-Infinity", .float (Number.ofCode true Number.infinityCode))]

def readNamed? (cs : List Char) : Option (Value × List Char) :=
  namedValues.findSome? fun (word, value) => (afterWord? word cs).map fun rest => (value, rest)

def readAtom (cs : List Char) : Except ReadFault (Value × List Char) :=
  match readNamed? cs with
  | some found => .ok found
  | none =>
      match cs with
      | '"' :: rest => do
          let (content, after) ← readTextAt rest
          return (.text content, after)
      | '-' :: rest => readNumber true rest
      | _ => readNumber false cs

/-- Sets a field: in its place if the name is there, and else at the end. -/
def setField (fields : List (String × Value)) (name : String) (value : Value) :
    List (String × Value) :=
  if fields.any (·.1 == name) then
    fields.map fun field => if field.1 == name then (name, value) else field
  else fields ++ [(name, value)]

/-- How one value is read, for the loops over items and fields. -/
abbrev ItemReader := List Char → Except ReadFault (Value × List Char)

/-- The items of a list behind its first bracket, of which `done` are read. -/
def readItems (readItem : ItemReader) : Nat → List Value → List Char →
    Except ReadFault (Value × List Char)
  | 0, _, _ => .error .malformed
  | steps + 1, done, cs => do
      let (item, after) ← readItem (skipSpace cs)
      let done := done ++ [item]
      match skipSpace after with
      | ',' :: rest => readItems readItem steps done rest
      | ']' :: rest => return (.list done, rest)
      | _ => .error .malformed

/-- The fields of a record from a name on, of which `done` are read. -/
def readFields (readItem : ItemReader) : Nat → List (String × Value) → List Char →
    Except ReadFault (Value × List Char)
  | 0, _, _ => .error .malformed
  | steps + 1, done, cs =>
      match skipSpace cs with
      | '"' :: afterQuote => do
          let (name, afterName) ← readTextAt afterQuote
          match skipSpace afterName with
          | ':' :: afterColon =>
              let (value, after) ← readItem (skipSpace afterColon)
              let done := setField done name value
              match skipSpace after with
              | ',' :: rest => readFields readItem steps done rest
              | '}' :: rest => return (Value.ofFields done, rest)
              | _ => .error .malformed
          | _ => .error .malformed
      | _ => .error .malformed

/-- Reads a value with at most `depth` levels of lists and records. -/
def readValue : Nat → ItemReader
  | 0, cs =>
      match cs with
      | '[' :: _ => .error .tooDeep
      | '{' :: _ => .error .tooDeep
      | _ => readAtom cs
  | depth + 1, cs =>
      match cs with
      | '[' :: rest =>
          match skipSpace rest with
          | ']' :: after => .ok (.list [], after)
          | inner => readItems (readValue depth) (inner.length + 1) [] inner
      | '{' :: rest =>
          match skipSpace rest with
          | '}' :: after => .ok (.record [], after)
          | inner => readFields (readValue depth) (inner.length + 1) [] inner
      | _ => readAtom cs

def read (text : String) : Except ReadFault Value := do
  let (value, rest) ← readValue depthLimit (skipSpace text.toList)
  if (skipSpace rest).isEmpty then return value else .error .malformed

end CheckKeeper.Json
