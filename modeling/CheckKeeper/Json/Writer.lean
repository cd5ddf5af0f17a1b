import CheckKeeper.Value.Excess

namespace CheckKeeper.Json

/-! Values as JSON text.

The text is plain ASCII: every other character is written by its number in
UTF-16.  The numbers that have no digits are written by name.  A style says
whether items stand on lines of their own, and whether a value that JSON does not
know is refused or written as a text.
-/

/-- The two UTF-16 units of a character beyond the first plane. -/
def surrogates (code : Nat) : Nat × Nat :=
  (0xd800 + (code - 0x10000) / 0x400, 0xdc00 + (code - 0x10000) % 0x400)

def unitEscape (unit : Nat) : List Char :=
  '\\' :: 'u' :: Text.hexDigits 4 unit

def escapeChar (c : Char) : List Char :=
  if c = '"' then ['\\', '"']
  else if c = '\\' then ['\\', '\\']
  else if c = '\n' then ['\\', 'n']
  else if c = '\r' then ['\\', 'r']
  else if c = '\t' then ['\\', 't']
  else if c = '\x08' then ['\\', 'b']
  else if c = '\x0c' then ['\\', 'f']
  else if ' ' ≤ c && c ≤ '~' then [c]
  else if c.toNat < 0x10000 then unitEscape c.toNat
  else
    let (high, low) := surrogates c.toNat
    unitEscape high ++ unitEscape low

def writeChars (cs : List Char) : List Char :=
  '"' :: cs.flatMap escapeChar ++ ['"']

def writeText (s : String) : String :=
  String.ofList (writeChars s.toList)

def writeFloat (x : Float) : String :=
  Number.renderWith ⟨"Infinity", "NaN"⟩ x

structure Style where
  indent : Option Nat
  takesAny : Bool

/-- All on one line; what JSON does not know is refused. -/
def Style.strict : Style := ⟨none, false⟩

/-- All on one line; what JSON does not know becomes a text. -/
def Style.lenient : Style := ⟨none, true⟩

/-- One item a line, two blanks further in at each level. -/
def Style.pretty : Style := ⟨some 2, true⟩

def fieldName (style : Style) : Value → Except Misuse String
  | .text content => .ok content
  | .int number => .ok (Number.renderInt number)
  | .float number => .ok (writeFloat number)
  | .bool flag => .ok (if flag then "true" else "false")
  | .null => .ok "null"
  | other =>
      .error (.unwritableName (if style.indent.isSome then other.shortTypeName else other.typeName))

def lineBreak (width level : Nat) : String :=
  String.ofList ('\n' :: List.replicate (width * level) ' ')

def enclose (style : Style) (level : Nat) (opening closing : String) (items : List String) :
    String :=
  if items.isEmpty then opening ++ closing
  else
    match style.indent with
    | none => opening ++ Text.join ", " items ++ closing
    | some width =>
        let lineStart := lineBreak width (level + 1)
        opening ++ lineStart ++ Text.join ("," ++ lineStart) items ++ lineBreak width level ++ closing

mutual

def writeAt (style : Style) (level : Nat) : Value → Except Misuse String
  | .null => .ok "null"
  | .bool true => .ok "true"
  | .bool false => .ok "false"
  | .int number => .ok (Number.renderInt number)
  | .float number => .ok (writeFloat number)
  | .text content => .ok (writeText content)
  | .moment point =>
      if style.takesAny then .ok (writeText (Value.plain (.moment point)))
      else .error (.unwritable "datetime")
  | .day date =>
      if style.takesAny then .ok (writeText (Value.plain (.day date)))
      else .error (.unwritable "date")
  | .list items => do
      return enclose style level "[" "]" (← writeItems style (level + 1) items)
  | .record fields => do
      return enclose style level "\x7b" "\x7d" (← writeFields style (level + 1) fields)

def writeItems (style : Style) (level : Nat) : List Value → Except Misuse (List String)
  | [] => .ok []
  | item :: rest => do
      let first ← writeAt style level item
      return first :: (← writeItems style level rest)

def writeFields (style : Style) (level : Nat) : List (Value × Value) → Except Misuse (List String)
  | [] => .ok []
  | (name, value) :: rest => do
      let label ← fieldName style name
      let content ← writeAt style level value
      return (writeText label ++ ": " ++ content) :: (← writeFields style level rest)

end

def write (style : Style) (value : Value) : Except Misuse String :=
  writeAt style 0 value

/-- The text of a value that is within the limits of showing it. -/
def dump (style : Style) (value : Value) : Except Failure String :=
  match value.excess? depthLimit with
  | some failure => .error failure
  | none => (write style value).mapError .misuse

end CheckKeeper.Json
