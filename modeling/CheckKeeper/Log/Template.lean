import CheckKeeper.Number.Places
import CheckKeeper.Text.Case
import CheckKeeper.Value.Convert

namespace CheckKeeper.Log

/-! Templates of messages.

A place in a template begins with a percent sign and ends with a letter, which says
how its argument is written; between them stand flags, the least width and the
precision, and in front of these perhaps the name of a field.  Two percent signs
stand for one.  Arguments are taken in their order, each of them once.  Named fields
are those of a record that is the only argument.
-/

inductive PlaceName where
  | none
  | named (name : List Char)
  | unclosed

/-- A width or a precision; `given` takes it from the arguments. -/
inductive Measure where
  | none
  | fixed (size : Nat)
  | given

structure Flags where
  left : Bool
  sign : Bool
  blank : Bool
  alternate : Bool
  noughts : Bool

def Flags.ofChars (cs : List Char) : Flags :=
  ⟨cs.contains '-', cs.contains '+', cs.contains ' ', cs.contains '#', cs.contains '0'⟩

structure Place where
  name : PlaceName
  flags : Flags
  width : Measure
  precision : Measure
  letter : Option Char
  index : Nat

/-- The name in brackets that a place begins with; brackets within it are paired. -/
def cutName : Nat → List Char → Option (List Char × List Char)
  | _, [] => none
  | depth, c :: rest =>
      if c = ')' && depth = 0 then some ([], rest)
      else
        let next := if c = '(' then depth + 1 else if c = ')' then depth - 1 else depth
        (cutName next rest).map fun (name, left) => (c :: name, left)

def readName : List Char → PlaceName × List Char
  | '(' :: rest =>
      match cutName 0 rest with
      | some (name, left) => (.named name, left)
      | none => (.unclosed, [])
  | cs => (.none, cs)

def isFlag (c : Char) : Bool :=
  c == '-' || c == '+' || c == ' ' || c == '#' || c == '0'

def isDigit (c : Char) : Bool :=
  '0' ≤ c && c ≤ '9'

def natOf (digits : List Char) : Nat :=
  digits.foldl (fun n d => 10 * n + (d.toNat - 48)) 0

def readMeasure : List Char → Measure × List Char
  | '*' :: rest => (.given, rest)
  | c :: rest =>
      if isDigit c then (.fixed (natOf (c :: rest.takeWhile isDigit)), rest.dropWhile isDigit)
      else (.none, c :: rest)
  | [] => (.none, [])

/-- A precision without digits is nought. -/
def readPrecision : List Char → Measure × List Char
  | '.' :: rest =>
      match readMeasure rest with
      | (.none, left) => (.fixed 0, left)
      | found => found
  | cs => (.none, cs)

/-- Passes over a letter for the size of a number, which means nothing. -/
def skipSize : List Char → List Char
  | c :: rest => if c == 'h' || c == 'l' || c == 'L' then rest else c :: rest
  | [] => []

/-- Reads a place behind its percent sign, and answers what is left.  `length` is the
length of the whole template. -/
def readPlace (length : Nat) (cs : List Char) : Place × List Char :=
  let (name, afterName) := readName cs
  let flags := Flags.ofChars (afterName.takeWhile isFlag)
  let (width, afterWidth) := readMeasure (afterName.dropWhile isFlag)
  let (precision, afterPrecision) := readPrecision afterWidth
  let last := skipSize afterPrecision
  (⟨name, flags, width, precision, last.head?, length - last.length⟩, last.tail)

inductive Arguments where
  | several (left : List Value)
  | fields (row : Row) (next : Option Value)

/-- A record that is not empty stands for its fields if it is the only argument. -/
def Arguments.of : List Value → Arguments
  | [.record row] => if row.isEmpty then .several [.record row] else .fields row (some (.record row))
  | values => .several values

namespace Arguments

def take : Arguments → Except Failure (Value × Arguments)
  | .several (value :: rest) => .ok (value, .several rest)
  | .fields row (some value) => .ok (value, .fields row none)
  | _ => .error (.template .tooFew)

def goTo (name : PlaceName) (arguments : Arguments) : Except Failure Arguments :=
  match name, arguments with
  | .none, arguments => .ok arguments
  | _, .several _ => .error (.template .noMapping)
  | .unclosed, .fields _ _ => .error (.template .incompleteKey)
  | .named name, .fields row _ => do
      return .fields row (some (← row.require (String.ofList name)))

def checkDone : Arguments → Except Failure Unit
  | .several (_ :: _) => .error (.template .tooMany)
  | _ => .ok ()

end Arguments

/-- An integer that is given for a width or a precision. -/
def measureOf : Value → Except Failure Int
  | .int number => .ok number
  | .bool flag => .ok (Value.bit flag)
  | _ => .error (.template .measure)

def widthLimit : Nat := 0x7fffffffffffffff
def precisionLimit : Nat := 0x7fffffff

/-- Refuses a given measure that is too large in either direction. -/
def checkMeasure (limit : Nat) (size : Int) : Except Failure Int :=
  if -(limit : Int) - 1 ≤ size && size ≤ limit then .ok size else .error (.template .beyondMeasure)

/-- A measure up to a limit, with what is left of the arguments. -/
def takeMeasure (limit : Nat) (tooLarge : TemplateFault) (measure : Measure)
    (arguments : Arguments) : Except Failure (Option Int × Arguments) := do
  match measure with
  | .none => return (none, arguments)
  | .fixed size => if size ≤ limit then return (some size, arguments) else .error (.template tooLarge)
  | .given => do
      let (value, left) ← arguments.take
      return (some (← checkMeasure limit (← measureOf value)), left)

/-- A written argument: its sign, a mark of its base, and the rest. -/
structure Written where
  sign : List Char
  mark : List Char
  body : List Char

/-- How a written argument is fitted into its place. -/
structure Fitting where
  width : Nat
  left : Bool
  noughts : Bool

def Written.fit (fitting : Fitting) (written : Written) : List Char :=
  let front := written.sign ++ written.mark
  let missing := fitting.width - (front.length + written.body.length)
  if fitting.left then front ++ written.body ++ List.replicate missing ' '
  else if fitting.noughts then front ++ List.replicate missing '0' ++ written.body
  else List.replicate missing ' ' ++ front ++ written.body

def Flags.signOf (flags : Flags) (negative : Bool) : List Char :=
  if negative then ['-'] else if flags.sign then ['+'] else if flags.blank then [' '] else []

def baseOf (letter : Char) : Nat :=
  match letter with
  | 'o' => 8
  | 'x' | 'X' => 16
  | _ => 10

/-- The whole number that a letter writes; only decimal numbers are cut. -/
def wholeOf (letter : Char) (value : Value) : Except Failure Int :=
  match value with
  | .int number => .ok number
  | .bool flag => .ok (Value.bit flag)
  | .float number =>
      if baseOf letter = 10 then Value.intOfFloat number
      else .error (.template (.notInteger letter "float"))
  | other =>
      .error (.template
        (if baseOf letter = 10 then .notReal letter other.typeName
         else .notInteger letter other.typeName))

def capitalIf (capital : Bool) (cs : List Char) : List Char :=
  if capital then cs.map Char.toUpper else cs

/-- Writes a whole number with at least as many digits as the precision says. -/
def writeWhole (flags : Flags) (precision : Option Int) (letter : Char) (number : Int) : Written :=
  let base := baseOf letter
  let digits := Number.padDigits (precision.getD 0).toNat (Nat.toDigits base number.natAbs)
  let mark := if flags.alternate && base != 10 then ['0', letter] else []
  ⟨flags.signOf (number < 0), mark, capitalIf (letter == 'X') digits⟩

/-- The number that a letter writes with a fraction. -/
def numberOf (value : Value) : Except Failure Float :=
  match value with
  | .int _ | .bool _ | .float _ => value.toFloat
  | other => .error (.template (.notNumber other.typeName))

def fractionDigits (precision : Number.Precision) (letter : Char) (x : Number.Dyadic) : List Char :=
  let (numerator, denominator) := x.toRatio
  match letter.toLower with
  | 'e' => Number.writeScientific precision numerator.natAbs denominator
  | 'g' => Number.writeGeneral precision numerator.natAbs denominator
  | _ => Number.writeFixed precision numerator.natAbs denominator

def writeFraction (flags : Flags) (precision : Option Int) (letter : Char) (x : Float) : Written :=
  let places := (precision.getD 6).toNat
  let body :=
    match Number.toDyadic? x with
    | some finite => fractionDigits ⟨places, flags.alternate⟩ letter finite
    | none => if Number.isNaN x then "nan".toList else "inf".toList
  ⟨flags.signOf (Number.isNegative x && !Number.isNaN x), [], capitalIf letter.isUpper body⟩

/-- A text, cut to the precision. -/
def writeText (precision : Option Int) (content : String) : Written :=
  let cs := content.toList
  ⟨[], [], precision.elim cs fun count => cs.take count.toNat⟩

/-- A text with characters beyond ASCII by their numbers. -/
def asciiText (content : String) : String :=
  String.ofList (content.toList.flatMap fun c =>
    if c.toNat < 128 then [c] else Text.numbered c)

def writeChar : Value → Except Failure Written
  | .text content =>
      match content.toList with
      | [c] => .ok ⟨[], [], [c]⟩
      | _ => .error (.template .noCharacter)
  | .int code =>
      if 0 ≤ code && code < 0x110000 then .ok ⟨[], [], [Char.ofNat code.toNat]⟩
      else .error (.template .beyondCharacters)
  | .bool flag => .ok ⟨[], [], [Char.ofNat (Value.bit flag).toNat]⟩
  | _ => .error (.template .noCharacter)

def writeAs (flags : Flags) (precision : Option Int) (letter : Char) (index : Nat) (value : Value) :
    Except Failure Written :=
  match letter with
  | 's' => value.written.map (writeText precision)
  | 'r' => value.shown.map (writeText precision)
  | 'a' => value.shown.map fun content => writeText precision (asciiText content)
  | 'd' | 'i' | 'u' | 'o' | 'x' | 'X' => do
      return writeWhole flags precision letter (← wholeOf letter value)
  | 'e' | 'E' | 'f' | 'F' | 'g' | 'G' => do
      return writeFraction flags precision letter (← numberOf value)
  | 'c' => writeChar value
  | other => .error (.template (.unknown other index))

/-- Whether noughts may fill up what a letter writes. -/
def takesNoughts (letter : Char) : Bool :=
  "diuoxXeEfFgG".toList.contains letter

def fill (place : Place) (arguments : Arguments) : Except Failure (List Char × Arguments) := do
  let arguments ← arguments.goTo place.name
  let (width, arguments) ← takeMeasure widthLimit .wideWidth place.width arguments
  let (precision, arguments) ← takeMeasure precisionLimit .widePrecision place.precision arguments
  match place.letter with
  | none => .error (.template .incomplete)
  | some letter => do
      let (value, left) ← arguments.take
      let written ← writeAs place.flags (precision.map (max 0)) letter place.index value
      let fitting : Fitting := {
        width := (width.getD 0).natAbs
        left := place.flags.left || width.any (· < 0)
        noughts := place.flags.noughts && takesNoughts letter }
      return (written.fit fitting, left)

/-- Fills the places of a template, of which there are at most as many as it has
characters. -/
def fillFrom (length : Nat) : Nat → List Char → Arguments → Except Failure (List Char)
  | 0, _, arguments => arguments.checkDone.map fun _ => []
  | _, [], arguments => arguments.checkDone.map fun _ => []
  | fuel + 1, '%' :: '%' :: rest, arguments => (fillFrom length fuel rest arguments).map ('%' :: ·)
  | fuel + 1, c :: rest, arguments =>
      if c = '%' then do
        let (place, left) := readPlace length rest
        let (written, later) ← fill place arguments
        return written ++ (← fillFrom length fuel left later)
      else (fillFrom length fuel rest arguments).map (c :: ·)

/-- The message that a template makes of its arguments; without arguments it is the
template itself. -/
def message (template : String) (arguments : List Value) : Except Failure String :=
  if arguments.isEmpty then .ok template
  else
    let cs := template.toList
    (fillFrom cs.length cs.length cs (Arguments.of arguments)).map String.ofList

end CheckKeeper.Log
