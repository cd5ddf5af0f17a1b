import CheckKeeper.Number.Shortest
import CheckKeeper.Text.Blank
import CheckKeeper.Text.Digit

namespace CheckKeeper.Number

open CheckKeeper.Text

/-! Numbers read from text.

Blanks around a literal are passed over, the digits may be those of any script,
and a single underscore may stand between two digits.
-/

inductive LiteralError where
  | notInteger (text : String)
  | notNumber (text : String)
  | tooManyDigits (count : Nat)
deriving DecidableEq, Repr

/-- Longest integer literal that is read, in digits. -/
def digitLimit : Nat := 4300

def renderInt (i : Int) : String :=
  match i with
  | .ofNat n => String.ofList (Nat.toDigits 10 n)
  | .negSucc n => String.ofList ('-' :: Nat.toDigits 10 (n + 1))

/-- Blanks around a literal; the information separators are not among them. -/
def isLiteralBlank (c : Char) : Bool :=
  isBlank c && !(0x1c ≤ c.toNat && c.toNat ≤ 0x1f)

def isDigit (c : Char) : Bool :=
  '0' ≤ c && c ≤ '9'

/-- A digit of any script as the plain digit of the same value. -/
def plainDigit (c : Char) : Char :=
  match digitValue? c with
  | some value => Char.ofNat (48 + value)
  | none => c

/-- Takes out the underscores, each of which must stand between two digits. -/
def dropUnderscores (afterDigit : Bool) : List Char → Option (List Char)
  | [] => some []
  | c :: rest =>
      if c = '_' then
        match rest with
        | next :: _ => if afterDigit && isDigit next then dropUnderscores false rest else none
        | [] => none
      else (dropUnderscores (isDigit c) rest).map (c :: ·)

/-- The literal between its blanks, in plain digits and without underscores. -/
def plainLiteral? (text : List Char) : Option (List Char) :=
  dropUnderscores false ((dropEndWhile isLiteralBlank (text.dropWhile isLiteralBlank)).map plainDigit)

/-- Whether there was a minus, and what follows the sign. -/
def cutSign : List Char → Bool × List Char
  | '-' :: rest => (true, rest)
  | '+' :: rest => (false, rest)
  | rest => (false, rest)

def natOfDigits (digits : List Char) : Nat :=
  digits.foldl (fun total c => total * 10 + (c.toNat - 48)) 0

def readInt (s : String) : Except LiteralError Int :=
  match plainLiteral? s.toList with
  | none => .error (.notInteger s)
  | some literal =>
      let (negative, digits) := cutSign literal
      if digits.isEmpty || !digits.all isDigit then .error (.notInteger s)
      else if digitLimit < digits.length then .error (.tooManyDigits digits.length)
      else
        let magnitude : Int := natOfDigits digits
        .ok (if negative then -magnitude else magnitude)

/-- The part of a decimal literal behind its digits: nothing, or an exponent. -/
def readExponent? : List Char → Option Int
  | [] => some 0
  | mark :: rest =>
      let (negative, digits) := cutSign rest
      if (mark = 'e' || mark = 'E') && !digits.isEmpty && digits.all isDigit then
        let magnitude : Int := natOfDigits digits
        some (if negative then -magnitude else magnitude)
      else none

/-- A literal of digits with an optional point and exponent. -/
def readDecimal? (literal : List Char) : Option Decimal :=
  let whole := literal.takeWhile isDigit
  let afterWhole := literal.dropWhile isDigit
  let afterPoint :=
    match afterWhole with
    | '.' :: rest => rest
    | _ => []
  let pointed := afterWhole.head? == some '.'
  let fraction := afterPoint.takeWhile isDigit
  let tail := if pointed then afterPoint.dropWhile isDigit else afterWhole
  if whole.isEmpty && fraction.isEmpty then none
  else
    (readExponent? tail).map fun exponent =>
      ⟨natOfDigits (whole ++ fraction), exponent - fraction.length⟩

/-- The magnitude that a decimal reads as; exponents far outside the range of the
numbers are decided without computing the power. -/
def Decimal.readCode (d : Decimal) : Nat :=
  let magnitude := d.exponent + decimalLength d.digits
  if d.digits = 0 then 0
  else if 400 < magnitude then infinityCode
  else if magnitude < -400 then 0
  else d.code

def isWord (word : String) (literal : List Char) : Bool :=
  literal.map Char.toLower == word.toList

def notANumber : Float :=
  Float.ofBits 0x7ff8000000000000

def readFloat (s : String) : Except LiteralError Float :=
  match plainLiteral? s.toList with
  | none => .error (.notNumber s)
  | some literal =>
      let (negative, body) := cutSign literal
      if isWord "inf" body || isWord "infinity" body then .ok (ofCode negative infinityCode)
      else if isWord "nan" body then .ok notANumber
      else
        match readDecimal? body with
        | some decimal => .ok (ofCode negative decimal.readCode)
        | none => .error (.notNumber s)

end CheckKeeper.Number
