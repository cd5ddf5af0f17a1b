import CheckKeeper.Value.Convert

namespace CheckKeeper.Yaml

open Calendar

/-! What plain scalars mean.

A scalar that is not quoted is nothing, a truth value, a number, a day or a moment
if it is written like one, and else a text.  Underscores in numbers do not count;
a number may also be written in base 2, 8, 16, or in parts of sixty.
-/

def nullWords : List String :=
  ["", "~", "null", "Null", "NULL"]

def trueWords : List String :=
  ["yes", "Yes", "YES", "true", "True", "TRUE", "on", "On", "ON"]

def falseWords : List String :=
  ["no", "No", "NO", "false", "False", "FALSE", "off", "Off", "OFF"]

def isDigitOrMark (c : Char) : Bool :=
  Number.isDigit c || c == '_'

def isBinary (c : Char) : Bool :=
  c == '0' || c == '1' || c == '_'

def isOctal (c : Char) : Bool :=
  ('0' ≤ c && c ≤ '7') || c == '_'

def isHex (c : Char) : Bool :=
  isDigitOrMark c || ('a' ≤ c && c ≤ 'f') || ('A' ≤ c && c ≤ 'F')

/-- The worth of one digit. -/
def digitWorth (c : Char) : Nat :=
  if Number.isDigit c then c.toNat - 48
  else if 'a' ≤ c then c.toNat - 87
  else c.toNat - 55

/-- The number of the digits of a base; marks between them do not count. -/
def inBase (base : Nat) (digits : List Char) : Nat :=
  (digits.filter (· != '_')).foldl (fun total c => total * base + digitWorth c) 0

/-- One part of sixty: one digit, or two of which the first is below six. -/
def isSixtieth : List Char → Bool
  | [a] => Number.isDigit a
  | [a, b] => '0' ≤ a && a ≤ '5' && Number.isDigit b
  | _ => false

/-- A digit from 1 on, then digits and marks. -/
def isPlainNumber : List Char → Bool
  | [] => false
  | c :: rest => '1' ≤ c && c ≤ '9' && rest.all isDigitOrMark

def isFractionStart : List Char → Bool
  | [] => false
  | c :: rest => Number.isDigit c && rest.all isDigitOrMark

def wholeNumber? (body : List Char) : Option (Except Failure Int) :=
  let value := fun (n : Nat) => some (.ok (n : Int))
  match body with
  | ['0'] => value 0
  | '0' :: 'b' :: digits =>
      if !digits.isEmpty && digits.all isBinary then value (inBase 2 digits) else none
  | '0' :: 'x' :: digits =>
      if !digits.isEmpty && digits.all isHex then value (inBase 16 digits) else none
  | '0' :: digits => if digits.all isOctal then value (inBase 8 digits) else none
  | _ =>
      match Text.splitAt ':' body with
      | [digits] =>
          if isPlainNumber digits then
            some ((Number.readInt (String.ofList (digits.filter (· != '_')))).mapError .literal)
          else none
      | first :: later =>
          if isPlainNumber first && later.all isSixtieth then
            value (later.foldl (fun total part => total * 60 + inBase 10 part) (inBase 10 first))
          else none
      | [] => none

def integer? (text : List Char) : Option (Except Failure Int) :=
  let (negative, body) := Number.cutSign text
  (wholeNumber? body).map fun found => found.map fun n => if negative then -n else n

/-- An exponent, which must have a sign. -/
def isExponent : List Char → Bool
  | [] => true
  | mark :: sign :: digits =>
      (mark == 'e' || mark == 'E') && (sign == '+' || sign == '-') && !digits.isEmpty &&
        digits.all Number.isDigit
  | _ => false

/-- Digits and marks, and perhaps an exponent. -/
def isFractionEnd (cs : List Char) : Bool :=
  isExponent (cs.dropWhile isDigitOrMark)

def decimal (text : List Char) : Float :=
  (Number.readFloat (String.ofList (text.filter (· != '_')))).toOption.getD 0.0

/-- A number in parts of sixty, of which the last has a fraction. -/
def sixties (parts : List (List Char)) : Float :=
  (parts.reverse.foldl
    (fun (total, worth) part => (total + decimal part * worth, worth * 60.0)) (0.0, 1.0)).1

/-- Whether a number is written in parts of sixty with a point behind the last. -/
def isSixties (parts : List (List Char)) : Bool :=
  match parts, parts.getLast? with
  | first :: _ :: _, some last =>
      isFractionStart first && (parts.tail.dropLast).all isSixtieth &&
        isSixtieth (last.takeWhile (· != '.')) &&
        (match last.dropWhile (· != '.') with
          | '.' :: digits => digits.all isDigitOrMark
          | _ => false)
  | _, _ => false

def fraction? (body : List Char) : Option Float :=
  match body.takeWhile (· != '.'), body.dropWhile (· != '.') with
  | whole, '.' :: rest =>
      if isFractionStart whole && isFractionEnd rest then some (decimal body)
      else
        let parts := Text.splitAt ':' body
        if isSixties parts then some (sixties parts) else none
  | _, _ => none

/-- The number without fraction digits that a word names. -/
def namedNumber? (negative signed : Bool) (body : List Char) : Option Float :=
  if [".inf", ".Inf", ".INF"].contains (String.ofList body) then
    some (Number.ofCode negative Number.infinityCode)
  else if !signed && [".nan", ".NaN", ".NAN"].contains (String.ofList body) then
    some Number.notANumber
  else none

def number? (text : List Char) : Option Float :=
  let (negative, body) := Number.cutSign text
  let signed := body.length != text.length
  match namedNumber? negative signed body with
  | some found => some found
  | none =>
      match body with
      | '.' :: rest =>
          if !signed && rest.head?.any Number.isDigit && isFractionEnd rest then
            some (decimal body)
          else none
      | _ => (fraction? body).map fun x => if negative then -x else x

/-- One or two digits, and what follows them. -/
def upToTwoDigits? (cs : List Char) : Option (Nat × List Char) :=
  match Calendar.takeDigits? 2 cs with
  | some found => some found
  | none => Calendar.takeDigits? 1 cs

/-- What stands behind a character that must be here. -/
def behind? (c : Char) : List Char → Option (List Char)
  | first :: rest => if first = c then some rest else none
  | [] => none

/-- The offset at the end of a moment: none, universal time, or a distance. -/
def offset? (cs : List Char) : Option (Option Span) :=
  match cs.dropWhile isBlankMark with
  | [] => if cs.isEmpty then some none else none
  | ['Z'] => some (some 0)
  | sign :: rest =>
      if sign = '+' || sign = '-' then do
        let (hours, afterHours) ← upToTwoDigits? rest
        let minutes ←
          match afterHours with
          | [] => some 0
          | ':' :: digits => (Calendar.takeDigits? 2 digits).bind fun (minutes, later) =>
              if later.isEmpty then some minutes else none
          | _ => none
        let span : Span := hours * hour + minutes * minute
        return some (if sign = '-' then -span else span)
      else none
where
  isBlankMark (c : Char) : Bool := c == ' ' || c == '\t'

structure WrittenMoment where
  year : Nat
  month : Nat
  day : Nat
  hours : Nat
  minutes : Nat
  seconds : Nat
  micros : Nat
  offset : Option Span

/-- The microseconds of the digits behind the point, of which six count. -/
def microsOf (digits : List Char) : Nat :=
  Number.natOfDigits ((digits ++ List.replicate 6 '0').take 6)

def skipDateGap? (cs : List Char) : Option (List Char) :=
  match cs with
  | [] => none
  | c :: rest =>
      if c = 'T' || c = 't' then some rest
      else if c = ' ' || c = '\t' then some (rest.dropWhile fun d => d == ' ' || d == '\t')
      else none

def writtenMoment? (text : List Char) : Option WrittenMoment := do
  let (year, rest) ← Calendar.takeDigits? 4 text
  let (month, rest) ← (behind? '-' rest).bind upToTwoDigits?
  let (day, rest) ← (behind? '-' rest).bind upToTwoDigits?
  let (hours, rest) ← (skipDateGap? rest).bind upToTwoDigits?
  let (minutes, rest) ← (behind? ':' rest).bind (Calendar.takeDigits? 2)
  let (seconds, rest) ← (behind? ':' rest).bind (Calendar.takeDigits? 2)
  let pointed := rest.head? == some '.'
  let digits := if pointed then rest.tail.takeWhile Number.isDigit else []
  let later := if pointed then rest.tail.dropWhile Number.isDigit else rest
  let offset ← offset? later
  return ⟨year, month, day, hours, minutes, seconds, microsOf digits, offset⟩

/-- A day as written: four digits, two and two. -/
def writtenDay? (text : List Char) : Option (Nat × Nat × Nat) := do
  let (year, rest) ← Calendar.takeDigits? 4 text
  let (month, rest) ← (behind? '-' rest).bind (Calendar.takeDigits? 2)
  let (day, rest) ← (behind? '-' rest).bind (Calendar.takeDigits? 2)
  if rest.isEmpty then return (year, month, day) else none

def offsetOf (span : Span) : Except IsoError Offset :=
  if inRange : -day < span ∧ span < day then .ok ⟨span, inRange⟩ else .error (.offset span)

def WrittenMoment.toMoment (w : WrittenMoment) : Except IsoError Moment := do
  let offset ← w.offset.mapM offsetOf
  let date ← (Date.of w.year w.month w.day).mapError .date
  if microsOk : w.micros < 1000000 then
    let time ← (TimeOfDay.of w.hours w.minutes w.seconds w.micros microsOk).mapError .time
    return ⟨date, time, offset⟩
  else .error (.malformed "")

def plainValue (content : List Char) : Except Failure Value :=
  let word := String.ofList content
  if nullWords.contains word then .ok .null
  else if trueWords.contains word then .ok (.bool true)
  else if falseWords.contains word then .ok (.bool false)
  else
    match number? content with
    | some x => .ok (.float x)
    | none =>
        match integer? content with
        | some found => found.map .int
        | none =>
            match writtenDay? content with
            | some (year, month, day) =>
                ((Date.of year month day).map Value.day).mapError fun fault => .moment (.date fault)
            | none =>
                match writtenMoment? content with
                | some written => (written.toMoment.map Value.moment).mapError .moment
                | none => .ok (.text word)

/-- What shows that a plain scalar would not be read as the text that it writes. -/
def readsAsText (content : List Char) : Bool :=
  match plainValue content with
  | .ok (.text _) => true
  | _ => false

end CheckKeeper.Yaml
