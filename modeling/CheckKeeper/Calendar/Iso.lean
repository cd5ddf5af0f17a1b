import CheckKeeper.Calendar.Moment
import CheckKeeper.Text.Quoted
import CheckKeeper.Number.Literal

namespace CheckKeeper.Calendar

/-! Moments as text, after ISO 8601.

Written are date, separator, time and offset, with the fractions only where they
are not nought.  Read are also week dates, forms without dashes or colons, any
one character between date and time, and fractions of any length, of which six
digits count.
-/

/-- The last `width` decimal digits of `n`. -/
def paddedDigits : Nat → Nat → List Char
  | 0, _ => []
  | width + 1, n => paddedDigits width (n / 10) ++ [Char.ofNat (48 + n % 10)]

def renderDate (date : Date) : List Char :=
  paddedDigits 4 date.year ++ '-' :: paddedDigits 2 date.month ++ '-' :: paddedDigits 2 date.day

def renderFraction (micros : Nat) : List Char :=
  if micros = 0 then [] else '.' :: paddedDigits 6 micros

def renderTime (time : TimeOfDay) : List Char :=
  paddedDigits 2 time.hours ++ ':' :: paddedDigits 2 time.minutes ++
    ':' :: paddedDigits 2 time.seconds ++ renderFraction time.micros

/-- Hours and minutes, then seconds and their fraction as far as they are needed. -/
def renderOffset (offset : Offset) : List Char :=
  let total := offset.span.natAbs
  let micros := total % 1000000
  let seconds := total / 1000000 % 60
  (if offset.span < 0 then '-' else '+') :: paddedDigits 2 (total / 3600000000) ++
    ':' :: paddedDigits 2 (total / 60000000 % 60) ++
    (if seconds = 0 && micros = 0 then [] else ':' :: paddedDigits 2 seconds) ++
    renderFraction micros

def Moment.renderWith (separator : Char) (m : Moment) : String :=
  String.ofList (renderDate m.date ++ separator :: renderTime m.time ++
    m.offset.elim [] renderOffset)

/-- The text of a moment with `T` between date and time. -/
def Moment.render (m : Moment) : String :=
  m.renderWith 'T'

def Date.render (date : Date) : String :=
  String.ofList (renderDate date)

/-- Days, seconds and microseconds of a span, the last two not negative. -/
def spanParts (span : Span) : Int × Nat × Nat :=
  let withinDay := (span % day).toNat
  (span / day, withinDay / 1000000, withinDay % 1000000)

/-- A span in the form of the constructor that builds it. -/
def describeSpan (span : Span) : String :=
  let (days, seconds, micros) := spanParts span
  let named := fun (name : String) (amount : Int) =>
    if amount = 0 then [] else [name ++ "=" ++ Number.renderInt amount]
  let parts := named "days" days ++ named "seconds" seconds ++ named "microseconds" micros
  "datetime.timedelta(" ++ (if parts.isEmpty then "0" else Text.join ", " parts) ++ ")"

def describeOffset (offset : Offset) : String :=
  if offset.span = 0 then "datetime.timezone.utc"
  else "datetime.timezone(" ++ describeSpan offset.span ++ ")"

/-- A moment in the form of the constructor that builds it; seconds and
microseconds are left out from the end while they are nought. -/
def Moment.describe (m : Moment) : String :=
  let late :=
    if m.time.micros = 0 then
      if m.time.seconds = 0 then [] else [m.time.seconds]
    else [m.time.seconds, m.time.micros]
  let numbers := [m.date.year, m.date.month, m.date.day, m.time.hours, m.time.minutes] ++ late
  let zone := m.offset.elim [] fun offset => ["tzinfo=" ++ describeOffset offset]
  "datetime.datetime(" ++
    Text.join ", " (numbers.map (fun n => Number.renderInt (n : Nat)) ++ zone) ++ ")"

def Date.describe (date : Date) : String :=
  "datetime.date(" ++
    Text.join ", " ([date.year, date.month, date.day].map fun n => Number.renderInt (n : Nat)) ++ ")"

inductive IsoError where
  | malformed (text : String)
  | date (cause : DateError)
  | time (cause : TimeError)
  | offset (span : Span)
deriving DecidableEq, Repr

def IsoError.message : IsoError → String
  | .malformed text => "Invalid isoformat string: " ++ Text.quotedText text
  | .date (.year given) => "year " ++ Number.renderInt given ++ " is out of range"
  | .date .month => "month must be in 1..12"
  | .date .day => "day is out of range for month"
  | .time .hours => "hour must be in 0..23"
  | .time .minutes => "minute must be in 0..59"
  | .time .seconds => "second must be in 0..59"
  | .offset span =>
      "offset must be a timedelta strictly between -timedelta(hours=24) and " ++
        "timedelta(hours=24), not " ++ describeSpan span ++ "."

/-- The number that the first `count` characters write, and what follows them. -/
def takeDigits? (count : Nat) (cs : List Char) : Option (Nat × List Char) :=
  let digits := cs.take count
  if digits.length = count && digits.all Number.isDigit then
    some (Number.natOfDigits digits, cs.drop count)
  else none

/-- What stands for the end of the text. -/
def endMark : Char := Char.ofNat 0

/-- How many characters belong to the date.  A week date without dashes takes its
weekday if that leaves an even number of digits for the time. -/
def dateWidth (cs : List Char) : Option Nat :=
  if cs.length = 7 then some 7
  else if cs[4]? = some '-' then
    if cs[5]? = some 'W' then
      if cs[8]? = some '-' then
        if cs.length = 9 then none
        else if (cs[10]?).any Number.isDigit then some 8
        else some 10
      else some 8
    else some 10
  else if cs[4]? = some 'W' then
    let stop := 7 + ((cs.drop 7).takeWhile Number.isDigit).length
    some (if stop < 9 then stop else if stop % 2 = 0 then 7 else 8)
  else some 8

/-- A date as written: by month and day, or by week and weekday. -/
inductive WrittenDate where
  | calendar (year month day : Nat)
  | week (year week weekday : Nat)
deriving DecidableEq, Repr

/-- Skips the dash that must stand here if the date uses dashes. -/
def skipDash? (dashed : Bool) (cs : List Char) : Option (List Char) :=
  if dashed then
    match cs with
    | '-' :: rest => some rest
    | _ => none
  else some cs

def readDatePart? (width : Nat) (cs : List Char) : Option WrittenDate := do
  let (year, afterYear) ← takeDigits? 4 cs
  let dashed := afterYear.head? == some '-'
  let rest := if dashed then afterYear.drop 1 else afterYear
  match rest with
  | 'W' :: afterMark =>
      let (week, afterWeek) ← takeDigits? 2 afterMark
      if cs.length - afterWeek.length < width then
        let beforeDay ← skipDash? dashed afterWeek
        let (weekday, _) ← takeDigits? 1 beforeDay
        if isWeekDate year week weekday then return .week year week weekday else none
      else if isWeekDate year week 1 then return .week year week 1
      else none
  | _ =>
      let (month, afterMonth) ← takeDigits? 2 rest
      let beforeDay ← skipDash? dashed afterMonth
      let (dayNumber, _) ← takeDigits? 2 beforeDay
      return .calendar year month dayNumber

/-- Hours, minutes, seconds and microseconds as written, none of them checked
against the clock. -/
structure WrittenTime where
  hours : Nat
  minutes : Nat
  seconds : Nat
  micros : Nat
deriving DecidableEq, Repr

/-- Reads up to six digits of a fraction and passes over the others.  Answers the
microseconds and whether the text goes on behind them with something but the end. -/
def readFraction? (follow : Char) (cs : List Char) : Option (Nat × Bool) := do
  let count := min 6 cs.length
  let (value, rest) ← takeDigits? count cs
  let next := (rest.dropWhile Number.isDigit).head?.getD follow
  return (value * Nat.pow 10 (6 - count), next != endMark)

/-- Reads up to `pairs` pairs of digits, with a colon between each two or none at
all, and then a fraction; `done` holds the pairs before.  A mark for the fraction
may follow any pair, and none is needed after the last.  `follow` is the character
behind the part. -/
def readPairs? (follow : Char) : Nat → Bool → List Nat → List Char →
    Option (List Nat × Nat × Bool)
  | 0, _, done, cs => do
      let (micros, more) ← readFraction? follow cs
      return (done, micros, more)
  | pairs + 1, colons, done, cs => do
      let (value, rest) ← takeDigits? 2 cs
      let read := done ++ [value]
      match rest with
      | [] => return (read, 0, follow != endMark)
      | [last] => if last.toNat < 0x80 then return (read, 0, last != endMark) else none
      | mark :: later =>
          let colons := if done.isEmpty then mark == ':' else colons
          if colons && mark == ':' then readPairs? follow pairs colons read later
          else if mark == '.' || mark == ',' then readPairs? follow 0 colons read later
          else if colons then none
          else readPairs? follow pairs colons read rest

/-- The time that a part of the text writes, and whether anything is left over. -/
def readTimePart? (follow : Char) (cs : List Char) : Option (WrittenTime × Bool) := do
  let (pairs, micros, more) ← readPairs? follow 3 false [] cs
  return (⟨pairs.getD 0 0, pairs.getD 1 0, pairs.getD 2 0, micros⟩, more)

def WrittenTime.span (time : WrittenTime) : Span :=
  time.hours * hour + time.minutes * minute + time.seconds * second + time.micros

/-- A span that starts with a mark is an offset; one of no whole second is none. -/
def offsetSpan (negative : Bool) (time : WrittenTime) : Span :=
  if time.hours = 0 && time.minutes = 0 && time.seconds = 0 then 0
  else if negative then -time.span else time.span

def isOffsetMark (c : Char) : Bool :=
  c == '+' || c == '-' || c == 'Z'

/-- The time of day and the offset behind the separator. -/
def readClock? (cs : List Char) : Option (WrittenTime × Option Span) := do
  let body := cs.takeWhile (!isOffsetMark ·)
  match cs.dropWhile (!isOffsetMark ·) with
  | [] =>
      let (time, more) ← readTimePart? endMark body
      if more then none else return (time, none)
  | mark :: rest =>
      let (time, _) ← readTimePart? mark body
      if mark = 'Z' then
        if rest.head?.getD endMark = endMark then return (time, some 0) else none
      else
        let (distance, more) ← readTimePart? endMark rest
        if more then none else return (time, some (offsetSpan (mark == '-') distance))

def readParts? (cs : List Char) : Option (WrittenDate × WrittenTime × Option Span) :=
  if cs.length < 7 then none
  else do
    let width ← dateWidth cs
    let date ← readDatePart? width cs
    if width < cs.length then
      let (time, offset) ← readClock? (cs.drop (width + 1))
      return (date, time, offset)
    else return (date, ⟨0, 0, 0, 0⟩, none)

def Offset.of (span : Span) : Except IsoError Offset :=
  if inRange : -day < span ∧ span < day then .ok ⟨span, inRange⟩ else .error (.offset span)

def WrittenDate.toDate : WrittenDate → Except IsoError Date
  | .calendar year month dayNumber => (Date.of year month dayNumber).mapError .date
  | .week year number weekday => (Date.ofWeek year number weekday).mapError .date

def WrittenTime.toTimeOfDay (time : WrittenTime) : Except IsoError TimeOfDay :=
  if microsOk : time.micros < 1000000 then
    (TimeOfDay.of time.hours time.minutes time.seconds time.micros microsOk).mapError .time
  else .error (.time .seconds)

/-- Reads a moment.  A faulty form comes first, then an offset out of range, then
the parts of the date and the time in order. -/
def Moment.read (text : String) : Except IsoError Moment :=
  match readParts? text.toList with
  | none => .error (.malformed text)
  | some (writtenDate, writtenTime, span) => do
      let offset ← span.mapM Offset.of
      let date ← writtenDate.toDate
      let time ← writtenTime.toTimeOfDay
      return ⟨date, time, offset⟩

end CheckKeeper.Calendar
