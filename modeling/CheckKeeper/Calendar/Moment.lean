import CheckKeeper.Calendar.Date

namespace CheckKeeper.Calendar

/-! Moments: a date with a time of day to the microsecond, and perhaps an offset.

With an offset a moment is an instant.  Without one it is only what a clock on
some wall shows, and the two kinds are not put in order.
-/

/-- Microseconds. -/
abbrev Span := Int

def second : Span := 1000000
def minute : Span := 60 * second
def hour : Span := 60 * minute
def day : Span := 24 * hour

structure TimeOfDay where
  hours : Nat
  minutes : Nat
  seconds : Nat
  micros : Nat
  hoursInRange : hours < 24
  minutesInRange : minutes < 60
  secondsInRange : seconds < 60
  microsInRange : micros < 1000000
deriving DecidableEq

inductive TimeError where
  | hours
  | minutes
  | seconds
deriving DecidableEq, Repr

def TimeOfDay.of (hours minutes seconds : Nat) (micros : Nat) (microsOk : micros < 1000000) :
    Except TimeError TimeOfDay :=
  if hoursOk : hours < 24 then
    if minutesOk : minutes < 60 then
      if secondsOk : seconds < 60 then
        .ok ⟨hours, minutes, seconds, micros, hoursOk, minutesOk, secondsOk, microsOk⟩
      else .error .seconds
    else .error .minutes
  else .error .hours

def TimeOfDay.midnight : TimeOfDay :=
  ⟨0, 0, 0, 0, by decide, by decide, by decide, by decide⟩

def TimeOfDay.sinceMidnight (time : TimeOfDay) : Span :=
  time.hours * hour + time.minutes * minute + time.seconds * second + time.micros

/-- A distance from universal time of less than a day either way. -/
structure Offset where
  span : Span
  inRange : -day < span ∧ span < day
deriving DecidableEq

def Offset.utc : Offset :=
  ⟨0, by decide⟩

structure Moment where
  date : Date
  time : TimeOfDay
  offset : Option Offset
deriving DecidableEq

namespace Moment

/-- What the clock on the wall shows, as a span from the start of year 1. -/
def wallClock (m : Moment) : Span :=
  (m.date.ordinal - 1 : Nat) * day + m.time.sinceMidnight

def isNaive (m : Moment) : Bool :=
  m.offset.isNone

/-- The instant, where a moment without offset is read as universal time. -/
def instant (m : Moment) : Span :=
  m.wallClock - (m.offset.elim 0 (·.span))

/-- The same moment, in universal time if it had no offset. -/
def inUtc (m : Moment) : Moment :=
  { m with offset := some (m.offset.getD Offset.utc) }

/-- Both are instants, or neither is. -/
def comparable (a b : Moment) : Bool :=
  a.isNaive == b.isNaive

/-- Equality of instants; an instant never equals a bare clock reading. -/
def sameInstant (a b : Moment) : Bool :=
  comparable a b && a.instant == b.instant

def earliest : Moment :=
  ⟨⟨1, 1, 1, by decide, by decide, by decide⟩, .midnight, some .utc⟩

end Moment

def daysInCalendar : Nat :=
  daysBeforeYear 10000

/-- Whether a clock reading lies in the years 1 to 9999. -/
def inCalendar (clock : Span) : Bool :=
  0 ≤ clock && clock < daysInCalendar * day

end CheckKeeper.Calendar
