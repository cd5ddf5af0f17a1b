import CheckKeeper.Value.Convert

namespace CheckKeeper.Preview

open Calendar

/-! Points in time of previews.

What has no offset is read as universal time.  A time before a moment is reckoned
on the clock of that moment, which must not leave the calendar.
-/

/-- Each capital Z as the offset of universal time. -/
def spellOffset (text : String) : String :=
  String.ofList (text.toList.flatMap fun c => if c = 'Z' then "+00:00".toList else [c])

/-- The moment of a value in a cell, if it is not null. -/
def instantOf (value : Value) : Except Failure (Option Moment) :=
  match value with
  | .null => .ok none
  | .moment point => .ok (some point.inUtc)
  | other => do
      let text ← other.written
      ((Moment.read (spellOffset text)).map fun point => some point.inUtc).mapError .moment

/-- Microseconds of a fraction of a minute.  Their number is rounded twice: to one with a binary
fraction, and that to an integer. -/
def microsOfRatio (numerator denominator : Nat) : Nat :=
  Number.roundCode (Number.codeOfRatio (numerator * minute.toNat) denominator)

/-- The span of an exact number of minutes.  Only what is less than a minute is rounded. -/
def spanOfRatio (numerator : Int) (denominator : Nat) : Span :=
  let micros : Int := microsOfRatio (numerator.natAbs % denominator) denominator
  numerator.tdiv denominator * minute + (if numerator < 0 then -micros else micros)

/-- The span of a number of minutes with a fraction.  What is not finite is refused as it is where
an integer is asked for. -/
def spanOfFloat (minutes : Float) : Except Failure Span :=
  match Number.toDyadic? minutes with
  | some finite => .ok (spanOfRatio finite.toRatio.1 finite.toRatio.2)
  | none => Value.intOfFloat minutes

/-- The span of a number of minutes, however long it is. -/
def spanOf (minutes : Value) : Except Failure Span :=
  match minutes with
  | .float number => spanOfFloat number
  | other => other.toInt.map (· * minute)

/-- The most days of a span, either way. -/
def longestSpan : Nat := 999999999

def spanOfMinutes (minutes : Value) : Except Failure Span := do
  let span ← spanOf minutes
  let days := span / day
  if days < -(longestSpan : Int) || (longestSpan : Int) < days then .error (.overflow .span)
  else return span

/-- The instant that lies `span` before a moment. -/
def before (point : Moment) (span : Span) : Except Failure Span :=
  if inCalendar (point.wallClock - span) then .ok (point.instant - span)
  else .error (.overflow .clock)

end CheckKeeper.Preview
