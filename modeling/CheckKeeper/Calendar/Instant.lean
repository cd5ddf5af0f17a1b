import CheckKeeper.Calendar.Moment

namespace CheckKeeper.Calendar

/-! Dates and moments by their numbers.

Days are counted from the first day of year 1.  Clocks of computers count from the
start of the year 1970 in universal time.
-/

/-- The year that the day with a number lies in.  The mean length of years gives a
guess that is at most one year off. -/
def yearOfOrdinal? (ordinal : Nat) : Option Nat :=
  let guess := ordinal * 400 / 146097 + 1
  [guess + 1, guess, guess - 1].find? fun year => 1 ≤ year && daysBeforeYear year < ordinal

def Date.ofOrdinal? (ordinal : Nat) : Option Date := do
  let year ← yearOfOrdinal? ordinal
  let (month, day) := dayOfYear year 11 1 (ordinal - daysBeforeYear year - 1)
  (Date.of year month day).toOption

def TimeOfDay.ofMicros (micros : Nat) : TimeOfDay where
  hours := micros / 3600000000 % 24
  minutes := micros / 60000000 % 60
  seconds := micros / 1000000 % 60
  micros := micros % 1000000
  hoursInRange := Nat.mod_lt _ (by decide)
  minutesInRange := Nat.mod_lt _ (by decide)
  secondsInRange := Nat.mod_lt _ (by decide)
  microsInRange := Nat.mod_lt _ (by decide)

def firstUnixDay : Nat := 719163

/-- The moment so many microseconds after the start of the year 1970. -/
def Moment.ofUnixMicros? (micros : Nat) : Option Moment := do
  let date ← Date.ofOrdinal? (firstUnixDay + micros / 86400000000)
  return ⟨date, .ofMicros micros, some .utc⟩

end CheckKeeper.Calendar
