namespace CheckKeeper.Calendar

/-! Dates of the Gregorian calendar, years 1 to 9999.

A `Date` holds only what the calendar has, so no operation on dates checks its
parts again.
-/

def isLeapYear (year : Nat) : Bool :=
  year % 4 == 0 && (year % 100 != 0 || year % 400 == 0)

def monthLength (year month : Nat) : Nat :=
  match month with
  | 2 => if isLeapYear year then 29 else 28
  | 4 | 6 | 9 | 11 => 30
  | _ => 31

theorem monthLength_le (year month : Nat) : monthLength year month ≤ 31 := by
  unfold monthLength
  split
  · split <;> decide
  all_goals decide

def yearLength (year : Nat) : Nat :=
  if isLeapYear year then 366 else 365

structure Date where
  year : Nat
  month : Nat
  day : Nat
  yearInRange : 1 ≤ year ∧ year ≤ 9999
  monthInRange : 1 ≤ month ∧ month ≤ 12
  dayInRange : 1 ≤ day ∧ day ≤ monthLength year month
deriving DecidableEq

inductive DateError where
  | year (given : Int)
  | month
  | day
deriving DecidableEq, Repr

def Date.of (year month day : Nat) : Except DateError Date :=
  if yearOk : 1 ≤ year ∧ year ≤ 9999 then
    if monthOk : 1 ≤ month ∧ month ≤ 12 then
      if dayOk : 1 ≤ day ∧ day ≤ monthLength year month then
        .ok ⟨year, month, day, yearOk, monthOk, dayOk⟩
      else .error .day
    else .error .month
  else .error (.year year)

theorem Date.of_parts (date : Date) : Date.of date.year date.month date.day = .ok date := by
  simp [Date.of, date.yearInRange, date.monthInRange, date.dayInRange]

/-- Days in the years before `year`, counted from year 1. -/
def daysBeforeYear (year : Nat) : Nat :=
  let past := year - 1
  past * 365 + past / 4 - past / 100 + past / 400

/-- Days in the months before `month` of the year. -/
def daysBeforeMonth (year month : Nat) : Nat :=
  (List.range (month - 1)).foldl (fun days past => days + monthLength year (past + 1)) 0

/-- The number of a date, counted from 1 for the first day of year 1. -/
def Date.ordinal (date : Date) : Nat :=
  daysBeforeYear date.year + daysBeforeMonth date.year date.month + date.day

/-- The month and day that lie `days` days after the first of `month`. -/
def dayOfYear (year : Nat) : Nat → Nat → Nat → Nat × Nat
  | 0, month, days => (month, days + 1)
  | later + 1, month, days =>
      if days < monthLength year month then (month, days + 1)
      else dayOfYear year later (month + 1) (days - monthLength year month)

/-- The weekday of the first of January, with 0 for Monday. -/
def firstWeekday (year : Nat) : Nat :=
  daysBeforeYear year % 7

/-- Whether the week year has a 53rd week: it begins on a Thursday, or on a
Wednesday in a leap year. -/
def hasLongWeekYear (year : Nat) : Bool :=
  firstWeekday year == 3 || (firstWeekday year == 2 && isLeapYear year)

/-- Days from the first day of year 1 to the Monday of the first week of `year`,
the week that holds the first Thursday. -/
def firstMonday (year : Nat) : Int :=
  let start : Int := daysBeforeYear year
  if firstWeekday year ≤ 3 then start - firstWeekday year
  else start + 7 - firstWeekday year

/-- Whether the week year has the week, and the week the day. -/
def isWeekDate (year week weekday : Nat) : Bool :=
  1 ≤ week && week ≤ 53 && (week != 53 || hasLongWeekYear year) && 1 ≤ weekday && weekday ≤ 7

/-- The date of a day of a week.  The first week of a year may begin in the year
before, and the last may end in the year after.  The weeks of year 0 have no
months. -/
def Date.ofWeek (year week weekday : Nat) : Except DateError Date :=
  let days : Int := firstMonday year + (week - 1 : Nat) * 7 + (weekday - 1 : Nat)
  let start : Int := daysBeforeYear year
  let calendarYear : Int :=
    if days < start then year - 1
    else if days < start + yearLength year then year
    else year + 1
  if year = 0 then .error .month
  else if calendarYear < 1 || 9999 < calendarYear then .error (.year calendarYear)
  else
    let within := (days - daysBeforeYear calendarYear.toNat).toNat
    let (month, day) := dayOfYear calendarYear.toNat 11 1 within
    Date.of calendarYear.toNat month day

end CheckKeeper.Calendar
