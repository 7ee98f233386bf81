/-!
# The calendar

Dates of the proleptic Gregorian calendar and their place on the line of days, where day zero is the
first of January 1970.  Years are counted in eras of four hundred, which all have the same number of
days; inside an era the year begins in March, so the leap day is its last.

## Main definitions

* `Date` — year, month and day.
* `daysOfDate`, `dateOfDays` — a date as a day number and back.
* `weekday` — Monday is 1, Sunday is 7.
* `daysInMonth` — the length of a month.
-/

namespace Provenance.Time

/-- A calendar date. -/
structure Date where
  year : Int
  month : Nat
  day : Nat
  deriving DecidableEq, Repr

/-- Days in an era of four hundred years. -/
def daysPerEra : Int := 146097

/-- Days from the first of March of the year zero to day zero. -/
def epochShift : Int := 719468

/-- The day number of a date. -/
def daysOfDate (d : Date) : Int :=
  let year := if d.month ≤ 2 then d.year - 1 else d.year
  let era := year / 400
  let yearOfEra := year % 400
  let monthOfYear := if d.month ≤ 2 then d.month + 9 else d.month - 3
  let dayOfYear := (153 * monthOfYear + 2) / 5 + d.day - 1
  let dayOfEra := yearOfEra * 365 + yearOfEra / 4 - yearOfEra / 100 + dayOfYear
  era * daysPerEra + dayOfEra - epochShift

/-- The date of a day number. -/
def dateOfDays (n : Int) : Date :=
  let shifted := n + epochShift
  let era := shifted / daysPerEra
  let dayOfEra := (shifted % daysPerEra).toNat
  let yearOfEra := (dayOfEra - dayOfEra / 1460 + dayOfEra / 36524 - dayOfEra / 146096) / 365
  let dayOfYear := dayOfEra - (365 * yearOfEra + yearOfEra / 4 - yearOfEra / 100)
  let monthOfYear := (5 * dayOfYear + 2) / 153
  let month := if monthOfYear < 10 then monthOfYear + 3 else monthOfYear - 9
  let year := era * 400 + yearOfEra
  { year := if month ≤ 2 then year + 1 else year
    month := month
    day := dayOfYear - (153 * monthOfYear + 2) / 5 + 1 }

/-- The day of the week; day zero was a Thursday. -/
def weekday (n : Int) : Nat := ((n + 3) % 7).toNat + 1

/-- Whether February has twenty-nine days. -/
def isLeapYear (year : Int) : Bool := year % 4 == 0 && (year % 100 != 0 || year % 400 == 0)

/-- The number of days in a month. -/
def daysInMonth (year : Int) (month : Nat) : Nat :=
  if month = 2 then (if isLeapYear year then 29 else 28)
  else if month = 4 ∨ month = 6 ∨ month = 9 ∨ month = 11 then 30 else 31

/-- A day of the week is between Monday and Sunday. -/
theorem weekday_bounds (n : Int) : 1 ≤ weekday n ∧ weekday n ≤ 7 := by
  unfold weekday
  omega

end Provenance.Time
