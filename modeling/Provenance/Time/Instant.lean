import Provenance.Time.Calendar

/-!
# Instants

A point in universal time: a count of seconds since the start of 1970 and a count of nanoseconds
within the second.  A leap second is the second before it with a thousand million nanoseconds more,
so it has the millisecond count of the second that follows.

## Main definitions

* `Instant` — seconds and nanoseconds.
* `Instant.millis`, `Instant.ofMillis` — milliseconds since the start of 1970 and back.
* `Instant.addMillis` — a later instant.
* `Instant.Fields`, `Instant.fields` — the calendar and clock fields in universal time.
-/

namespace Provenance

open Time

/-- A point in universal time. -/
structure Instant where
  /-- Seconds since the start of 1970. -/
  second : Int
  /-- Nanoseconds within the second; from `10 ^ 9` on, within a leap second after it. -/
  nanosecond : Nat
  deriving DecidableEq, Repr

namespace Instant

instance : Inhabited Instant := ⟨⟨0, 0⟩⟩

/-- The start of 1970. -/
def epoch : Instant := ⟨0, 0⟩

/-- Nanoseconds in a second. -/
def nanosPerSecond : Nat := 1000000000

/-- Nanoseconds in a millisecond. -/
def nanosPerMilli : Nat := 1000000

/-- Milliseconds since the start of 1970, rounded down. -/
def millis (t : Instant) : Int := t.second * 1000 + (t.nanosecond / nanosPerMilli : Nat)

/-- The first day of the calendar. -/
def firstDay : Int := daysOfDate ⟨-262143, 1, 1⟩

/-- The last day of the calendar. -/
def lastDay : Int := daysOfDate ⟨262142, 12, 31⟩

/-- Whether a day is one that the calendar has. -/
def isCalendarDay (day : Int) : Bool := firstDay ≤ day && day ≤ lastDay

/-- Seconds in a day. -/
def secondsPerDay : Int := 86400

/-- The instant of a millisecond count, and the start of 1970 for a count outside of the
calendar. -/
def ofMillis (m : Int) : Instant :=
  let second := m / 1000
  if isCalendarDay (second / secondsPerDay) then ⟨second, (m % 1000).toNat * nanosPerMilli⟩
  else epoch

/-- Whether `s` is not after `t`. -/
def notAfter (s t : Instant) : Bool :=
  s.second < t.second || (s.second == t.second && s.nanosecond ≤ t.nanosecond)

/-- The instant `d` milliseconds later.  Inside of a leap second time goes on in it; a step that
leaves it counts as if it had started in the second before. -/
def addMillis (t : Instant) (d : Nat) : Instant :=
  let seconds := d / 1000
  let nanos := d % 1000 * nanosPerMilli
  if nanosPerSecond ≤ t.nanosecond ∧ seconds = 0 ∧ t.nanosecond + nanos < 2 * nanosPerSecond then
    ⟨t.second, t.nanosecond + nanos⟩
  else
    let base :=
      if nanosPerSecond ≤ t.nanosecond then t.nanosecond - nanosPerSecond else t.nanosecond
    let total := base + nanos
    ⟨t.second + seconds + (total / nanosPerSecond : Nat), total % nanosPerSecond⟩

/-! ### Calendar and clock fields -/

/-- The fields of an instant in universal time. -/
structure Fields where
  date : Date
  hour : Nat
  minute : Nat
  second : Nat
  /-- Monday is 1. -/
  weekday : Nat
  deriving DecidableEq, Repr

/-- The day number of an instant. -/
def day (t : Instant) : Int := t.second / secondsPerDay

/-- Whether an instant lies on a day of the calendar. -/
def isInCalendar (t : Instant) : Bool := isCalendarDay t.day

/-- Seconds since midnight. -/
def secondOfDay (t : Instant) : Nat := (t.second % secondsPerDay).toNat

/-- The fields; a leap second has the fields of the second before. -/
def fields (t : Instant) : Fields where
  date := dateOfDays t.day
  hour := t.secondOfDay / 3600
  minute := t.secondOfDay / 60 % 60
  second := t.secondOfDay % 60
  weekday := Time.weekday t.day

/-- The fields do not change within a second. -/
theorem fields_congr {s t : Instant} (h : s.second = t.second) : s.fields = t.fields := by
  simp [fields, day, secondOfDay, h]

end Instant

end Provenance
