import Provenance.Text.Blank
import Provenance.Text.Numeral
import Provenance.Text.Split
import Provenance.Time.Instant

/-!
# Schedules

A schedule tells at which seconds something is due, by six fields of the clock and the calendar in
universal time.  A field is a wildcard or a list of numbers and ranges, such as `0,[10-20]`; the
brackets carry no meaning.  A field remembers its text, from which its ranges can be read again.

## Main definitions

* `ScheduleField`, `ScheduleField.read`, `ScheduleField.covers` — one field.
* `Schedule`, `Schedule.read`, `Schedule.covers` — six of them.
* `ScheduleFault` — why a text is no field.
-/

namespace Provenance

open Text (trim dropEndWhile splitAll splitFirst readNat maxWord32)

/-- Why a text is no field of a schedule. -/
inductive ScheduleFault
  | notNumbers (source : String)
  | outside (source : String) (low high : Nat)
  deriving DecidableEq, Repr

/-- The words for a fault. -/
def ScheduleFault.message : ScheduleFault → String
  | notNumbers s => "invalid schedule: '" ++ s ++ "' is not a number list"
  | outside s low high =>
    "invalid schedule: '" ++ s ++ "' is outside " ++ toString low ++ "-" ++ toString high

/-- A field of a schedule: its text, and the ranges read from it with both ends in them.  A field
without ranges is a wildcard. -/
structure ScheduleField where
  source : Option String
  ranges : List (Nat × Nat)
  deriving DecidableEq, Repr

namespace ScheduleField

/-- The field that covers every number. -/
def wildcard : ScheduleField := ⟨none, []⟩

/-- Whether every number is covered. -/
def isWildcard (f : ScheduleField) : Bool := f.ranges.isEmpty

/-- Whether a number lies in one of the ranges, or the field is a wildcard. -/
def covers (f : ScheduleField) (n : Nat) : Bool :=
  f.isWildcard || f.ranges.any fun (low, high) => low ≤ n && n ≤ high

/-- A part of a list without blanks and brackets around it. -/
def core (part : List Char) : List Char :=
  trim (dropEndWhile (· == ']') ((trim part).dropWhile (· == '[')))

/-- Reads one end of a range. -/
def readBound (cs : List Char) : Option Nat := readNat maxWord32 (trim cs)

/-- Reads one part of a list: a number, or two with a dash between them. -/
def readRange (part : List Char) : Option (Nat × Nat) :=
  match splitFirst '-' (core part) with
  | some (low, high) => do some (← readBound low, ← readBound high)
  | none => (readBound (core part)).map fun n => (n, n)

/-- Reads a list of ranges inside of the bounds; the first part with a fault decides. -/
def readRanges (source : String) (low high : Nat) :
    List (List Char) → Except ScheduleFault (List (Nat × Nat))
  | [] => .ok []
  | part :: parts =>
    match readRange part with
    | none => .error (.notNumbers source)
    | some (a, b) =>
      if b < a ∨ a < low ∨ high < b then .error (.outside source low high)
      else
        match readRanges source low high parts with
        | .error e => .error e
        | .ok ranges => .ok ((a, b) :: ranges)

/-- Reads a field whose numbers lie between the bounds.  No text, an empty one and a star are
wildcards. -/
def read (source : Option String) (low high : Nat) : Except ScheduleFault ScheduleField :=
  match source.map fun s => trim s.toList with
  | none | some [] | some ['*'] => .ok wildcard
  | some cs =>
    match readRanges (String.ofList cs) low high (splitAll ',' cs) with
    | .error e => .error e
    | .ok ranges => .ok ⟨some (String.ofList cs), ranges⟩

@[simp] theorem isWildcard_wildcard : wildcard.isWildcard = true := rfl

@[simp] theorem covers_wildcard (n : Nat) : wildcard.covers n = true := rfl

end ScheduleField

/-- A schedule of six fields. -/
structure Schedule where
  second : ScheduleField
  minute : ScheduleField
  hour : ScheduleField
  dayOfMonth : ScheduleField
  month : ScheduleField
  /-- Monday is 1 and Sunday is 7. -/
  dayOfWeek : ScheduleField
  deriving DecidableEq, Repr

/-- The texts of the six fields of a schedule. -/
structure ScheduleSource where
  second : Option String
  minute : Option String
  hour : Option String
  dayOfMonth : Option String
  month : Option String
  dayOfWeek : Option String
  deriving DecidableEq, Repr

namespace Schedule

/-- Reads the fields from the second to the day of the week; the first fault decides. -/
def read (s : ScheduleSource) : Except ScheduleFault Schedule := do
  let second ← ScheduleField.read s.second 0 59
  let minute ← ScheduleField.read s.minute 0 59
  let hour ← ScheduleField.read s.hour 0 23
  let dayOfMonth ← ScheduleField.read s.dayOfMonth 1 31
  let month ← ScheduleField.read s.month 1 12
  let dayOfWeek ← ScheduleField.read s.dayOfWeek 1 7
  .ok ⟨second, minute, hour, dayOfMonth, month, dayOfWeek⟩

/-- The texts of the fields. -/
def source (s : Schedule) : ScheduleSource :=
  ⟨s.second.source, s.minute.source, s.hour.source, s.dayOfMonth.source, s.month.source,
    s.dayOfWeek.source⟩

/-- Reads the ranges again from the texts. -/
def reread (s : Schedule) : Except ScheduleFault Schedule := read s.source

/-- Whether all six fields cover the fields of an instant. -/
def covers (s : Schedule) (t : Instant) : Bool :=
  let f := t.fields
  s.second.covers f.second && s.minute.covers f.minute && s.hour.covers f.hour &&
    s.dayOfMonth.covers f.date.day && s.month.covers f.date.month &&
    s.dayOfWeek.covers f.weekday

/-- Whether an instant is covered depends on its second only. -/
theorem covers_congr (s : Schedule) {t u : Instant} (h : t.second = u.second) :
    s.covers t = s.covers u := by
  simp [covers, Instant.fields_congr h]

end Schedule

end Provenance
