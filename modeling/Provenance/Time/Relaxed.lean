import Provenance.Time.Timestamp
import Provenance.Text.Blank

/-!
# Relaxed timestamps

A timestamp in a request may be written more freely than RFC 3339 has it.  Numbers need not be
padded, blanks may stand in front of a number, of a dash or colon between two numbers and of the
offset, a year may have a sign and then any number of digits, and the offset may be written without
its colon or be the word `UTC`.  The day is still followed by exactly one `T` or space, and the
offset still has two digits for hours and two for minutes.

## Main definitions

* `Instant.readRelaxed` — reads a timestamp.
-/

namespace Provenance.Instant

open Text Time

/-- Takes from one to `n` digits off the front, as many as there are. -/
def readUpTo (n : Nat) (cs : List Char) : Option (Nat × List Char) :=
  let ds := (cs.take n).takeWhile fun c => (digitValue c).isSome
  (digitsValue ds).map fun v => (v, cs.drop ds.length)

/-- Takes a year off the front: up to four digits, or a sign with any number of digits. -/
def readYear (cs : List Char) : Option (Int × List Char) :=
  match trimStart cs with
  | '-' :: cs => (readUpTo cs.length cs).map fun (y, rest) => (-(y : Int), rest)
  | '+' :: cs => (readUpTo cs.length cs).map fun (y, rest) => ((y : Int), rest)
  | cs => (readUpTo 4 cs).map fun (y, rest) => ((y : Int), rest)

/-- Takes a number of one or two digits off the front. -/
def readPart (cs : List Char) : Option (Nat × List Char) := readUpTo 2 (trimStart cs)

/-- Takes a given character off the front, with the blanks before it. -/
def readMark (c : Char) (cs : List Char) : Option (List Char) := readChar c (trimStart cs)

/-- What follows the word `UTC` in any case, if the text begins with it. -/
def dropUniversal : List Char → Option (List Char)
  | u :: t :: c :: cs =>
    if u.toUpper = 'U' ∧ t.toUpper = 'T' ∧ c.toUpper = 'C' then some cs else none
  | _ => none

/-- Reads hours and minutes of an offset, in seconds. -/
def readRelaxedOffset (cs : List Char) : Option (Int × List Char) := do
  let (sign, cs) ← readOffsetSign cs
  let (hours, cs) ← readDigits 2 cs
  let (minutes, cs) ← readDigits 2 (cs.dropWhile fun c => c == ':' || isBlank c)
  let seconds : Nat := hours * 3600 + minutes * 60
  if hours ≤ 23 ∧ minutes ≤ 59 then some (sign * seconds, cs) else none

/-- Reads where the clock stands against universal time, in seconds. -/
def readZone (cs : List Char) : Option (Int × List Char) :=
  match dropUniversal cs with
  | some rest => some (0, rest)
  | none =>
    match cs with
    | 'Z' :: rest => some (0, rest)
    | 'z' :: rest => some (0, rest)
    | cs => readRelaxedOffset cs

/-- Reads a timestamp that may be written freely.  The day has to be in the calendar both in local
and in universal time. -/
def readRelaxed (cs : List Char) : Option Instant := do
  let (year, cs) ← readYear cs
  let cs ← readMark '-' cs
  let (month, cs) ← readPart cs
  let cs ← readMark '-' cs
  let (day, cs) ← readPart cs
  let cs ← readSeparator cs
  let (hour, cs) ← readPart cs
  let cs ← readMark ':' cs
  let (minute, cs) ← readPart cs
  let cs ← readMark ':' cs
  let (second, cs) ← readPart cs
  let (nanos, cs) ← readFraction cs
  let (offset, cs) ← readZone (trimStart cs)
  let date : Date := ⟨year, month, day⟩
  let t ← ofLocal date hour minute second nanos offset
  if (trimStart cs).isEmpty && isCalendarDay (daysOfDate date) && isCalendarDay t.day then some t
  else none

end Provenance.Instant
