import Provenance.Time.Instant
import Provenance.Text.Split
import Provenance.Text.Numeral

/-!
# Timestamps

The text of an instant by RFC 3339.  Reading takes any offset up to a day; writing is in universal
time with the shortest fraction of 0, 3, 6 or 9 digits that loses nothing.

## Main definitions

* `Instant.read` — reads a timestamp.
* `Instant.toText` — writes one.
-/

namespace Provenance.Instant

open Text Time

/-! ### Reading -/

/-- Takes exactly `n` digits off the front. -/
def readDigits (n : Nat) (cs : List Char) : Option (Nat × List Char) :=
  let ds := cs.take n
  if ds.length = n then (digitsValue ds).map fun v => (v, cs.drop n) else none

/-- Takes one given character off the front. -/
def readChar (c : Char) : List Char → Option (List Char)
  | [] => none
  | d :: cs => if d = c then some cs else none

/-- Takes the character between date and time off the front. -/
def readSeparator : List Char → Option (List Char)
  | c :: cs => if c = 'T' ∨ c = 't' ∨ c = ' ' then some cs else none
  | [] => none

/-- The nanoseconds that the digits after the point denote; digits beyond the ninth are cut. -/
def nanosOfDigits (ds : List Char) : Nat :=
  let nine := ds.take 9
  (digitsValueFrom 0 nine).getD 0 * Nat.pow 10 (9 - nine.length)

/-- Reads the optional fraction of a second as nanoseconds. -/
def readFraction : List Char → Option (Nat × List Char)
  | '.' :: cs =>
    let ds := cs.takeWhile fun c => (digitValue c).isSome
    if ds.isEmpty then none else some (nanosOfDigits ds, cs.drop ds.length)
  | cs => some (0, cs)

/-- The sign of an offset; the minus sign of typography counts too. -/
def readOffsetSign : List Char → Option (Int × List Char)
  | c :: cs =>
    if c = '+' then some (1, cs) else if c = '-' ∨ c = '−' then some (-1, cs) else none
  | [] => none

/-- Reads the offset from universal time, in seconds. -/
def readOffset (cs : List Char) : Option (Int × List Char) :=
  match cs with
  | 'Z' :: rest => some (0, rest)
  | 'z' :: rest => some (0, rest)
  | cs => do
    let (sign, cs) ← readOffsetSign cs
    let (hours, cs) ← readDigits 2 cs
    let cs ← readChar ':' cs
    let (minutes, cs) ← readDigits 2 cs
    let seconds : Nat := hours * 3600 + minutes * 60
    if hours ≤ 23 ∧ minutes ≤ 59 then some (sign * seconds, cs) else none

/-- The instant of local fields; second 60 is a leap second. -/
def ofLocal (date : Date) (hour minute second nanos : Nat) (offset : Int) : Option Instant :=
  if 1 ≤ date.month ∧ date.month ≤ 12 ∧ 1 ≤ date.day ∧
      date.day ≤ daysInMonth date.year date.month ∧ hour ≤ 23 ∧ minute ≤ 59 ∧ second ≤ 60 then
    let leap := second = 60
    let clock := hour * 3600 + minute * 60 + (if leap then 59 else second)
    some ⟨daysOfDate date * secondsPerDay + clock - offset,
      if leap then nanos + nanosPerSecond else nanos⟩
  else none

/-- Reads a timestamp. -/
def read (cs : List Char) : Option Instant := do
  let (year, cs) ← readDigits 4 cs
  let cs ← readChar '-' cs
  let (month, cs) ← readDigits 2 cs
  let cs ← readChar '-' cs
  let (day, cs) ← readDigits 2 cs
  let cs ← readSeparator cs
  let (hour, cs) ← readDigits 2 cs
  let cs ← readChar ':' cs
  let (minute, cs) ← readDigits 2 cs
  let cs ← readChar ':' cs
  let (second, cs) ← readDigits 2 cs
  let (nanos, cs) ← readFraction cs
  let (offset, cs) ← readOffset cs
  if cs.isEmpty then ofLocal ⟨year, month, day⟩ hour minute second nanos offset else none

/-! ### Writing -/

/-- The number in decimal with zeros in front up to a width. -/
def padded (width n : Nat) : String :=
  let ds := toString n
  String.ofList (List.replicate (width - ds.length) '0') ++ ds

/-- A year from 0 to 9999 has four digits; any other has a sign and at least four. -/
def yearText (y : Int) : String :=
  if 0 ≤ y ∧ y ≤ 9999 then padded 4 y.toNat
  else (if y < 0 then "-" else "+") ++ padded 4 y.natAbs

/-- The shortest fraction that loses nothing. -/
def fractionText (nanos : Nat) : String :=
  if nanos = 0 then ""
  else if nanos % 1000000 = 0 then "." ++ padded 3 (nanos / 1000000)
  else if nanos % 1000 = 0 then "." ++ padded 6 (nanos / 1000)
  else "." ++ padded 9 nanos

/-- Writes an instant in universal time. -/
def toText (t : Instant) : String :=
  let f := t.fields
  let leap := nanosPerSecond ≤ t.nanosecond
  yearText f.date.year ++ "-" ++ padded 2 f.date.month ++ "-" ++ padded 2 f.date.day ++ "T" ++
    padded 2 f.hour ++ ":" ++ padded 2 f.minute ++ ":" ++
    padded 2 (if leap then f.second + 1 else f.second) ++
    fractionText (if leap then t.nanosecond - nanosPerSecond else t.nanosecond) ++ "Z"

end Provenance.Instant
