/-!
# Unsigned numerals

A count is written in ASCII digits, with an optional plus sign in front and any number of leading
zeros.  A reader is given the largest number it may accept.

## Main definitions

* `digitValue` — the value of an ASCII digit.
* `digitsValue` — the number that a list of digits denotes.
* `readNat` — a numeral up to a bound.
-/

namespace Provenance.Text

/-- The value of an ASCII digit. -/
def digitValue (c : Char) : Option Nat :=
  if '0' ≤ c ∧ c ≤ '9' then some (c.toNat - '0'.toNat) else none

/-- Reads on from the value of the digits before; every character has to be a digit. -/
def digitsValueFrom : Nat → List Char → Option Nat
  | n, [] => some n
  | n, c :: cs =>
    match digitValue c with
    | some d => digitsValueFrom (10 * n + d) cs
    | none => none

/-- The number denoted by a non-empty list of digits. -/
def digitsValue : List Char → Option Nat
  | [] => none
  | cs => digitsValueFrom 0 cs

/-- Drops one plus sign. -/
def dropPlus : List Char → List Char
  | '+' :: cs => cs
  | cs => cs

/-- Reads a numeral that denotes at most `bound`. -/
def readNat (bound : Nat) (cs : List Char) : Option Nat :=
  (digitsValue (dropPlus cs)).filter (· ≤ bound)

/-- The largest number of 32 bits. -/
def maxWord32 : Nat := Nat.pow 2 32 - 1

/-- The largest number of 64 bits. -/
def maxWord64 : Nat := Nat.pow 2 64 - 1

@[simp] theorem digitsValue_nil : digitsValue [] = none := rfl

@[simp] theorem digitsValueFrom_nil (n : Nat) : digitsValueFrom n [] = some n := rfl

theorem le_of_readNat {bound n : Nat} {cs : List Char} (h : readNat bound cs = some n) :
    n ≤ bound := by
  simpa using (Option.filter_eq_some_iff.1 h).2

end Provenance.Text
