import Provenance.Number.Binary64
import Provenance.Text.Numeral

/-!
# Decimal numerals

The decimal text of a binary64 number: a sign, digits with an optional point, an optional exponent,
or one of the words for infinity and not-a-number in any case.  A numeral denotes the number nearest
to its exact value.  There is no blank anywhere in it.

## Main definitions

* `Decimal` — sign, digits and power of ten of a numeral.
* `Decimal.toBinary64` — the nearest number.
* `Binary64.read` — reads a numeral or a word.
-/

namespace Provenance

open Text

/-- The exact value of a numeral: `digits * 10 ^ exponent`, with a sign. -/
structure Decimal where
  negative : Bool
  digits : Nat
  exponent : Int
  deriving DecidableEq, Repr

namespace Decimal

/-- How many decimal digits a number has; zero has none. -/
def digitCount (n : Nat) : Nat := if n = 0 then 0 else (Nat.toDigits 10 n).length

/-- The number nearest to the numeral.  Outside of the powers of ten that a number can have, the
answer is known without the power: above them infinity, below them zero. -/
def toBinary64 (d : Decimal) : Binary64 :=
  let top := d.exponent + digitCount d.digits
  if d.digits = 0 then Binary64.ofFields d.negative 0
  else if 400 < top then Binary64.infinity d.negative
  else if top < -400 then Binary64.ofFields d.negative 0
  else if 0 ≤ d.exponent then Binary64.ofRatio d.negative (d.digits * Nat.pow 10 d.exponent.toNat) 1
  else Binary64.ofRatio d.negative d.digits (Nat.pow 10 (-d.exponent).toNat)

/-- Whether a character is an ASCII digit. -/
def isDigit (c : Char) : Bool := (digitValue c).isSome

/-- The value of the digits, where no digits denote zero. -/
def valueOfDigits (cs : List Char) : Nat := (digitsValueFrom 0 cs).getD 0

/-- The sign in front, and what follows it. -/
def splitSign : List Char → Bool × List Char
  | '-' :: cs => (true, cs)
  | '+' :: cs => (false, cs)
  | cs => (false, cs)

/-- Reads what follows the digits: nothing, or a signed exponent. -/
def readExponent : List Char → Option Int
  | [] => some 0
  | c :: cs =>
    if c = 'e' ∨ c = 'E' then
      let (negative, ds) := splitSign cs
      (digitsValue ds).map fun n => if negative then -(n : Int) else n
    else none

/-- Reads the part of a numeral after its sign: digits with at most one point among them and at
least one digit, then the exponent. -/
def readUnsigned (negative : Bool) (cs : List Char) : Option Decimal :=
  let whole := cs.takeWhile isDigit
  let rest := cs.dropWhile isDigit
  let (part, tail) :=
    match rest with
    | '.' :: r => (r.takeWhile isDigit, r.dropWhile isDigit)
    | r => ([], r)
  if whole.isEmpty && part.isEmpty then none
  else (readExponent tail).map fun e =>
    ⟨negative, valueOfDigits (whole ++ part), e - part.length⟩

end Decimal

namespace Binary64

/-- Reads the decimal text of a number. -/
def read (cs : List Char) : Option Binary64 :=
  let (negative, rest) := Decimal.splitSign cs
  let word := String.ofList (rest.map Char.toLower)
  if word = "inf" ∨ word = "infinity" then some (infinity negative)
  else if word = "nan" then some nan
  else (Decimal.readUnsigned negative rest).map Decimal.toBinary64

end Binary64

end Provenance
