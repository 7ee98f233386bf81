import Provenance.Number.Decimal

/-!
# Extended numbers

Between text and doubles the store computes with numbers that have a significand of sixty-four bits.
A numeral becomes a whole number of a word and then is multiplied by powers of ten, and so is a
number that is written; each product is rounded, so that the last place of the result may differ
from that of the exact value.  The exponents of these numbers reach so far that nothing which a
double can hold is ever out of range.

## Main definitions

* `Extended` — a significand and a power of two.
* `Extended.times` — the product, rounded to sixty-four bits.
* `Extended.timesTenTo` — multiplication by a power of ten, in steps.
* `Extended.toBinary64` — the nearest double.
* `Decimal.viaExtended` — the double that a numeral becomes in the store.
-/

namespace Provenance

open Text
open Binary64 (roundQuotient leadingBit)

/-- A number `significand * 2 ^ exponent`, not below zero. -/
structure Extended where
  significand : Nat
  exponent : Int
  deriving DecidableEq, Repr, Inhabited

namespace Extended

/-- The bits of a significand. -/
def precision : Nat := 64

/-- The number nearest to `significand * 2 ^ exponent` among those of full precision. -/
def rounded (significand : Nat) (exponent : Int) : Extended :=
  let excess := significand.log2 + 1 - precision
  ⟨roundQuotient significand (Nat.pow 2 excess), exponent + excess⟩

/-- The number nearest to a positive quotient. -/
def ofRatio (num den : Nat) : Extended :=
  let spacing := leadingBit num den - (precision - 1 : Nat)
  ⟨if 0 ≤ spacing then roundQuotient num (den * Nat.pow 2 spacing.toNat)
    else roundQuotient (num * Nat.pow 2 (-spacing).toNat) den, spacing⟩

/-- The product, rounded. -/
def times (x y : Extended) : Extended :=
  rounded (x.significand * y.significand) (x.exponent + y.exponent)

/-- The number nearest to a power of ten. -/
def tenTo (e : Int) : Extended :=
  if 0 ≤ e then ofRatio (Nat.pow 10 e.toNat) 1 else ofRatio 1 (Nat.pow 10 (-e).toNat)

/-- The number as a quotient. -/
def ratio (x : Extended) : Nat × Nat :=
  if 0 ≤ x.exponent then (x.significand * Nat.pow 2 x.exponent.toNat, 1)
  else (x.significand, Nat.pow 2 (-x.exponent).toNat)

/-- Whether a number is below another. -/
def isBelow (x y : Extended) : Bool := x.ratio.1 * y.ratio.2 < y.ratio.1 * x.ratio.2

/-- The whole part. -/
def floor (x : Extended) : Nat := x.ratio.1 / x.ratio.2

/-- A product of `n` equal factors with a number, rounded after each. -/
def timesRepeatedly (factor : Extended) : Nat → Extended → Extended
  | 0, x => x
  | n + 1, x => timesRepeatedly factor n (x.times factor)

/-- The number times a power of ten: by hundreds, then by tens, then by ones of the exponent. -/
def timesTenTo (x : Extended) (e : Int) : Extended :=
  let n := e.natAbs
  let sign := if e < 0 then -1 else 1
  let x := timesRepeatedly (tenTo (sign * 100)) (n / 100) x
  let x := timesRepeatedly (tenTo (sign * 10)) (n % 100 / 10) x
  timesRepeatedly (tenTo sign) (n % 10) x

/-- The double nearest to the number with the given sign. -/
def toBinary64 (negative : Bool) (x : Extended) : Binary64 :=
  Binary64.ofRatio negative x.ratio.1 x.ratio.2

/-- The size of a finite double. -/
def ofBinary64 (x : Binary64) : Extended := rounded x.magnitude (-1074)

end Extended

namespace Decimal

/-- From here on a word takes no more digits. -/
def wordFull : Nat := (maxWord64 - 9) / 10

/-- Takes digits into a word until it is full; also counts those that it takes. -/
def fill : Nat → List Char → Nat × Nat
  | n, [] => (n, 0)
  | n, c :: cs =>
    match digitValue c with
    | some d =>
      if n < wordFull then
        let (m, taken) := fill (10 * n + d) cs
        (m, taken + 1)
      else (n, 0)
    | none => (n, 0)

/-- The power of ten of a written exponent; one of six digits or more counts as ten thousand, which
is out of range as well. -/
def boundedPower (e : Int) : Int :=
  if e.natAbs < 100000 then e else if e < 0 then -10000 else 10000

/-- Reads a numeral without a sign as the digits that fill a word and their power of ten. -/
def readFilled (negative : Bool) (cs : List Char) : Option Decimal :=
  let whole := cs.takeWhile isDigit
  let (part, tail) :=
    match cs.dropWhile isDigit with
    | '.' :: r => (r.takeWhile isDigit, r.dropWhile isDigit)
    | r => ([], r)
  let (high, taken) := fill 0 whole
  let (digits, further) := fill high part
  if whole.isEmpty && part.isEmpty then none
  else (readExponent tail).map fun e =>
    ⟨negative, digits, boundedPower e + (whole.length - taken : Nat) - further⟩

/-- Brings the power of ten closer to zero, as far as up to `n` digits of the word allow. -/
def settlePower : Nat → Nat → Int → Nat × Int
  | 0, s, e => (s, e)
  | n + 1, s, e =>
    if 0 < e ∧ s < maxWord64 / 10 then settlePower n (10 * s) (e - 1)
    else if e < 0 ∧ s % 10 = 0 then settlePower n (s / 10) (e + 1)
    else (s, e)

/-- The double that digits of a word and their power of ten become in the store. -/
def viaExtended (d : Decimal) : Binary64 :=
  if d.digits = 0 then Binary64.ofFields d.negative 0
  else
    -- No word has more than twenty digits.
    let (s, e) := settlePower 20 d.digits d.exponent
    if e = 0 then Binary64.ofRatio d.negative s 1
    else ((Extended.rounded s 0).timesTenTo e).toBinary64 d.negative

end Decimal

end Provenance
