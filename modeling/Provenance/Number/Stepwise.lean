import Provenance.Number.Decimal

/-!
# Numerals read in steps

A number in JSON is read with a word of 64 bits and a few floating-point steps, so that the result
can lie one place beside the number nearest to the numeral.  The word takes digits as long as it
holds them; digits of the whole part that it cannot take count as zeros, and those of the fraction
count as nothing.  The word is rounded to a double, and the double is multiplied or divided by a
power of ten that is a double itself.

## Main definitions

* `Binary64.times`, `Binary64.dividedBy` — product and quotient of finite numbers, rounded to
  nearest.
* `Decimal.readHeld` — the digits of a numeral that a word holds, and their power of ten.
* `Decimal.inSteps` — the number that is reached from them.
-/

namespace Provenance

open Text

namespace Binary64

/-- The number nearest to the product of two finite numbers. -/
def times (x y : Binary64) : Binary64 :=
  ofRatio (x.signBit != y.signBit) (x.magnitude * y.magnitude) (unitsPerOne * unitsPerOne)

/-- The number nearest to the quotient of two finite numbers, the second of which is not zero. -/
def dividedBy (x y : Binary64) : Binary64 :=
  ofRatio (x.signBit != y.signBit) x.magnitude y.magnitude

/-- The number nearest to a power of ten. -/
def tenTo (n : Nat) : Binary64 := ofRatio false (Nat.pow 10 n) 1

/-- The largest power of ten that is a finite number. -/
def maxTenPower : Nat := 308

/-- The number times a power of ten, multiplied once or divided as often as it takes.  There is no
such number if the product is too large. -/
def scale (x : Binary64) (e : Int) : Option Binary64 :=
  if e < -maxTenPower then
    if x.magnitude = 0 then some x else scale (x.dividedBy (tenTo maxTenPower)) (e + maxTenPower)
  else if e < 0 then some (x.dividedBy (tenTo (-e).toNat))
  else if e ≤ maxTenPower then
    let product := x.times (tenTo e.toNat)
    if product.isFinite then some product else none
  else if x.magnitude = 0 then some x
  else none
  termination_by (-e).toNat
  decreasing_by
    have : (maxTenPower : Int) = 308 := rfl
    omega

end Binary64

namespace Decimal

/-- Takes digits into a number as long as a word of 64 bits holds it; also gives what it does not
take. -/
def gather : Nat → List Char → Nat × List Char
  | n, [] => (n, [])
  | n, c :: cs =>
    match digitValue c with
    | some d => if 10 * n + d ≤ maxWord64 then gather (10 * n + d) cs else (n, c :: cs)
    | none => (n, c :: cs)

/-- Reads a numeral without a sign as far as a word of 64 bits holds its digits. -/
def readHeld (negative : Bool) (cs : List Char) : Option Decimal :=
  let whole := cs.takeWhile isDigit
  let (part, tail) :=
    match cs.dropWhile isDigit with
    | '.' :: r => (r.takeWhile isDigit, r.dropWhile isDigit)
    | r => ([], r)
  let (high, beyond) := gather 0 whole
  let (digits, dropped) := gather high part
  (readExponent tail).map fun e =>
    ⟨negative, digits, e + beyond.length + dropped.length - part.length⟩

/-- The number that is reached in steps, if it is not too large. -/
def inSteps (d : Decimal) : Option Binary64 :=
  (Binary64.ofRatio d.negative d.digits 1).scale d.exponent

/-- The word holds what was gathered, if it held what it began with. -/
theorem gather_le {n : Nat} {cs : List Char} (h : n ≤ maxWord64) :
    (gather n cs).1 ≤ maxWord64 := by
  fun_induction gather n cs with
  | case1 => exact h
  | case2 _ _ _ _ _ hle ih => exact ih hle
  | case3 => exact h
  | case4 => exact h

end Decimal

end Provenance
