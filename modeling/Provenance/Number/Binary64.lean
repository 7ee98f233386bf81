/-!
# Binary64 numbers

Quantities and numeric field values are binary floating-point numbers of 64 bits.  They are read,
stored, compared and written.  So a number is kept as its bits, and every question about it is
answered exactly, on the line of integers: a finite number is a whole multiple of `2 ^ -1074`, the
*unit*, and infinity stands one step above the largest of them.

## Main definitions

* `Binary64` — a number as its bits.
* `Binary64.units` — the number as a multiple of the unit; not-a-number has none.
* `Binary64.ofRatio` — the number nearest to a quotient, ties to even.
* `Binary64.ofInt` — the number nearest to an integer.
* `Binary64.stored` — the number as a store column gives it back.
-/

namespace Provenance

/-- A binary floating-point number of 64 bits. -/
structure Binary64 where
  /-- Sign, eleven bits of exponent and fifty-two bits of fraction, from the top. -/
  bits : UInt64
  deriving DecidableEq, Repr, Inhabited, Hashable

namespace Binary64

/-! ### The fields of a number -/

/-- Whether the sign bit is set. -/
def signBit (x : Binary64) : Bool := Nat.pow 2 63 ≤ x.bits.toNat

/-- The eleven exponent bits. -/
def exponentBits (x : Binary64) : Nat := x.bits.toNat / Nat.pow 2 52 % Nat.pow 2 11

/-- The fifty-two fraction bits. -/
def fractionBits (x : Binary64) : Nat := x.bits.toNat % Nat.pow 2 52

/-- Not a number: full exponent, some fraction. -/
def isNaN (x : Binary64) : Bool := x.exponentBits == 2047 && x.fractionBits != 0

/-- Neither infinite nor not-a-number. -/
def isFinite (x : Binary64) : Bool := x.exponentBits != 2047

/-- The distance from zero in units; for infinity, one step above the finite numbers. -/
def magnitude (x : Binary64) : Nat :=
  if x.exponentBits = 0 then x.fractionBits
  else (Nat.pow 2 52 + x.fractionBits) * Nat.pow 2 (x.exponentBits - 1)

/-- The number as a multiple of `2 ^ -1074`. -/
def units (x : Binary64) : Option Int :=
  if x.isNaN then none else if x.signBit then some (-(x.magnitude : Int)) else some x.magnitude

/-- How many units make one. -/
def unitsPerOne : Nat := Nat.pow 2 1074

/-- Below zero; a negative zero is not. -/
def isNegative (x : Binary64) : Bool :=
  match x.units with
  | some n => n < 0
  | none => false

/-! ### Particular numbers -/

/-- The number with the given sign and distance from zero, both as bits. -/
def ofFields (negative : Bool) (rest : Nat) : Binary64 :=
  ⟨UInt64.ofNat ((if negative then Nat.pow 2 63 else 0) + rest)⟩

/-- Zero. -/
def zero : Binary64 := ⟨0⟩

/-- Infinity, or its opposite. -/
def infinity (negative : Bool) : Binary64 := ofFields negative (2047 * Nat.pow 2 52)

/-- Not a number. -/
def nan : Binary64 := ⟨0x7FF8000000000000⟩

/-! ### Rounding -/

/-- The quotient rounded to the nearest whole number, a half to the even neighbour. -/
def roundQuotient (num den : Nat) : Nat :=
  let q := num / den
  let twice := 2 * (num % den)
  if twice < den then q else if den < twice then q + 1 else q + q % 2

/-- The position of the leading binary digit of `num / den`. -/
def leadingBit (num den : Nat) : Int :=
  let guess := (num.log2 : Int) - den.log2
  let short :=
    if 0 ≤ guess then num < den * Nat.pow 2 guess.toNat else num * Nat.pow 2 (-guess).toNat < den
  if short then guess - 1 else guess

/-- The number nearest to `num / den` with the given sign.  The spacing of the numbers around the
quotient is fixed by its leading digit and never finer than the unit; a quotient that rounds up to
the next power of two carries into the exponent by itself. -/
def ofRatio (negative : Bool) (num den : Nat) : Binary64 :=
  if num = 0 then ofFields negative 0
  else
    let spacing := max (leadingBit num den - 52) (-1074)
    let steps :=
      if 0 ≤ spacing then roundQuotient num (den * Nat.pow 2 spacing.toNat)
      else roundQuotient (num * Nat.pow 2 (-spacing).toNat) den
    let rest :=
      if steps < Nat.pow 2 52 then steps else (spacing + 1074).toNat * Nat.pow 2 52 + steps
    if 2047 * Nat.pow 2 52 ≤ rest then infinity negative else ofFields negative rest

/-- The number nearest to an integer. -/
def ofInt (n : Int) : Binary64 := ofRatio (n < 0) n.natAbs 1

/-! ### Storage -/

/-- What a column gives back for a number put into it: not-a-number is no value, and zero loses
its sign. -/
def stored (x : Binary64) : Option Binary64 :=
  if x.isNaN then none else if x.magnitude = 0 then some zero else some x

@[simp] theorem stored_nan {x : Binary64} (h : x.isNaN = true) : x.stored = none := by
  simp [stored, h]

/-- Storing keeps the place on the number line. -/
theorem units_of_stored {x y : Binary64} (h : x.stored = some y) : y.units = x.units := by
  unfold stored at h
  split at h
  · simp at h
  · next hn =>
    split at h
    · next hz =>
      obtain rfl := Option.some.inj h
      have hzero : zero.units = some 0 := by decide
      rw [hzero]
      simp [units, hn, hz]
    · obtain rfl := Option.some.inj h
      rfl

end Binary64

end Provenance
