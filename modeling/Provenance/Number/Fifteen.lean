import Provenance.Number.Extended

/-!
# Numbers as stored text

A number that meets a text column is written with fifteen significant digits: positional from
`1.0e-04` up to fifteen digits before the point, otherwise with an exponent of at least two digits.
Zeros at the end are dropped, but one digit always follows the point.  The digits are those of the
number after it was multiplied, in extended precision, into the range from `10 ^ 17` to `10 ^ 19`.

## Main definitions

* `Binary64.significant` — the fifteen digits, and the power of ten of the first.
* `Binary64.toText` — the text.
-/

namespace Provenance.Binary64

/-- Multiplies a number up to `n` times by a power of ten, as long as it is not below a bound, and
counts how often. -/
def lower (bound factor : Extended) : Nat → Extended → Extended × Nat
  | 0, x => (x, 0)
  | n + 1, x =>
    if x.isBelow bound then (x, 0)
    else
      let (y, k) := lower bound factor n (x.times factor)
      (y, k + 1)

/-- Multiplies a number up to `n` times by a power of ten, as long as it is below a bound, and
counts how often. -/
def raise (bound factor : Extended) : Nat → Extended → Extended × Nat
  | 0, x => (x, 0)
  | n + 1, x =>
    if x.isBelow bound then
      let (y, k) := raise bound factor n (x.times factor)
      (y, k + 1)
    else (x, 0)

/-- A positive number brought into the range from `10 ^ 17` to `10 ^ 19`, with the power of ten by
which it was divided.  Four steps by hundreds and ten by tens or ones reach from any double. -/
def intoRange (x : Extended) : Extended × Int :=
  if x.isBelow (.tenTo 19) then
    let (x, h) := raise (.tenTo (-97)) (.tenTo 100) 4 x
    let (x, t) := raise (.tenTo 7) (.tenTo 10) 12 x
    let (x, n) := raise (.tenTo 17) (.tenTo 1) 12 x
    (x, -((100 * h + 10 * t + n : Nat) : Int))
  else
    let (x, h) := lower (.tenTo 119) (.tenTo (-100)) 4 x
    let (x, t) := lower (.tenTo 29) (.tenTo (-10)) 12 x
    let (x, n) := lower (.tenTo 19) (.tenTo (-1)) 12 x
    (x, (100 * h + 10 * t + n : Nat))

/-- Fifteen significant digits of a positive number as a whole number, and the power of ten of the
first digit; a half of the last digit counts as one. -/
def significant (x : Extended) : Nat × Int :=
  let (y, power) := intoRange x
  let v := y.floor
  let beyond := (toString v).length - 15
  let digits := (v + 5 * Nat.pow 10 (beyond - 1)) / Nat.pow 10 beyond
  let p := power + beyond + 14
  -- Rounding up may carry into a sixteenth digit, which is then a zero at the end.
  if Nat.pow 10 15 ≤ digits then (digits / 10, p + 1) else (digits, p)

/-- Drops the zeros at the end, but keeps one character. -/
def dropTrailingZeros (cs : List Char) : List Char :=
  match (cs.reverse.dropWhile (· == '0')).reverse with
  | [] => ['0']
  | kept => kept

/-- The exponent with its sign and at least two digits. -/
def exponentText (p : Int) : String :=
  let digits := toString p.natAbs
  (if p < 0 then "-" else "+") ++ (if digits.length < 2 then "0" ++ digits else digits)

/-- The fifteen digits laid out with a point. -/
def layout (digits : Nat) (p : Int) : String :=
  let cs := (toString digits).toList
  if p < -4 ∨ 14 < p then
    String.ofList (cs.take 1) ++ "." ++ String.ofList (dropTrailingZeros (cs.drop 1)) ++ "e" ++
      exponentText p
  else if 0 ≤ p then
    String.ofList (cs.take (p.toNat + 1)) ++ "." ++
      String.ofList (dropTrailingZeros (cs.drop (p.toNat + 1)))
  else
    "0." ++ String.ofList (dropTrailingZeros (List.replicate ((-p).toNat - 1) '0' ++ cs))

/-- The text of a number in a text column; not-a-number has none. -/
def toText (x : Binary64) : Option String :=
  if x.isNaN then none
  else
    let sign := if x.signBit && x.magnitude != 0 then "-" else ""
    if !x.isFinite then some (sign ++ "Inf")
    else if x.magnitude = 0 then some "0.0"
    else
      let (digits, p) := significant (.ofBinary64 x)
      some (sign ++ layout digits p)

end Provenance.Binary64
