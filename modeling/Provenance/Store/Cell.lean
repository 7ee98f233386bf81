import Provenance.Number.Fifteen
import Provenance.Text.Blank

/-!
# Cells

What stands in a column of a table, and what is bound to a statement.  Numbers are compared by
value, whether whole or not; every number comes before every text; texts are compared by their code
points; and a missing value compares with nothing.  A column that holds numbers or texts pulls the
values it is compared with to its own side.

## Main definitions

* `Cell` — a missing value, a whole number, a number or a text.
* `Affinity`, `Affinity.convert` — the side that a column pulls to.
* `Cell.order`, `Cell.sortOrder` — how cells compare, and how they are sorted.
-/

namespace Provenance

/-- A value in a table or bound to a statement. -/
inductive Cell
  | null
  | integer (n : Int)
  | real (x : Binary64)
  | text (s : String)
  deriving DecidableEq, Repr, Inhabited, Hashable

/-- What a cell can hold. -/
inductive CellKind
  | null
  | integer
  | real
  | text
  deriving DecidableEq, Repr

/-- The word for what a cell holds. -/
def CellKind.word : CellKind → String
  | null => "Null"
  | integer => "Integer"
  | real => "Real"
  | text => "Text"

namespace Cell

/-- What a cell holds. -/
def kind : Cell → CellKind
  | null => .null
  | integer _ => .integer
  | real _ => .real
  | text _ => .text

/-- The cell of a text that may be missing. -/
def ofText? : Option String → Cell
  | some s => text s
  | none => null

/-- The cell of a whole number that may be missing. -/
def ofInt? : Option Int → Cell
  | some n => integer n
  | none => null

/-- The cell of a number that may be missing. -/
def ofReal? : Option Binary64 → Cell
  | some x => real x
  | none => null

/-- The place of a number on the line of units; not-a-number has none, as little as a text. -/
def position : Cell → Option Int
  | integer n => some (n * Binary64.unitsPerOne)
  | real x => x.units
  | _ => none

/-- The order of two cells; there is none where one of them is missing or not a number. -/
def order : Cell → Cell → Option Ordering
  | text s, text t => some (compare s t)
  | text _, c => c.position.map fun _ => .gt
  | c, text _ => c.position.map fun _ => .lt
  | c, d => do some (compare (← c.position) (← d.position))

/-- Whether two cells are there and equal. -/
def same (c d : Cell) : Bool := c.order d == some .eq

/-- The order of cells in a sorted list: missing values, then numbers, then texts. -/
def sortOrder (c d : Cell) : Ordering :=
  match c, d with
  | .null, .null => .eq
  | .null, _ => .lt
  | _, .null => .gt
  | c, d => (c.order d).getD .eq

/-- The order of lists of cells, by the first place where they differ. -/
def compareLists : List Cell → List Cell → Ordering
  | [], [] => .eq
  | [], _ :: _ => .lt
  | _ :: _, [] => .gt
  | c :: cs, d :: ds => (c.sortOrder d).then (compareLists cs ds)

@[simp] theorem order_text (s t : String) : order (text s) (text t) = some (compare s t) := rfl

@[simp] theorem order_null_left (c : Cell) : order null c = none := by cases c <;> rfl

@[simp] theorem order_null_right (c : Cell) : order c null = none := by
  cases c with
  | real x => cases h : x.units <;> simp only [order, position, h] <;> rfl
  | _ => rfl

end Cell

/-- What a column makes of the values it meets. -/
inductive Affinity
  /-- A column of texts makes numbers into texts. -/
  | text
  /-- A column of whole numbers makes texts that are numerals into numbers. -/
  | integer
  /-- A column of numbers does so too, and holds no whole numbers. -/
  | real
  deriving DecidableEq, Repr

namespace Affinity

/-- The blanks that may stand around a numeral in a text. -/
def isGap (c : Char) : Bool := c == ' ' || (9 ≤ c.toNat && c.toNat ≤ 13)

/-- The number that a text denotes in full, a whole one where digits suffice and a word holds it. -/
def numeral (s : String) : Option Cell :=
  let core := Text.dropEndWhile isGap (s.toList.dropWhile isGap)
  let (negative, rest) := Decimal.splitSign core
  let magnitude : Int := Decimal.valueOfDigits rest
  let n := if negative then -magnitude else magnitude
  (Decimal.readFilled negative rest).map fun d =>
    if rest.all Decimal.isDigit && -(Nat.pow 2 63) ≤ n && n < Nat.pow 2 63 then .integer n
    else .real d.viaExtended

/-- A value as a column of this kind compares it. -/
def convert : Affinity → Cell → Cell
  | text, .integer n => .text (toString n)
  | text, .real x => Cell.ofText? x.toText
  | text, c => c
  | _, .text s => (numeral s).getD (.text s)
  | _, c => c

/-- The whole number that a column of whole numbers keeps in place of a number, where a word holds
it with some room. -/
def wholePart (x : Binary64) : Option Int :=
  x.units.bind fun n =>
    if n % Binary64.unitsPerOne = 0 ∧ n.natAbs < (Nat.pow 2 63 - 1024) * Binary64.unitsPerOne then
      some (n / Binary64.unitsPerOne)
    else none

/-- A value as a column of this kind keeps it. -/
def store : Affinity → Cell → Cell
  | text, c => convert text c
  | integer, c =>
    match convert integer c with
    | .real x => if x.isFinite then ((wholePart x).map Cell.integer).getD (.real x) else .real x
    | d => d
  | real, c =>
    match convert real c with
    | .integer n => .real (Binary64.ofInt n)
    | .real x => Cell.ofReal? x.stored
    | d => d

@[simp] theorem convert_text_text (s : String) : convert text (.text s) = .text s := rfl

@[simp] theorem convert_integer (a : Affinity) (h : a ≠ text) (n : Int) :
    convert a (.integer n) = .integer n := by
  cases a <;> simp_all [convert]

end Affinity

end Provenance
