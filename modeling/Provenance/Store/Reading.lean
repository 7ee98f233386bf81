import Provenance.Coded
import Provenance.Store.Basic

/-!
# Reading cells

A value that is read from a column has to be of the kind that is asked for; what is read names the
column and its place among the columns where it is not.  A whole number will do for a number, and a
code has to stand for a case.

## Main definitions

* `readWhole`, `readWhole?`, `readReal?` — reading numbers.
* `readCode` — reading codes.
-/

namespace Provenance

variable {α : Type}

/-- The failure of a cell in a column that should hold something else. -/
def Cell.unexpected (column : Nat) (name : String) (c : Cell) : Except StorageError α :=
  .error (.unexpected c.kind column name)

/-- A whole number. -/
def readWhole (column : Nat) (name : String) : Cell → Except StorageError Int
  | .integer n => .ok n
  | c => c.unexpected column name

/-- A whole number that may be missing. -/
def readWhole? (column : Nat) (name : String) : Cell → Except StorageError (Option Int)
  | .null => .ok none
  | .integer n => .ok (some n)
  | c => c.unexpected column name

/-- A number that may be missing. -/
def readReal? (column : Nat) (name : String) : Cell → Except StorageError (Option Binary64)
  | .null => .ok none
  | .integer n => .ok (some (.ofInt n))
  | .real x => .ok (some x)
  | c => c.unexpected column name

/-- The case of a stored code. -/
def readCode [Coded α] (column : Nat) (code : String) : Except StorageError α :=
  match Coded.ofCode code with
  | some a => .ok a
  | none => .error (.unknownCode column code)

@[simp] theorem readWhole_integer (column : Nat) (name : String) (n : Int) :
    readWhole column name (.integer n) = .ok n := rfl

@[simp] theorem readWhole?_ofInt? (column : Nat) (name : String) (n : Option Int) :
    readWhole? column name (.ofInt? n) = .ok n := by
  cases n <;> rfl

@[simp] theorem readReal?_ofReal? (column : Nat) (name : String) (x : Option Binary64) :
    readReal? column name (.ofReal? x) = .ok x := by
  cases x <;> rfl

end Provenance
