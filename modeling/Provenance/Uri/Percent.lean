import Provenance.Text.Numeral

/-!
# Percent encoding

A character that may not stand in a part of an address is written as its bytes, each as a percent
sign and two hexadecimal digits.  Which characters those are depends on the part.

## Main definitions

* `escape` — writes the characters of a class as bytes.
* `unescape` — reads percent signs with two digits as bytes.
* `pathClass`, `queryClass`, `specialQueryClass`, `fragmentClass`, `userClass`, `controlClass` —
  the classes.
-/

namespace Provenance.Uri

/-- The hexadecimal digit of a number below sixteen, in capitals. -/
def hexDigit (n : Nat) : Char := if n < 10 then Char.ofNat (48 + n) else Char.ofNat (55 + n)

/-- The value of a hexadecimal digit. -/
def hexValue (c : Char) : Option Nat :=
  let n := c.toNat
  if 48 ≤ n && n ≤ 57 then some (n - 48)
  else if 65 ≤ n && n ≤ 70 then some (n - 55)
  else if 97 ≤ n && n ≤ 102 then some (n - 87)
  else none

/-- A byte as a percent sign and two digits. -/
def escapeByte (b : UInt8) : List Char := ['%', hexDigit (b.toNat / 16), hexDigit (b.toNat % 16)]

/-- The bytes of a character. -/
def bytesOf (c : Char) : List UInt8 := (String.singleton c).toUTF8.toList

/-- Writes the characters of a class as bytes and leaves the others as they are. -/
def escape (inClass : Char → Bool) (cs : List Char) : List Char :=
  cs.flatMap fun c => if inClass c then (bytesOf c).flatMap escapeByte else [c]

/-- Reads percent signs with two digits after them as bytes. -/
def unescape : List Char → List UInt8
  | '%' :: a :: b :: cs =>
    match hexValue a, hexValue b with
    | some x, some y => UInt8.ofNat (16 * x + y) :: unescape cs
    | _, _ => 37 :: unescape (a :: b :: cs)
  | c :: cs => bytesOf c ++ unescape cs
  | [] => []

/-! ### Classes of characters -/

/-- Control characters, and all that are not ASCII. -/
def controlClass (c : Char) : Bool := c.toNat < 32 || 126 < c.toNat

/-- What may not stand in a fragment. -/
def fragmentClass (c : Char) : Bool := controlClass c || [32, 34, 60, 62, 96].contains c.toNat

/-- What may not stand in a path. -/
def pathClass (c : Char) : Bool := fragmentClass c || [35, 63, 123, 125].contains c.toNat

/-- What may not stand in front of a host. -/
def userClass (c : Char) : Bool :=
  pathClass c || [47, 58, 59, 61, 64, 91, 92, 93, 94, 124].contains c.toNat

/-- What may not stand in a query. -/
def queryClass (c : Char) : Bool := controlClass c || [32, 34, 35, 60, 62].contains c.toNat

/-- What may not stand in a query of an address of a well-known kind. -/
def specialQueryClass (c : Char) : Bool := queryClass c || c.toNat == 39

end Provenance.Uri
