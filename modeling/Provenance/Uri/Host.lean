import Provenance.Uri.Label
import Provenance.Uri.Percent

/-!
# Hosts

A host is a name, an address of four numbers or an address of eight.  Addresses of four may be
written with fewer numbers, the last of which then fills the rest, and each in octal or hexadecimal;
a host whose last label is a number has to be such an address.  In an address of eight the longest
run of zeros is left out.

## Main definitions

* `readShortAddress`, `shortAddressText` — addresses of four numbers.
* `readLongAddress`, `longAddressText` — addresses of eight numbers.
* `readHost`, `readOpaqueHost` — the normal form of a host.
-/

namespace Provenance.Uri

open Text (splitAll digitsValueFrom)

/-! ### Addresses of four numbers -/

/-- The number that digits denote in a base. -/
def valueInBase (base : Nat) (cs : List Char) : Option Nat :=
  cs.foldlM (fun n c => do
    let d ← hexValue c
    if d < base then some (base * n + d) else none) 0

/-- A number in decimal, after a zero in octal, or after `0x` in hexadecimal. -/
def readPartNumber : List Char → Option Nat
  | [] => none
  | '0' :: 'x' :: cs => valueInBase 16 cs
  | '0' :: 'X' :: cs => valueInBase 16 cs
  | '0' :: c :: cs => valueInBase 8 (c :: cs)
  | cs => valueInBase 10 cs

/-- The labels of a host name, less an empty one at the end. -/
def labels (cs : List Char) : List (List Char) :=
  let ls := splitAll '.' cs
  match ls.getLast? with
  | some [] => ls.dropLast
  | _ => ls

/-- Whether the last label is a number. -/
def endsInNumber (cs : List Char) : Bool :=
  match (labels cs).getLast? with
  | some l => (!l.isEmpty && l.all fun c => c.isDigit) || (readPartNumber l).isSome
  | none => false

/-- Reads an address of four numbers as one number. -/
def readShortAddress (cs : List Char) : Option Nat := do
  let ns ← (labels cs).mapM readPartNumber
  let last ← ns.getLast?
  let front := ns.dropLast
  if 3 < front.length then none
  else if front.any (255 < ·) then none
  else if Nat.pow 256 (4 - front.length) ≤ last then none
  else some (front.foldl (fun n k => 256 * n + k) 0 * Nat.pow 256 (4 - front.length) + last)

/-- The four numbers of an address with points between them. -/
def shortAddressText (n : Nat) : List Char :=
  let parts := [n / Nat.pow 256 3, n / Nat.pow 256 2 % 256, n / 256 % 256, n % 256]
  (".".intercalate (parts.map toString)).toList

/-! ### Addresses of eight numbers -/

/-- Reads one to four hexadecimal digits. -/
def readPiece (cs : List Char) : Option Nat :=
  if cs.isEmpty || 4 < cs.length then none else valueInBase 16 cs

/-- Reads a number below 256 in decimal, without zeros in front. -/
def readByte (cs : List Char) : Option Nat :=
  match cs with
  | [] => none
  | '0' :: _ :: _ => none
  | cs => (if cs.length ≤ 3 then valueInBase 10 cs else none).filter (· < 256)

/-- Reads four bytes with points between them as two pieces. -/
def readEmbedded (cs : List Char) : Option (List Nat) := do
  match ← (splitAll '.' cs).mapM readByte with
  | [a, b, c, d] => some [256 * a + b, 256 * c + d]
  | _ => none

/-- Reads pieces with colons between them; the last may be an address of four numbers, where that is
allowed. -/
def readPieces (embedded : Bool) : List (List Char) → Option (List Nat)
  | [] => some []
  | [p] => if embedded && p.contains '.' then readEmbedded p else (readPiece p).map fun n => [n]
  | p :: ps => do some ((← readPiece p) :: (← readPieces embedded ps))

/-- Cuts a text at the first pair of colons. -/
def splitColons : List Char → Option (List Char × List Char)
  | [] => none
  | ':' :: ':' :: cs => some ([], cs)
  | c :: cs => (splitColons cs).map fun (a, b) => (c :: a, b)

/-- The pieces of a text, where an empty text has none. -/
def piecesOf (embedded : Bool) (cs : List Char) : Option (List Nat) :=
  if cs.isEmpty then some [] else readPieces embedded (splitAll ':' cs)

/-- Reads an address of eight numbers, in which a pair of colons stands for at least one zero. -/
def readLongAddress (cs : List Char) : Option (List Nat) :=
  match splitColons cs with
  | none => (piecesOf true cs).filter fun ps => ps.length == 8
  | some (front, back) => do
    let a ← piecesOf false front
    let b ← piecesOf true back
    if a.length + b.length ≤ 7 then
      some (a ++ List.replicate (8 - a.length - b.length) 0 ++ b)
    else none

/-- How many zeros a list begins with. -/
def zeroRun (ns : List Nat) : Nat := (ns.takeWhile (· == 0)).length

/-- The first of the longest runs of zeros, by place and length. -/
def longestRun : Nat → List Nat → Nat × Nat
  | i, [] => (i, 0)
  | i, n :: ns =>
    let here := zeroRun (n :: ns)
    let later := longestRun (i + 1) ns
    if later.2 ≤ here then (i, here) else later

/-- Numbers in hexadecimal with colons between them. -/
def piecesText (ns : List Nat) : String :=
  ":".intercalate (ns.map fun n => String.ofList (Nat.toDigits 16 n))

/-- The normal form of an address of eight numbers. -/
def longAddressText (ns : List Nat) : List Char :=
  let (start, length) := longestRun 0 ns
  (if length < 2 then piecesText ns
    else piecesText (ns.take start) ++ "::" ++ piecesText (ns.drop (start + length))).toList

/-! ### Hosts -/

/-- Reads an address of eight numbers in brackets. -/
def readBracketed (cs : List Char) : Option (List Char) := do
  let inner := cs.dropLast
  if cs.getLast? = some ']' then
    some ('[' :: longAddressText (← readLongAddress inner) ++ [']'])
  else none

/-- The characters that no name of a host may have. -/
def isForbidden (c : Char) : Bool :=
  c.toNat ≤ 32 || 126 < c.toNat ||
    [35, 37, 47, 58, 60, 62, 63, 64, 91, 92, 93, 94, 124].contains c.toNat

/-- The normal form of a host in an address of a well-known kind: a name in small letters, whose
labels can be read, or an address.  Names have to be written in ASCII. -/
def readHost (cs : List Char) : Option (List Char) :=
  match cs with
  | '[' :: rest => readBracketed rest
  | cs =>
    let name := (unescape cs).map fun b => (Char.ofNat b.toNat).toLower
    if name.isEmpty || name.any isForbidden || !isInternational name then none
    else if endsInNumber name then (readShortAddress name).map shortAddressText
    else some name

/-- The characters that no host of any address may have. -/
def isOpaqueForbidden (c : Char) : Bool :=
  [0, 9, 10, 13, 32, 35, 47, 58, 60, 62, 63, 64, 91, 92, 93, 94, 124].contains c.toNat

/-- The normal form of a host in any other address. -/
def readOpaqueHost (cs : List Char) : Option (List Char) :=
  match cs with
  | '[' :: rest => readBracketed rest
  | cs => if cs.any isOpaqueForbidden then none else some (escape controlClass cs)

end Provenance.Uri
