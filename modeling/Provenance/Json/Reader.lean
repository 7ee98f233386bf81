import Provenance.Json.Basic
import Provenance.Number.Stepwise

/-!
# Reading JSON

The text of a value is read from the left: each reader takes what it reads off the front and leaves
the rest.  Arrays and objects may lie inside of each other up to a fixed depth.  A whole number that
no word of 64 bits holds is read as a double, and so is a negative zero; doubles are read in steps.
A number that is too large for a double is refused, and so is half of a surrogate pair.

## Main definitions

* `Json.readString`, `Json.readNumber`, `Json.readValue` — reading a value off the front.
* `Json.read` — reading a text.
-/

namespace Provenance.Json

/-! ### Blanks and words -/

/-- The blanks between the parts of a value. -/
def isGap (c : Char) : Bool := c == ' ' || c == '\t' || c == '\n' || c == '\r'

/-- The text without the blanks in front. -/
def skipGap (cs : List Char) : List Char := cs.dropWhile isGap

/-- What follows a word, if the text begins with it. -/
def readWord (word : String) (cs : List Char) : Option (List Char) :=
  let w := word.toList
  if cs.take w.length = w then some (cs.drop w.length) else none

/-! ### Strings -/

/-- The value of a hexadecimal digit. -/
def hexValue (c : Char) : Option Nat :=
  if '0' ≤ c ∧ c ≤ '9' then some (c.toNat - 48)
  else if 'a' ≤ c ∧ c ≤ 'f' then some (c.toNat - 87)
  else if 'A' ≤ c ∧ c ≤ 'F' then some (c.toNat - 55)
  else none

/-- Takes four hexadecimal digits off the front. -/
def readHex : List Char → Option (Nat × List Char)
  | a :: b :: c :: d :: cs => do
    some (((← hexValue a) * 16 + (← hexValue b)) * 256 + (← hexValue c) * 16 + (← hexValue d), cs)
  | _ => none

/-- Whether a unit is the first half of a surrogate pair. -/
def isHighHalf (n : Nat) : Bool := 0xD800 ≤ n && n < 0xDC00

/-- Whether a unit is the second half of a surrogate pair. -/
def isLowHalf (n : Nat) : Bool := 0xDC00 ≤ n && n < 0xE000

/-- Reads the character after a backslash and the letter for a unit; a pair of halves is one
character. -/
def readUnit (cs : List Char) : Option (Char × List Char) := do
  let (high, cs) ← readHex cs
  if isHighHalf high then
    let cs ← readWord "\\u" cs
    let (low, cs) ← readHex cs
    if isLowHalf low then some (Char.ofNat (0x10000 + (high - 0xD800) * 0x400 + (low - 0xDC00)), cs)
    else none
  else if isLowHalf high then none
  else some (Char.ofNat high, cs)

/-- Reads what follows a backslash. -/
def readEscape : List Char → Option (Char × List Char)
  | '"' :: cs => some ('"', cs)
  | '\\' :: cs => some ('\\', cs)
  | '/' :: cs => some ('/', cs)
  | 'b' :: cs => some ('\x08', cs)
  | 'f' :: cs => some ('\x0c', cs)
  | 'n' :: cs => some ('\n', cs)
  | 'r' :: cs => some ('\r', cs)
  | 't' :: cs => some ('\t', cs)
  | 'u' :: cs => readUnit cs
  | _ => none

/-- Reads up to `n` characters of a string and the quote behind them, after those before, which are
given in reverse. -/
def readChars : Nat → List Char → List Char → Option (String × List Char)
  | 0, _, _ => none
  | _ + 1, _, [] => none
  | n + 1, done, c :: cs =>
    if c = '"' then some (String.ofList done.reverse, cs)
    else if c = '\\' then
      match readEscape cs with
      | some (d, rest) => readChars n (d :: done) rest
      | none => none
    else if c.toNat < 0x20 then none
    else readChars n (c :: done) cs

/-- Reads a string of at most `n` characters behind its opening quote. -/
def readString (n : Nat) (cs : List Char) : Option (String × List Char) := readChars (n + 1) [] cs

/-! ### Numbers -/

/-- Whether a character can stand in a number. -/
def isNumeric (c : Char) : Bool :=
  Decimal.isDigit c || c == '-' || c == '+' || c == '.' || c == 'e' || c == 'E'

/-- Whether the digits of a number are those of a whole number without zeros in front. -/
def isPlain : List Char → Bool
  | [] => false
  | ['0'] => true
  | '0' :: _ => false
  | cs => cs.all Decimal.isDigit

/-- Whether the text of a number without a sign is well formed: a whole number, then a point with
digits behind it, then an exponent, where only the first is needed. -/
def isWellFormed (cs : List Char) : Bool :=
  let rest := cs.dropWhile Decimal.isDigit
  isPlain (cs.takeWhile Decimal.isDigit) &&
    match rest with
    | '.' :: r => (r.takeWhile Decimal.isDigit) != []
    | _ => true

/-- The value of digits alone: a whole number where a word holds it, else a double. -/
def wholeNumber (d : Decimal) : Option Json :=
  let n : Int := if d.negative then -(d.digits : Int) else d.digits
  if d.exponent = 0 && !(d.negative && d.digits == 0) && -(Nat.pow 2 63) ≤ n then some (.integer n)
  else d.inSteps.map .decimal

/-- The value of the text of a number. -/
def numberOf (text : List Char) : Option Json :=
  let (negative, cs) := match text with
    | '-' :: cs => (true, cs)
    | cs => (false, cs)
  if isWellFormed cs then
    (Decimal.readHeld negative cs).bind fun d =>
      if cs.all Decimal.isDigit then wholeNumber d else d.inSteps.map .decimal
  else none

/-- Reads a number off the front. -/
def readNumber (cs : List Char) : Option (Json × List Char) :=
  (numberOf (cs.takeWhile isNumeric)).map fun j => (j, cs.dropWhile isNumeric)

/-! ### Lists -/

/-- Reads up to `n` items with commas between them and the closing character, after the items
before, which are given in reverse. -/
def readItems {α : Type} (item : List Char → Option (α × List Char)) (close : Char) :
    Nat → List α → List Char → Option (List α × List Char)
  | 0, _, _ => none
  | n + 1, done, cs =>
    match item cs with
    | none => none
    | some (a, cs) =>
      match skipGap cs with
      | [] => none
      | c :: rest =>
        if c = ',' then readItems item close n (a :: done) rest
        else if c = close then some ((a :: done).reverse, rest)
        else none

/-- Reads a list of at most `n` items behind its opening character. -/
def readList {α : Type} (item : List Char → Option (α × List Char)) (close : Char) (n : Nat)
    (cs : List Char) : Option (List α × List Char) :=
  match skipGap cs with
  | [] => none
  | c :: rest => if c = close then some ([], rest) else readItems item close n [] cs

/-- Reads a member of an object, with a name of at most `n` characters. -/
def readMember (value : List Char → Option (Json × List Char)) (n : Nat) (cs : List Char) :
    Option ((String × Json) × List Char) :=
  match skipGap cs with
  | '"' :: cs => do
    let (name, cs) ← readString n cs
    match skipGap cs with
    | ':' :: cs =>
      let (v, cs) ← value cs
      some ((name, v), cs)
    | _ => none
  | _ => none

/-! ### Values -/

/-- Reads a value that is neither an array nor an object, in a text of at most `n` characters. -/
def readScalar (n : Nat) : List Char → Option (Json × List Char)
  | [] => none
  | c :: cs =>
    match c with
    | '"' => (readString n cs).map fun (s, rest) => (.string s, rest)
    | 'n' => (readWord "ull" cs).map fun rest => (.null, rest)
    | 't' => (readWord "rue" cs).map fun rest => (.bool true, rest)
    | 'f' => (readWord "alse" cs).map fun rest => (.bool false, rest)
    | _ => readNumber (c :: cs)

/-- Reads a value in a text of at most `n` characters, in which arrays and objects lie inside of
each other to a depth at most. -/
def readValue (n : Nat) : Nat → List Char → Option (Json × List Char)
  | 0, cs => readScalar n (skipGap cs)
  | depth + 1, cs =>
    match skipGap cs with
    | '[' :: cs => (readList (readValue n depth) ']' n cs).map fun (vs, rest) => (.array vs, rest)
    | '\x7b' :: cs =>
      (readList (readMember (readValue n depth) n) '\x7d' n cs).map fun (ms, rest) =>
        (.object ms, rest)
    | cs => readScalar n cs

/-- How deep arrays and objects may lie inside of each other. -/
def maxDepth : Nat := 127

/-- Reads a text that holds one value. -/
def read (cs : List Char) : Option Json :=
  match readValue cs.length maxDepth cs with
  | some (j, rest) => if (skipGap rest).isEmpty then some j else none
  | none => none

end Provenance.Json
