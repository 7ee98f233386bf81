import Provenance.Text.Split

/-!
# Text written in ASCII

A text can be written in letters, digits and hyphens: first its ASCII characters, with a hyphen
behind them if there are any, and then numbers that tell which other characters go where.  The
characters go in in ascending order.  Each number is the way from one insertion to the next, counted
in places of the text and then in code points.  Its digits come from the lowest to the highest, and
the last one is told by being small; how small follows from the numbers before.

## Main definitions

* `threshold`, `adapt` — when a digit is the last one.
* `readStep` — reads a number.
* `readEncoded` — reads a text.
-/

namespace Provenance.Uri

/-- The value of a letter or digit as a digit. -/
def digitOf (c : Char) : Option Nat :=
  if 'a' ≤ c ∧ c ≤ 'z' then some (c.toNat - 'a'.toNat)
  else if '0' ≤ c ∧ c ≤ '9' then some (c.toNat - '0'.toNat + 26)
  else none

/-- The base that digits are written in. -/
def digitBase : Nat := 36

/-- A digit below this is the last one at a place; places are counted in steps of the base. -/
def threshold (bias place : Nat) : Nat := min (max (place - bias) 1) 26

/-- Divides a number until it is small, and counts the divisions in steps of the base. -/
def reduce (k n : Nat) : Nat × Nat :=
  if 455 < n then reduce (k + digitBase) (n / 35) else (k, n)
  termination_by n
  decreasing_by exact Nat.div_lt_self (by omega) (by decide)

/-- The bias after a step from one insertion to the next, with so many characters then; the step
before any other tends to be long. -/
def adapt (step length : Nat) (isFirst : Bool) : Nat :=
  let halved := if isFirst then step / 700 else step / 2
  let (k, n) := reduce 0 (halved + halved / length)
  k + digitBase * n / (n + 38)

/-- The bound of all numbers. -/
def wordBound : Nat := Nat.pow 2 32

/-- Reads a number onto another one. -/
def readStep (bias place weight total : Nat) : List Char → Option (Nat × List Char)
  | [] => none
  | c :: cs => do
    let d ← digitOf c
    let total := total + d * weight
    let t := threshold bias place
    if wordBound ≤ total then none
    else if d < t then some (total, cs)
    else if wordBound ≤ weight * (digitBase - t) then none
    else readStep bias (place + digitBase) (weight * (digitBase - t)) total cs

/-- A number takes at least one character. -/
theorem length_lt_of_readStep {bias place weight total n : Nat} {cs rest : List Char}
    (h : readStep bias place weight total cs = some (n, rest)) : rest.length < cs.length := by
  induction cs generalizing place weight total with
  | nil => simp [readStep] at h
  | cons c cs ih =>
    rw [readStep] at h
    cases hd : digitOf c with
    | none => simp [hd] at h
    | some d =>
      simp only [hd, Option.bind_eq_bind, Option.bind_some] at h
      split at h
      · simp at h
      · split at h
        · simp only [Option.some.injEq, Prod.mk.injEq] at h
          simp [h.2]
        · split at h
          · simp at h
          · exact Nat.lt_succ_of_lt (ih h)

/-- The character of a code point. -/
def charOf? (n : Nat) : Option Char := if n.isValidChar then some (Char.ofNat n) else none

/-- Inserts the characters that numbers tell, from a code point and a place on. -/
def insertAll (bias code place : Nat) (text : List Char) (cs : List Char) : Option (List Char) :=
  if cs.isEmpty then some text
  else
    match _h : readStep bias digitBase 1 place cs with
    | none => none
    | some (total, rest) =>
      let length := text.length + 1
      let next := code + total / length
      match charOf? next with
      | none => none
      | some c =>
        insertAll (adapt (total - place) length (place == 0)) next (total % length + 1)
          (text.insertIdx (total % length) c) rest
  termination_by cs.length
  decreasing_by exact length_lt_of_readStep _h

/-- The bias of the first number. -/
def firstBias : Nat := 72

/-- The first character beyond ASCII. -/
def firstCode : Nat := 128

/-- Reads a text: what comes before the last hyphen, and what is inserted into that. -/
def readEncoded (cs : List Char) : Option (List Char) :=
  match Text.splitLast '-' cs with
  | some (b :: basic, steps) => insertAll firstBias firstCode 0 (b :: basic) steps
  | _ => insertAll firstBias firstCode 0 [] cs

end Provenance.Uri
