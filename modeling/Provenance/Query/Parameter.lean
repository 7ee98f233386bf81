import Provenance.Coded
import Provenance.Number.Decimal
import Provenance.Text.Blank
import Provenance.Time.Timestamp

/-!
# Query parameters

A query is given a list of named parameters, each with a list of values.  Before a query sees the
list, it is brought into normal form: one entry for each name, in the order in which the names first
occur, with all values that are not blank, and no entry without values.  Readers turn the values of
a parameter into what a query asks for.

## Main definitions

* `Parameter`, `Poll` — a parameter, and a query with its parameters.
* `normalize` — the normal form of a parameter list.
* `ParameterFault` — what can be wrong with a parameter list, with the words for it.
* `Parameter.single`, `Parameter.time`, `Parameter.number`, `Parameter.count`, `Parameter.flag`,
  `Parameter.each` — the readers.
-/

namespace Provenance

open Text (isBlankText trimmed)

/-- A named parameter with its values. -/
structure Parameter where
  name : String
  values : List String
  deriving DecidableEq, Repr

/-- A query by name, with the parameters to answer it for. -/
structure Poll where
  query : String
  parameters : List Parameter
  deriving DecidableEq, Repr

/-! ### Normal form -/

/-- Adds values to the entry of a name, which is opened at the end if there is none. -/
def addValues (name : String) (values : List String) : List Parameter → List Parameter
  | [] => [⟨name, values⟩]
  | p :: ps =>
    if p.name = name then ⟨p.name, p.values ++ values⟩ :: ps else p :: addValues name values ps

/-- One entry for each name, blank values left out. -/
def mergeParameters (ps : List Parameter) : List Parameter :=
  ps.foldl (fun merged p => addValues p.name (p.values.filter fun v => !isBlankText v) merged) []

/-- The normal form of a parameter list. -/
def normalize (ps : List Parameter) : List Parameter :=
  (mergeParameters ps).filter fun p => !p.values.isEmpty

/-! ### Faults -/

/-- What the value of a parameter has to be. -/
inductive Expectation
  | timestamp
  | number
  | positive
  | truth
  | orderField
  | orderDirection
  | comparable
  | attributeFilter
  | attributePresence
  deriving DecidableEq, Repr

/-- What the values of a parameter have to name. -/
inductive CodeClass
  | eventKind
  | action
  deriving DecidableEq, Repr

/-- What can be wrong with a query or its parameters. -/
inductive ParameterFault
  | unknownQuery (query : String)
  | unknownParameter (name : String)
  | notSingle (name : String)
  | malformed (name : String) (expected : Expectation)
  | unknownCode (name value : String) (expected : CodeClass)
  | countsCombined
  | countOutOfRange (name : String)
  | inclusionsMissing
  | executionFailed (reason : String)
  deriving DecidableEq, Repr

/-- The words for what a value has to be. -/
def Expectation.words : Expectation → String
  | timestamp => "an RFC 3339 timestamp"
  | number => "a number"
  | positive => "a positive integer"
  | truth => "true or false"
  | orderField => "eventTime or recordTime"
  | orderDirection => "ASC or DESC"
  | comparable => "a number or an RFC 3339 timestamp"
  | attributeFilter => "EQATTR_<field>_<attribute>"
  | attributePresence => "HASATTR_<field>"

/-- The words for what a value has to name. -/
def CodeClass.words : CodeClass → String
  | eventKind => "an event type"
  | action => "ADD, OBSERVE or DELETE"

/-- The words for a fault. -/
def ParameterFault.message : ParameterFault → String
  | unknownQuery q => "unknown query " ++ q
  | unknownParameter n => n ++ ": unknown parameter"
  | notSingle n => n ++ ": expects exactly one value"
  | malformed n e => n ++ ": expects " ++ e.words
  | unknownCode n v c => n ++ ": '" ++ v ++ "' is not " ++ c.words
  | countsCombined => "eventCountLimit and maxEventCount cannot be combined"
  | countOutOfRange n => n ++ " is out of range"
  | inclusionsMissing => "includeAttributes and includeChildren are required"
  | executionFailed r => "query execution failed: " ++ r

/-! ### Readers -/

namespace Parameter

/-- The one value, without the blanks around it. -/
def single (p : Parameter) : Except ParameterFault String :=
  match p.values with
  | [v] => .ok (trimmed v)
  | _ => .error (.notSingle p.name)

/-- Reads the one value, and says what it has to be where it cannot be read. -/
def readSingle {α : Type} (p : Parameter) (expected : Expectation) (read : String → Option α) :
    Except ParameterFault α := do
  let v ← p.single
  match read v with
  | some a => .ok a
  | none => .error (.malformed p.name expected)

/-- A timestamp. -/
def time (p : Parameter) : Except ParameterFault Instant :=
  p.readSingle .timestamp fun v => Instant.read v.toList

/-- A finite number. -/
def number (p : Parameter) : Except ParameterFault Binary64 :=
  p.readSingle .number fun v => (Binary64.read v.toList).filter Binary64.isFinite

/-- A whole number from one up to the largest word. -/
def count (p : Parameter) : Except ParameterFault Nat :=
  p.readSingle .positive fun v => (Text.readNat Text.maxWord64 v.toList).filter (0 < ·)

/-- One of the words for true and false. -/
def flag (p : Parameter) : Except ParameterFault Bool :=
  p.readSingle .truth fun v =>
    if v = "true" then some true else if v = "false" then some false else none

/-- All values as codes, up to the first that is none. -/
def each {α : Type} [Coded α] (p : Parameter) (expected : CodeClass) :
    Except ParameterFault (List α) :=
  p.values.mapM fun v =>
    match Coded.ofCode (trimmed v) with
    | some a => .ok a
    | none => .error (.unknownCode p.name v expected)

end Parameter

end Provenance
