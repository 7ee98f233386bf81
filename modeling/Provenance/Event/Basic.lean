import Provenance.Event.FieldText

/-!
# Events

An event tells what happened to which objects, when, where and why.  Its objects, field values,
business transactions and parties hang on it as lists.  Once captured, an event is identified by its
request and its place in the request.

## Main definitions

* `EventKind`, `Action`, `EpcRole`, `Direction` — the cases and their codes.
* `Epc`, `BusinessTransaction`, `Party`, `ErrorDeclaration` — the parts of an event, beside its custom
  fields.
* `Event` — the event.
-/

namespace Provenance

/-! ### Cases and codes -/

/-- What an event is about. -/
inductive EventKind
  | object
  | aggregation
  | transaction
  | transformation
  | quantity
  deriving DecidableEq, Repr

/-- What an event does to the objects it names. -/
inductive Action
  | add
  | observe
  | delete
  deriving DecidableEq, Repr

/-- The part an object plays in an event. -/
inductive EpcRole
  | list
  | parent
  | child
  | input
  | output
  | quantity
  | childQuantity
  | inputQuantity
  | outputQuantity
  deriving DecidableEq, Repr

/-- Whether a party hands over or receives. -/
inductive Direction
  | source
  | destination
  deriving DecidableEq, Repr

namespace EventKind

/-- The stored code. -/
def code : EventKind → String
  | object => "ObjectEvent"
  | aggregation => "AggregationEvent"
  | transaction => "TransactionEvent"
  | transformation => "TransformationEvent"
  | quantity => "QuantityEvent"

instance : Coded EventKind where
  all := [object, aggregation, transaction, transformation, quantity]
  code := code
  mem_all a := by cases a <;> decide
  code_injective a b := by cases a <;> cases b <;> decide

end EventKind

namespace Action

/-- The stored code. -/
def code : Action → String
  | add => "ADD"
  | observe => "OBSERVE"
  | delete => "DELETE"

instance : Coded Action where
  all := [add, observe, delete]
  code := code
  mem_all a := by cases a <;> decide
  code_injective a b := by cases a <;> cases b <;> decide

end Action

namespace EpcRole

/-- The stored code. -/
def code : EpcRole → String
  | list => "list"
  | parent => "parent_id"
  | child => "child_epc"
  | input => "input_epc"
  | output => "output_epc"
  | quantity => "quantity"
  | childQuantity => "child_quantity"
  | inputQuantity => "input_quantity"
  | outputQuantity => "output_quantity"

instance : Coded EpcRole where
  all := [list, parent, child, input, output, quantity, childQuantity, inputQuantity,
    outputQuantity]
  code := code
  mem_all a := by cases a <;> decide
  code_injective a b := by cases a <;> cases b <;> decide

/-- The roles whose value is a class of objects, with an optional quantity. -/
def isQuantity : EpcRole → Bool
  | quantity | childQuantity | inputQuantity | outputQuantity => true
  | _ => false

end EpcRole

namespace Direction

/-- The stored code. -/
def code : Direction → String
  | source => "source"
  | destination => "destination"

instance : Coded Direction where
  all := [source, destination]
  code := code
  mem_all a := by cases a <;> decide
  code_injective a b := by cases a <;> cases b <;> decide

end Direction

/-! ### The parts of an event -/

/-- Identity of a captured event. -/
structure EventId where
  request : Int
  index : Int
  deriving DecidableEq, Repr, Hashable

/-- An object, or a class of objects with a quantity. -/
structure Epc where
  role : EpcRole
  value : String
  quantity : Option Binary64
  unitOfMeasure : Option String
  deriving DecidableEq, Repr

/-- A business transaction that the event belongs to. -/
structure BusinessTransaction where
  kind : String
  id : String
  deriving DecidableEq, Repr

/-- A party or place that the objects come from or go to. -/
structure Party where
  direction : Direction
  kind : String
  id : String
  deriving DecidableEq, Repr

/-- The declaration that an earlier event was wrong. -/
structure ErrorDeclaration where
  time : Instant
  reason : Option String
  correctiveIds : List String
  deriving DecidableEq, Repr

/-! ### Events -/

/-- An event.  Its identity and its record time are given to it by the store. -/
structure Event where
  id : Option EventId
  kind : EventKind
  time : Instant
  recordTime : Option Instant
  timezoneOffset : String
  action : Option Action
  businessStep : Option String
  disposition : Option String
  readPoint : Option String
  businessLocation : Option String
  /-- The name that the event was given by who recorded it. -/
  name : Option String
  transformation : Option String
  errorDeclaration : Option ErrorDeclaration
  epcs : List Epc
  customFields : List CustomField
  businessTransactions : List BusinessTransaction
  parties : List Party
  deriving Repr

end Provenance
