import Provenance.Store.Cell
import Provenance.Subscription.Schedule

/-!
# Rows

What the store keeps of requests, events, master data and subscriptions, one structure for each
kind of row.  Times are kept in milliseconds, cases by their codes, and flags as numbers.  A row of
a part of an event names the event by its request and its place in it, and has a place of its own.
A column of numbers can be made to hold anything, so its values are cells; the numbers of requests
and subscriptions are always whole.

## Main definitions

* `RequestRow`, `HeaderRow`, `ContactRow`, `CallbackRow` — requests.
* `EventRow`, `EpcRow`, `FieldRow`, `TransactionRow`, `PartyRow`, `DeclarationRow`,
  `CorrectiveRow` — events.
* `ElementRow`, `AttributeRow`, `LinkRow` — master data.
* `SubscriptionRow`, `ParameterRow`, `PendingRow` — subscriptions.
-/

namespace Provenance

/-- The request and the place that identify an event or a captured element. -/
abbrev PairKey := Int × Cell

/-! ### Requests -/

/-- A captured request. -/
structure RequestRow where
  id : Int
  documentTime : Cell
  recordTime : Cell
  schemaVersion : String
  user : Option String
  deriving DecidableEq, Repr

/-- The business header of a request. -/
structure HeaderRow where
  request : Int
  version : String
  standard : String
  typeVersion : String
  instanceIdentifier : String
  kind : String
  creationTime : Cell
  deriving DecidableEq, Repr

/-- A contact in the business header of a request. -/
structure ContactRow where
  request : Int
  index : Cell
  role : String
  identifier : String
  contact : Option String
  emailAddress : Option String
  faxNumber : Option String
  telephoneNumber : Option String
  kind : Option String
  deriving DecidableEq, Repr

/-- The answer to a subscription in a request. -/
structure CallbackRow where
  request : Int
  kind : String
  subscription : String
  reason : Option String
  deriving DecidableEq, Repr

/-! ### Events -/

/-- A captured event. -/
structure EventRow where
  request : Int
  index : Cell
  kind : String
  time : Cell
  recordTime : Cell
  timezoneOffset : String
  action : Option String
  businessStep : Option String
  disposition : Option String
  readPoint : Option String
  businessLocation : Option String
  name : Option String
  transformation : Option String
  deriving DecidableEq, Repr

/-- What identifies the event. -/
def EventRow.key (e : EventRow) : PairKey := (e.request, e.index)

/-- An object of an event. -/
structure EpcRow where
  request : Int
  event : Cell
  index : Cell
  role : String
  value : String
  isQuantity : Cell
  quantity : Cell
  unitOfMeasure : Option String
  deriving DecidableEq, Repr

/-- The event that a row belongs to. -/
def EpcRow.owner (r : EpcRow) : PairKey := (r.request, r.event)

/-- A custom field of an event; `parent` is the place of the field that it lies in. -/
structure FieldRow where
  request : Int
  event : Cell
  index : Cell
  parent : Cell
  origin : String
  space : String
  name : String
  text : Option String
  number : Cell
  date : Cell
  deriving DecidableEq, Repr

/-- The event that a row belongs to. -/
def FieldRow.owner (r : FieldRow) : PairKey := (r.request, r.event)

/-- A business transaction of an event. -/
structure TransactionRow where
  request : Int
  event : Cell
  index : Cell
  kind : String
  id : String
  deriving DecidableEq, Repr

/-- The event that a row belongs to. -/
def TransactionRow.owner (r : TransactionRow) : PairKey := (r.request, r.event)

/-- A source or destination of an event. -/
structure PartyRow where
  request : Int
  event : Cell
  index : Cell
  direction : String
  kind : String
  id : String
  deriving DecidableEq, Repr

/-- The event that a row belongs to. -/
def PartyRow.owner (r : PartyRow) : PairKey := (r.request, r.event)

/-- The error declaration of an event. -/
structure DeclarationRow where
  request : Int
  event : Cell
  time : Cell
  reason : Option String
  deriving DecidableEq, Repr

/-- The event that a row belongs to. -/
def DeclarationRow.owner (r : DeclarationRow) : PairKey := (r.request, r.event)

/-- An event that corrects another one. -/
structure CorrectiveRow where
  request : Int
  event : Cell
  index : Cell
  id : String
  deriving DecidableEq, Repr

/-- The event that a row belongs to. -/
def CorrectiveRow.owner (r : CorrectiveRow) : PairKey := (r.request, r.event)

/-! ### Master data -/

/-- A captured element of a vocabulary. -/
structure ElementRow where
  request : Int
  index : Cell
  vocabulary : String
  id : String
  deriving DecidableEq, Repr

/-- What identifies the element. -/
def ElementRow.key (m : ElementRow) : PairKey := (m.request, m.index)

/-- An attribute of a captured element. -/
structure AttributeRow where
  request : Int
  element : Cell
  index : Cell
  id : String
  value : String
  deriving DecidableEq, Repr

/-- The element that a row belongs to. -/
def AttributeRow.owner (r : AttributeRow) : PairKey := (r.request, r.element)

/-- A link from a captured element to a child. -/
structure LinkRow where
  request : Int
  element : Cell
  index : Cell
  vocabulary : String
  parent : String
  child : String
  deriving DecidableEq, Repr

/-- The element that a row belongs to. -/
def LinkRow.owner (r : LinkRow) : PairKey := (r.request, r.element)

/-! ### Subscriptions -/

/-- A subscription; without a trigger it has a schedule. -/
structure SubscriptionRow where
  id : Int
  name : String
  query : String
  destination : String
  active : Cell
  reportIfEmpty : Cell
  initialRecordTime : Cell
  trigger : Option String
  schedule : ScheduleSource
  deriving DecidableEq, Repr

/-- A value of a parameter of a subscription. -/
structure ParameterRow where
  subscription : Int
  index : Cell
  valueIndex : Cell
  name : String
  value : String
  deriving DecidableEq, Repr

/-- A request that has still to be delivered to a subscription. -/
structure PendingRow where
  subscription : Int
  request : Int
  deriving DecidableEq, Repr

end Provenance
