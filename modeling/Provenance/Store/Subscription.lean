import Provenance.Store.Reading
import Provenance.Subscription.Basic

/-!
# Stored subscriptions and what is pending for them

The store keeps subscriptions with their parameters, and for each the requests that have still to be
delivered to it.  What an evaluation delivers is fixed by a *scope*: the requests pending when it
began, bounded by the greatest of their numbers.  To acknowledge a scope is to take the requests up
to that number off the list, so requests captured later stay on it.

## Main definitions

* `Store.addSubscription`, `Store.removeSubscription` — putting in and taking out.
* `Store.listSubscriptions`, `Store.findSubscription` — reading.
* `Scope`, `Store.scope`, `Store.acknowledge` — what is pending.
-/

namespace Provenance

open Insertion (ofRows)

/-! ### Rows of a subscription -/

namespace Subscription

/-- The texts of the schedule; they are all missing where there is a trigger. -/
def scheduleSource (s : Subscription) : ScheduleSource :=
  match s.trigger with
  | .schedule schedule => schedule.source
  | .capture _ => ⟨none, none, none, none, none, none⟩

/-- The text that names the trigger, if there is one. -/
def triggerUri (s : Subscription) : Option String :=
  match s.trigger with
  | .schedule _ => none
  | .capture uri => some uri

/-- A flag as a number. -/
def flagNumber (b : Bool) : Int := if b then 1 else 0

/-- The row of a subscription itself. -/
def row (s : Subscription) (id : Int) : SubscriptionRow where
  id := id
  name := s.name
  query := s.query
  destination := s.destination
  active := .integer (flagNumber s.active)
  reportIfEmpty := .integer (flagNumber s.reportIfEmpty)
  initialRecordTime := .ofInt? (s.initialRecordTime.map Instant.millis)
  trigger := s.triggerUri
  schedule := s.scheduleSource

/-- The rows of the values of one parameter. -/
def valueRows (id : Int) (index : Nat) (p : Parameter) : List ParameterRow :=
  p.values.zipIdx.map fun (v, i) => ⟨id, .integer index, .integer i, p.name, v⟩

/-- The rows of the parameters. -/
def parameterRows (s : Subscription) (id : Int) : List ParameterRow :=
  s.parameters.zipIdx.flatMap fun (p, i) => valueRows id i p

end Subscription

namespace Store

/-! ### Putting in and taking out -/

/-- The statement that notes the requests recorded since a time as pending for a subscription. -/
def markSince (s : Store) (id : Int) (since : Instant) : Insertion :=
  let recorded := s.requests.filter fun r =>
    r.recordTime.sortOrder (.integer since.millis) != .lt
  ⟨.pending, recorded.map fun r => ⟨id, r.id⟩, 2⟩

/-- The statements that put a subscription in. -/
def subscriptionInsertions (s : Store) (sub : Subscription) (id : Int) : List Insertion :=
  [ofRows .subscriptions [sub.row id]] ++
    (sub.parameterRows id).map (fun r => ofRows .parameters [r]) ++
    sub.initialRecordTime.toList.map (s.markSince id)

/-- Puts a subscription in, and tells its number.  With an initial record time, the requests
recorded since then are pending from the start. -/
def addSubscription (s : Store) (sub : Subscription) : Except StorageError (Store × Int) := do
  let id ← s.nextNumber .subscriptions (s.subscriptions.map SubscriptionRow.id)
    s.lastSubscription sub.row
  let after ← s.insertAll (s.subscriptionInsertions sub id)
  .ok ({ after with lastSubscription := id }, id)

/-- The number of the subscription of a name. -/
def findSubscription (s : Store) (name : String) : Option Int :=
  (s.subscriptions.find? fun r => r.name == name).map SubscriptionRow.id

/-- Takes a subscription out, with its parameters and what is pending for it. -/
def removeSubscription (s : Store) (name : String) : Store :=
  let gone := (s.subscriptions.filter fun r => r.name == name).map SubscriptionRow.id
  { s with
    subscriptions := s.subscriptions.filter fun r => r.name != name
    parameters := s.parameters.filter fun r => !gone.contains r.subscription
    pending := s.pending.filter fun r => !gone.contains r.subscription }

/-! ### Reading -/

/-- A value of a parameter with the place of the parameter. -/
structure PlacedValue where
  subscription : Int
  index : Int
  name : String
  value : String
  deriving DecidableEq, Repr

/-- Reads a value of a parameter. -/
def readValue (r : ParameterRow) : Except StorageError PlacedValue := do
  .ok ⟨r.subscription, ← readWhole 1 "parameter_index" r.index, r.name, r.value⟩

/-- Adds a value to the parameter of its index, which is opened where it is a new one. -/
def addValue (ps : List (Int × Parameter)) (v : PlacedValue) : List (Int × Parameter) :=
  match ps.getLast? with
  | some (i, p) =>
    if i = v.index then ps.dropLast ++ [(i, ⟨p.name, p.values ++ [v.value]⟩)]
    else ps ++ [(v.index, ⟨v.name, [v.value]⟩)]
  | none => [(v.index, ⟨v.name, [v.value]⟩)]

/-- The parameters of a subscription, from the values of all parameters. -/
def parametersOf (values : List PlacedValue) (id : Int) : List Parameter :=
  ((values.filter fun v => v.subscription == id).foldl addValue []).map Prod.snd

/-- Reads when a subscription is due. -/
def readTrigger (r : SubscriptionRow) : Except StorageError Trigger :=
  match r.trigger with
  | some uri => .ok (.capture uri)
  | none =>
    match Schedule.read r.schedule with
    | .ok schedule => .ok (.schedule schedule)
    | .error fault => .error (.badSchedule fault)

/-- Reads a subscription, given the values of all parameters. -/
def readSubscription (values : List PlacedValue) (r : SubscriptionRow) :
    Except StorageError Subscription := do
  let trigger ← readTrigger r
  let active ← readWhole 4 "active" r.active
  let reportIfEmpty ← readWhole 5 "report_if_empty" r.reportIfEmpty
  let initial ← readWhole? 6 "initial_record_time" r.initialRecordTime
  .ok {
    id := some r.id
    name := r.name
    query := r.query
    parameters := parametersOf values r.id
    destination := r.destination
    active := active != 0
    reportIfEmpty := reportIfEmpty != 0
    initialRecordTime := initial.map Instant.ofMillis
    trigger := trigger }

/-- All subscriptions, in the order in which they were put in. -/
def listSubscriptions (s : Store) : Except StorageError (List Subscription) := do
  let values ← s.parameters.mapM readValue
  s.subscriptions.mapM (readSubscription values)

/-- The names of the subscriptions to a query. -/
def subscriptionNames (s : Store) (query : String) : List String :=
  (s.subscriptions.filter fun r => r.query == query).map SubscriptionRow.name

/-! ### What is pending -/

/-- The requests pending for a subscription, in ascending order. -/
def pendingRequests (s : Store) (id : Int) : List Int :=
  ((s.pending.filter fun r => r.subscription == id).map PendingRow.request).mergeSort

end Store

/-- What was pending for a subscription at some time: how many requests, and up to which. -/
structure Scope where
  subscription : Int
  through : Int
  count : Nat
  deriving DecidableEq, Repr

/-- Whether nothing was pending. -/
def Scope.isEmpty (c : Scope) : Bool := c.count == 0

namespace Store

/-- What is pending for a subscription now. -/
def scope (s : Store) (id : Int) : Scope :=
  let requests := (s.pending.filter fun r => r.subscription == id).map PendingRow.request
  ⟨id, requests.max?.getD 0, requests.length⟩

/-- Whether a row is covered by a scope. -/
def covered (c : Scope) (r : PendingRow) : Bool :=
  r.subscription == c.subscription && r.request ≤ c.through

/-- Takes what a scope covers off the list, and tells how many requests that were.  An empty scope
covers nothing. -/
def acknowledge (s : Store) (c : Scope) : Store × Nat :=
  if c.isEmpty then (s, 0)
  else ({ s with pending := s.pending.filter fun r => !covered c r }, s.pending.countP (covered c))

end Store

end Provenance
