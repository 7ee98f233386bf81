import Provenance.Scheduler.Loop
import Provenance.Store.Capture
import Provenance.Uri.Basic

/-!
# The repository

A repository is a store with a scheduler.  It captures requests, answers polls, and takes and drops
subscriptions.  A subscription is brought into normal form and checked before anything changes; then
it is put into the store, and then it is registered with the scheduler.  It is dropped in the same
order: out of the store first, and then from the scheduler.

## Main definitions

* `Store.captureChecked` — captures an admissible request.
* `Store.poll` — answers a query at once.
* `normalDestination` — the destination of a subscription as an absolute address in normal form.
* `Subscription.prepare`, `Store.subscribe` — a subscription in normal form, and putting it in.
* `Repository`, `Repository.subscribe`, `Repository.unsubscribe` — the store and the scheduler.
-/

namespace Provenance

open Text (isBlankText)

namespace Store

/-- Captures a request that passes the checks. -/
def captureChecked (s : Store) (r : CaptureRequest) (user : Option String) (recordTime : Instant) :
    Except Failure (Store × Int) := do
  r.check.mapError .invalidCapture
  (s.capture r user recordTime).mapError .storage

/-! ### Polls -/

/-- What a caller is told of a failure inside of a query. -/
def queryFailure : Failure → Failure
  | .storage e => .parameter (.executionFailed e.message)
  | .internal f => .parameter (.executionFailed f.message)
  | f => f

/-- Answers a query at once. -/
def poll (s : Store) (p : Poll) : Except Failure Response :=
  match StandingQuery.ofName p.query with
  | none => .error (.parameter (.unknownQuery p.query))
  | some q => do
    let normal := normalize p.parameters
    (q.check normal).mapError .parameter
    let results ← (q.execute s normal none).mapError queryFailure
    .ok ⟨p.query, none, results⟩

/-- The names of the subscriptions to a known query. -/
def subscribersOf (s : Store) (query : String) : Except Failure (List String) :=
  match StandingQuery.ofName query with
  | none => .error (.noSuchName query)
  | some _ => .ok (s.subscriptionNames query)

end Store

/-! ### Subscriptions -/

/-- The text with a slash at its end. -/
def withSlash (s : String) : String := if s.toList.getLast? = some '/' then s else s ++ "/"

/-- The normal form of a destination, if it is an absolute address. -/
def normalDestination (s : String) : Option String :=
  (Uri.Address.read (Text.trim s.toList)).map fun a => withSlash a.toText

/-- A trigger with its schedule read again, or with a text that is not blank. -/
def Trigger.prepare : Trigger → Except Failure Trigger
  | .schedule s =>
    match s.reread with
    | .ok s => .ok (.schedule s)
    | .error f => .error (.invalidSubscription (.badSchedule f))
  | .capture uri =>
    if isBlankText uri then .error (.invalidSubscription .blankTrigger) else .ok (.capture uri)

/-- A subscription in normal form, if it can be taken. -/
def Subscription.prepare (sub : Subscription) : Except Failure Subscription := do
  require (!isBlankText sub.name) (.invalidSubscription .blankName)
  let destination ← match normalDestination sub.destination with
    | some d => .ok d
    | none => .error (.invalidSubscription (.badDestination sub.destination))
  let query ← match (StandingQuery.ofName sub.query).filter StandingQuery.isSubscribable with
    | some q => .ok q
    | none => .error (.notPermitted (.closedQuery sub.query))
  let parameters := normalize sub.parameters
  (query.check parameters).mapError .parameter
  let trigger ← sub.trigger.prepare
  .ok { sub with destination := destination, parameters := parameters, trigger := trigger }

/-- A subscription that the store does not take because of its rows has a name that is taken. -/
def insertionFailure (name : String) : StorageError → Failure
  | .refused | .duplicate _ _ | .dangling | .missing _ _ => .notPermitted (.nameTaken name)
  | e => .storage e

/-- Puts a subscription in, and gives it its number. -/
def Store.subscribe (s : Store) (sub : Subscription) : Except Failure (Store × Subscription) :=
  if (s.findSubscription sub.name).isSome then .error (.notPermitted (.nameTaken sub.name))
  else
    match s.addSubscription sub with
    | .ok (after, id) => .ok (after, { sub with id := some id })
    | .error e => .error (insertionFailure sub.name e)

/-! ### The store and the scheduler -/

/-- A store with a scheduler. -/
structure Repository where
  store : Store
  loop : Loop

namespace Repository

/-- Asks something of the scheduler. -/
def ask (r : Repository) (caller : Nat) (c : Command) : Repository × Except Failure (List Reply) :=
  match r.loop.step (.command caller c) with
  | some (loop, replies) => ({ r with loop := loop }, .ok replies)
  | none => (r, .error (.internal .schedulerStopped))

/-- Captures a request and marks what fires after captures.  A scheduler that is gone is not
missed. -/
def capture (r : Repository) (request : CaptureRequest) (user : Option String)
    (recordTime : Instant) (notify : Bool) : Repository × Except Failure Int :=
  match r.store.captureChecked request user recordTime with
  | .error f => (r, .error f)
  | .ok (store, id) =>
    let after := { r with store := store }
    ((if notify then (after.ask 0 .captured).1 else after), .ok id)

/-- Takes a subscription: into the store, then to the scheduler. -/
def subscribe (r : Repository) (sub : Subscription) : Repository × Except Failure (List Reply) :=
  match sub.prepare with
  | .error f => (r, .error f)
  | .ok prepared =>
    match r.store.subscribe prepared with
    | .error f => (r, .error f)
    | .ok (store, stored) => { r with store := store }.ask 0 (.register stored)

/-- Drops a subscription: out of the store, then from the scheduler. -/
def unsubscribe (r : Repository) (name : String) : Repository × Except Failure (List Reply) :=
  if (r.store.findSubscription name).isNone then (r, .error (.noSuchName name))
  else { r with store := r.store.removeSubscription name }.ask 0 (.remove name)

end Repository

/-- The version of the standard that the repository follows. -/
def standardVersion : String := "1.2"

/-- The version of the repository. -/
def vendorVersion : String := "0.1.0"

end Provenance
