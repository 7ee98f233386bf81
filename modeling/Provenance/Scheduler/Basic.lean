import Provenance.Configuration
import Provenance.Subscription.Evaluation

/-!
# The registry of the scheduler

The scheduler holds an entry for each subscription that can fire.  An entry on a schedule fires in
every second that its schedule covers, once; an entry after captures is marked due by a capture,
and fires when it is due and no retry has to be waited for.  Registering a subscription makes a new
entry in place of any other of the same name; entries are told apart by a stamp that is never used
again.

## Main definitions

* `TriggerState`, `Entry`, `Scheduler` — the registry.
* `Scheduler.register`, `Scheduler.remove`, `Scheduler.markDue` — changes from outside.
* `Scheduler.collect` — the entries that fire at an instant.
* `Scheduler.settle` — what the ends of evaluations change.
* `Scheduler.overruns` — whether they ask for a retry that no calendar has.
-/

namespace Provenance

/-- When an entry after captures fires next. -/
structure TriggerState where
  due : Bool
  nextAttempt : Option Instant
  backoff : Backoff
  deriving DecidableEq, Repr

/-- A registered subscription. -/
structure Entry where
  stamp : Nat
  subscription : Subscription
  /-- The last second in which the entry fired. -/
  lastFired : Option Int
  /-- Only entries after captures have one. -/
  trigger : Option TriggerState
  deriving DecidableEq, Repr

/-- The registry, the stamp of the next entry, and the settings. -/
structure Scheduler where
  entries : List Entry
  nextStamp : Nat
  retry : RetryPolicy
  maxConcurrency : Nat
  deriving DecidableEq, Repr

/-- An entry that fires: its stamp and its subscription. -/
structure Due where
  stamp : Nat
  subscription : Subscription
  deriving DecidableEq, Repr

/-- The end of the evaluation of an entry; there is no result where the entry was gone before it
began. -/
structure Evaluated where
  stamp : Nat
  name : String
  result : Option (Except RunFailure Outcome)

namespace TriggerState

/-- Due at once, so that what is already pending is delivered. -/
def start (p : RetryPolicy) : TriggerState := ⟨true, none, .start p⟩

/-- Whether no retry has to be waited for. -/
def isReady (t : TriggerState) (now : Instant) : Bool :=
  match t.nextAttempt with
  | some next => next.notAfter now
  | none => true

/-- Forgets failures. -/
def succeed (t : TriggerState) : TriggerState :=
  { t with nextAttempt := none, backoff := t.backoff.reset }

/-- Counts a failure: due again after a wait, or, when the retries are spent, only after the next
capture. -/
def fail (t : TriggerState) (now : Instant) : TriggerState :=
  match t.backoff.recordFailure now with
  | (b, some next) => ⟨true, some next, b⟩
  | (b, none) => ⟨false, none, b.reset⟩

/-- What the end of an evaluation changes. -/
def settle (t : TriggerState) (now : Instant) : Except RunFailure Outcome → TriggerState
  | .ok _ => t.succeed
  | .error _ => t.fail now

end TriggerState

namespace Entry

/-- A new entry. -/
def make (stamp : Nat) (p : RetryPolicy) (sub : Subscription) : Entry :=
  ⟨stamp, sub, none, if sub.trigger.onCapture then some (.start p) else none⟩

/-- Whether an entry fires at an instant. -/
def fires (e : Entry) (now : Instant) : Bool :=
  e.subscription.active &&
    match e.subscription.trigger with
    | .schedule s => s.covers now && e.lastFired != some now.second
    | .capture _ =>
      match e.trigger with
      | some t => t.due && t.isReady now
      | none => false

/-- An entry after it fired. -/
def fired (e : Entry) (now : Instant) : Entry :=
  { e with
    lastFired := some now.second
    trigger := e.trigger.map fun t => { t with due := false } }

/-- An entry after a capture. -/
def markDue (e : Entry) : Entry :=
  { e with trigger := e.trigger.map fun t => { t with due := true } }

/-- An entry after the end of an evaluation. -/
def settle (e : Entry) (now : Instant) (r : Except RunFailure Outcome) : Entry :=
  { e with trigger := e.trigger.map fun t => t.settle now r }

end Entry

namespace Scheduler

/-- The registry without entries. -/
def empty (settings : SchedulerSettings) : Scheduler :=
  ⟨[], 0, settings.retry, max settings.maxConcurrency 1⟩

/-- Registers a subscription in place of any other of the same name. -/
def register (s : Scheduler) (sub : Subscription) : Scheduler :=
  { s with
    entries := (s.entries.filter fun e => e.subscription.name != sub.name) ++
      [.make s.nextStamp s.retry sub]
    nextStamp := s.nextStamp + 1 }

/-- The registry with the given subscriptions. -/
def ofSubscriptions (settings : SchedulerSettings) (subs : List Subscription) : Scheduler :=
  subs.foldl register (empty settings)

/-- Whether a name is registered. -/
def has (s : Scheduler) (name : String) : Bool :=
  s.entries.any fun e => e.subscription.name == name

/-- Takes the entry of a name out. -/
def remove (s : Scheduler) (name : String) : Scheduler :=
  { s with entries := s.entries.filter fun e => e.subscription.name != name }

/-- Whether an entry is still registered. -/
def isLive (s : Scheduler) (stamp : Nat) : Bool := s.entries.any fun e => e.stamp == stamp

/-- The registered names in ascending order. -/
def names (s : Scheduler) : List String :=
  (s.entries.map fun e => e.subscription.name).mergeSort fun a b => compare a b != .gt

/-- Marks all entries after captures as due. -/
def markDue (s : Scheduler) : Scheduler := { s with entries := s.entries.map Entry.markDue }

/-- The entries that fire at an instant. -/
def due (s : Scheduler) (now : Instant) : List Due :=
  (s.entries.filter fun e => e.fires now).map fun e => ⟨e.stamp, e.subscription⟩

/-- Lets all entries fire that do at an instant, and tells which. -/
def collect (s : Scheduler) (now : Instant) : Scheduler × List Due :=
  ({ s with entries := s.entries.map fun e => if e.fires now then e.fired now else e }, s.due now)

/-- Puts the end of one evaluation into the entry that was evaluated, if it is still there. -/
def settleOne (now : Instant) (s : Scheduler) (v : Evaluated) : Scheduler :=
  match v.result with
  | none => s
  | some r =>
    { s with entries := s.entries.map fun e => if e.stamp = v.stamp then e.settle now r else e }

/-- Whether the end of one evaluation asks for a retry beyond the calendar. -/
def overrunsAt (s : Scheduler) (now : Instant) (v : Evaluated) : Bool :=
  match v.result with
  | some (.error _) =>
    s.entries.any fun e => e.stamp == v.stamp && e.trigger.any fun t => t.backoff.overruns now
  | _ => false

/-- Whether the ends of evaluations ask for a retry beyond the calendar. -/
def overruns (s : Scheduler) (now : Instant) (vs : List Evaluated) : Bool :=
  vs.any (s.overrunsAt now)

/-- Puts the ends of evaluations into the entries. -/
def settle (s : Scheduler) (now : Instant) (vs : List Evaluated) : Scheduler :=
  vs.foldl (settleOne now) s

end Scheduler

end Provenance
