import Provenance.Repository.Basic

/-!
# The repository in time

The repository runs along a line of milliseconds that begins with its scheduler.  The scheduler
ticks on every full second.  A delivery takes as long as the destination takes to answer;
everything else happens at once.  The clock by which schedules and retries are judged is set from
outside and does not run by itself.

Nothing happens between the ticks and the ends of deliveries, so time passes from one of them to
the next.  A delivery that ends at a tick ends after it.

## Main definitions

* `Timeline` — the repository with its clocks, the deliveries under way, and what has ended.
* `Timeline.advance` — lets time pass.
* `Timeline.awaitTick` — lets time pass until no tick is in flight.
* `Timeline.tick`, `Timeline.shutdown`, `Timeline.restart` — what callers do with time.
-/

namespace Provenance

/-- A delivery under way. -/
structure Flight where
  due : Due
  stage : Stage
  response : Response
  refusal : Option Int
  ends : Nat

/-- An evaluation that ended. -/
structure Run where
  subscription : String
  result : Except RunFailure Outcome

/-- A delivery that ended; a refused one has a status. -/
structure Delivery where
  subscription : String
  destination : String
  response : Response
  refusal : Option Int

/-- What is told of a delivery that ended. -/
def Flight.delivery (f : Flight) : Delivery :=
  ⟨f.due.subscription.name, f.due.subscription.destination, f.response, f.refusal⟩

/-- The repository in time. -/
structure Timeline where
  repository : Repository
  settings : SchedulerSettings
  /-- By which schedules and retries are judged. -/
  clock : Instant
  /-- Milliseconds since the scheduler began. -/
  now : Nat
  nextTick : Nat
  /-- How the destination answers what is sent from now on. -/
  refusal : Option Int
  /-- How long the destination takes to answer what is sent from now on. -/
  delay : Nat
  flights : List Flight
  runs : List Run
  deliveries : List Delivery

namespace Timeline

/-- Milliseconds from tick to tick. -/
def tickInterval : Nat := 1000

/-- The repository takes a step of its scheduler, where it can. -/
def stepLoop (t : Timeline) (s : LoopStep) : Timeline :=
  match t.repository.loop.step s with
  | some (loop, _) => { t with repository := { t.repository with loop := loop } }
  | none => t

/-- The store has changed. -/
def setStore (t : Timeline) (s : Store) : Timeline :=
  { t with repository := { t.repository with store := s } }

/-! ### Evaluations -/

/-- An evaluation ends with a result. -/
def finish (t : Timeline) (d : Due) (r : Except RunFailure Outcome) : Timeline :=
  { t.stepLoop (.finish d.stamp r) with runs := t.runs ++ [⟨d.subscription.name, r⟩] }

/-- An evaluation goes as far as it can without the destination. -/
def evaluate (t : Timeline) (d : Due) : Timeline :=
  let (store, stage) := d.subscription.prepareAnswer t.repository.store
  let t := t.setStore store
  match stage, stage.response?, stage.result? with
  | stage, some response, _ =>
    { t with flights := t.flights ++ [⟨d, stage, response, t.refusal, t.now + t.delay⟩] }
  | _, none, some r => t.finish d r
  | _, none, none => t

/-- Whether an evaluation runs. -/
def isRunning (t : Timeline) (stamp : Nat) : Bool :=
  match t.repository.loop.tick with
  | some tick => tick.running.any fun d => d.stamp == stamp
  | none => false

/-- The evaluations that wait for a place. -/
def queued (t : Timeline) : List Due :=
  match t.repository.loop.tick with
  | some tick => tick.queued
  | none => []

/-- Begins up to `n` of the evaluations that wait, as long as there is a place. -/
def beginQueued : Nat → Timeline → Timeline
  | 0, t => t
  | n + 1, t =>
    match t.queued with
    | [] => t
    | d :: rest =>
      let after := t.stepLoop (.start d.stamp)
      if after.queued.length = rest.length then
        beginQueued n (if after.isRunning d.stamp then after.evaluate d else after)
      else t

/-- Begins the evaluations for which there is a place, and reports the tick if all have ended. -/
def proceed (t : Timeline) : Timeline :=
  let t := beginQueued t.queued.length t
  t.stepLoop (.report t.clock)

/-- A delivery ends, and its evaluation with it. -/
def land (t : Timeline) (f : Flight) : Timeline :=
  let (store, stage) := f.due.subscription.deliver f.refusal t.repository.store f.stage
  let after : Timeline := { t.setStore store with
    now := max t.now f.ends
    deliveries := t.deliveries ++ [f.delivery] }
  match stage.result? with
  | some r => (after.finish f.due r).proceed
  | none => after.proceed

/-- Takes the delivery that ends first out of a list; of several, the one that began first. -/
def takeFirst : List Flight → Option (Flight × List Flight)
  | [] => none
  | f :: fs =>
    match takeFirst fs with
    | none => some (f, [])
    | some (g, rest) => if f.ends ≤ g.ends then some (f, fs) else some (g, f :: rest)

/-! ### Time -/

/-- The scheduler ticks. -/
def fireTick (t : Timeline) : Timeline :=
  ({ t with now := t.nextTick, nextTick := t.nextTick + tickInterval }.stepLoop
    (.tick t.clock)).proceed

/-- Lets up to `n` things happen until an instant, and then makes it now. -/
def advanceBy : Nat → Nat → Timeline → Timeline
  | 0, target, t => { t with now := target }
  | n + 1, target, t =>
    match takeFirst t.flights with
    | some (f, rest) =>
      if f.ends < t.nextTick then
        if f.ends ≤ target then advanceBy n target ({ t with flights := rest }.land f)
        else { t with now := target }
      else if t.nextTick ≤ target then advanceBy n target t.fireTick
      else { t with now := target }
    | none =>
      if t.nextTick ≤ target then advanceBy n target t.fireTick else { t with now := target }

/-- How many things can happen until an instant: the ticks, an evaluation of each entry at each of
them, and the evaluations that have begun or wait. -/
def happenings (t : Timeline) (target : Nat) : Nat :=
  ((target - t.now) / tickInterval + 2) * (t.repository.loop.scheduler.entries.length + 1) +
    t.flights.length + t.queued.length

/-- Lets time pass until an instant. -/
def advance (t : Timeline) (target : Nat) : Timeline := advanceBy (t.happenings target) target t

/-- The first tick after an instant. -/
def tickAfter (now : Nat) : Nat := (now / tickInterval + 1) * tickInterval

/-- Lets up to `n` deliveries end. -/
def landAll : Nat → Timeline → Timeline
  | 0, t => t
  | n + 1, t =>
    match takeFirst t.flights with
    | some (f, rest) => landAll n ({ t with flights := rest }.land f)
    | none => t

/-- Lets time pass until no tick is in flight.  The ticks that come meanwhile do nothing. -/
def awaitTick (t : Timeline) : Timeline :=
  let t := landAll (t.flights.length + t.queued.length) t
  { t with nextTick := max t.nextTick (tickAfter t.now) }

/-! ### What callers do -/

/-- Milliseconds from a tick to where callers find the repository. -/
def restOffset : Nat := 500

/-- A repository begins with a scheduler for the subscriptions in its store. -/
def begin (settings : SchedulerSettings) (store : Store) (subs : List Subscription)
    (clock : Instant) : Timeline :=
  let loop := Loop.ofScheduler (Scheduler.ofSubscriptions settings subs)
  advance ⟨⟨store, loop⟩, settings, clock, 0, 0, none, 0, [], [], []⟩ restOffset

/-- Lets time pass until shortly after the next tick. -/
def tick (t : Timeline) : Timeline :=
  t.advance (tickAfter t.now + restOffset)

/-- Whether the scheduler has come to a retry beyond the calendar. -/
def isBroken (t : Timeline) : Bool := t.repository.loop.phase == .broken

/-- The repository has changed, and an answer came or is waited for. -/
def settle {α : Type} (t : Timeline) (r : Repository × Except Failure (List Reply))
    (read : List Reply → α) : Timeline × Except Failure α :=
  let after := { t with repository := r.1 }
  match r.2 with
  | .error f => (after, .error f)
  | .ok [] =>
    let done := after.awaitTick
    (done, if done.isBroken then .error (.internal .schedulerStopped) else .ok (read []))
  | .ok replies => (after, .ok (read replies))

/-- Whether an entry was found; who had to wait for the answer found one. -/
def wasRemoved : List Reply → Bool
  | [.removed _ found] => found
  | _ => true

/-- The names that were told. -/
def toldNames : List Reply → List String
  | [.names _ ns] => ns
  | _ => []

/-- Asks something of the scheduler and waits for the answer. -/
def ask {α : Type} (t : Timeline) (c : Command) (read : List Reply → α) :
    Timeline × Except Failure α :=
  t.settle (t.repository.ask 0 c) read

/-- Takes a subscription. -/
def subscribe (t : Timeline) (sub : Subscription) : Timeline × Except Failure Unit :=
  t.settle (t.repository.subscribe sub) fun _ => ()

/-- Drops a subscription, and waits until it cannot fire any more. -/
def unsubscribe (t : Timeline) (name : String) : Timeline × Except Failure Unit :=
  t.settle (t.repository.unsubscribe name) fun _ => ()

/-- Captures a request. -/
def capture (t : Timeline) (request : CaptureRequest) (user : Option String) (recordTime : Instant)
    (notify : Bool) : Timeline × Except Failure Int :=
  let (repository, id) := t.repository.capture request user recordTime notify
  ({ t with repository := repository }, id)

/-- Shuts the scheduler down, once the tick in flight is over. -/
def shutdown (t : Timeline) : Timeline × Except Failure Unit := t.ask .shutdown fun _ => ()

/-- Begins anew with a scheduler for the subscriptions in the store. -/
def restart (t : Timeline) (clock : Instant) : Timeline × Except Failure Unit :=
  let t := t.shutdown.1
  match t.repository.store.listSubscriptions with
  | .error e => (t, .error (.storage e))
  | .ok subs =>
    let loop := Loop.ofScheduler (Scheduler.ofSubscriptions t.settings subs)
    let fresh := { t with
      repository := { t.repository with loop := loop }
      clock := clock
      now := 0
      nextTick := 0
      flights := [] }
    (fresh.advance restOffset, .ok ())

end Timeline

end Provenance
