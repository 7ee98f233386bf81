import Provenance.Scheduler.Basic

/-!
# The loop of the scheduler

One loop owns the registry and takes one step at a time: a command, a tick of the clock, or
something that happens to the evaluations of the tick in flight.  A tick lets the entries fire that
are due; as long as it is in flight, further ticks do nothing.  Its evaluations wait for one of a
number of places, and one whose entry is gone by then does not begin.  When all have ended, the
tick reports.

Who removes an entry while a tick is in flight is answered only after its report, and so is who
shuts the loop down; after that the loop takes no step any more.  A report that asks for a retry
beyond the calendar breaks the loop: it takes no step any more either, and who waits for an answer
gets none.

## Main definitions

* `Tick` — the evaluations of a tick in flight.
* `Loop` — the state of the loop.
* `Command`, `Reply` — what callers say and hear.
* `LoopStep`, `Loop.step` — the steps, where they can be taken.
-/

namespace Provenance

/-- The evaluations of a tick in flight: those that wait for a place, those that run, and the ends
of the others. -/
structure Tick where
  queued : List Due
  running : List Due
  ended : List Evaluated

/-- What a caller asks of the scheduler. -/
inductive Command
  | register (subscription : Subscription)
  | remove (name : String)
  | names
  | captured
  | shutdown
  deriving DecidableEq, Repr

/-- What a caller is told. -/
inductive Reply
  | registered (caller : Nat)
  | removed (caller : Nat) (found : Bool)
  | names (caller : Nat) (names : List String)
  | stopped (caller : Nat)
  deriving DecidableEq, Repr

/-- Whether the loop still takes commands. -/
inductive LoopPhase
  | accepting
  /-- Waits for the tick in flight, to answer a caller. -/
  | closing (caller : Nat)
  | closed
  /-- Has come to a retry beyond the calendar. -/
  | broken
  deriving DecidableEq, Repr

/-- The state of the loop. -/
structure Loop where
  scheduler : Scheduler
  tick : Option Tick
  /-- Callers that removed an entry and wait for the report of the tick in flight. -/
  waiting : List Nat
  phase : LoopPhase

/-- The steps that the loop can take. -/
inductive LoopStep
  | command (caller : Nat) (command : Command)
  | tick (now : Instant)
  /-- An evaluation that waited gets a place. -/
  | start (stamp : Nat)
  /-- An evaluation ends. -/
  | finish (stamp : Nat) (result : Except RunFailure Outcome)
  /-- All evaluations of the tick in flight have ended. -/
  | report (now : Instant)

/-- The first member of a list with a stamp, and the list without it. -/
def takeDue (stamp : Nat) : List Due → Option (Due × List Due)
  | [] => none
  | d :: ds =>
    if d.stamp = stamp then some (d, ds)
    else (takeDue stamp ds).map fun (found, rest) => (found, d :: rest)

namespace Tick

/-- The tick with the given evaluations. -/
def start (ds : List Due) : Tick := ⟨ds, [], []⟩

/-- Whether all evaluations have ended. -/
def isOver (t : Tick) : Bool := t.queued.isEmpty && t.running.isEmpty

end Tick

namespace Loop

/-- The loop on a registry. -/
def ofScheduler (s : Scheduler) : Loop := ⟨s, none, [], .accepting⟩

/-- Carries out a command. -/
def command (l : Loop) (caller : Nat) : Command → Loop × List Reply
  | .register sub =>
    ({ l with scheduler := l.scheduler.register sub }, [.registered caller])
  | .remove name =>
    if l.scheduler.has name then
      let after := { l with scheduler := l.scheduler.remove name }
      -- An evaluation of the entry may run: the answer has to wait until it cannot.
      if l.tick.isSome then ({ after with waiting := l.waiting ++ [caller] }, [])
      else (after, [.removed caller true])
    else (l, [.removed caller false])
  | .names => (l, [.names caller l.scheduler.names])
  | .captured => ({ l with scheduler := l.scheduler.markDue }, [])
  | .shutdown =>
    if l.tick.isSome then ({ l with phase := .closing caller }, [])
    else ({ l with phase := .closed }, [.stopped caller])

/-- Starts a tick unless one is in flight. -/
def startTick (l : Loop) (now : Instant) : Loop :=
  if l.tick.isSome then l
  else
    let (scheduler, ds) := l.scheduler.collect now
    { l with scheduler := scheduler, tick := if ds.isEmpty then none else some (.start ds) }

/-- Gives an evaluation that waits a place, if there is one. -/
def startEvaluation (l : Loop) (stamp : Nat) : Option Loop := do
  let t ← l.tick
  let (d, queued) ← takeDue stamp t.queued
  if l.scheduler.maxConcurrency ≤ t.running.length then none
  else if l.scheduler.isLive stamp then
    some { l with tick := some ⟨queued, t.running ++ [d], t.ended⟩ }
  else
    let skipped : Evaluated := ⟨stamp, d.subscription.name, none⟩
    some { l with tick := some ⟨queued, t.running, t.ended ++ [skipped]⟩ }

/-- Ends an evaluation that runs. -/
def finishEvaluation (l : Loop) (stamp : Nat) (r : Except RunFailure Outcome) : Option Loop := do
  let t ← l.tick
  let (d, running) ← takeDue stamp t.running
  let ended : Evaluated := ⟨stamp, d.subscription.name, some r⟩
  some { l with tick := some ⟨t.queued, running, t.ended ++ [ended]⟩ }

/-- Takes the report of a tick that is over, and answers who waited for it. -/
def report (l : Loop) (now : Instant) : Option (Loop × List Reply) := do
  let t ← l.tick
  if !t.isOver then none
  else if l.scheduler.overruns now t.ended then
    some ({ l with tick := none, waiting := [], phase := .broken }, [])
  else
    let removals := l.waiting.map fun c => Reply.removed c true
    let after := { l with
      scheduler := l.scheduler.settle now t.ended
      tick := none
      waiting := [] }
    match l.phase with
    | .closing caller => some ({ after with phase := .closed }, removals ++ [.stopped caller])
    | _ => some (after, removals)

/-- Takes a step, where it can be taken. -/
def step (l : Loop) : LoopStep → Option (Loop × List Reply)
  | .command caller c => if l.phase = .accepting then some (l.command caller c) else none
  | .tick now => if l.phase = .accepting then some (l.startTick now, []) else none
  | .start stamp => (l.startEvaluation stamp).map fun l => (l, [])
  | .finish stamp r => (l.finishEvaluation stamp r).map fun l => (l, [])
  | .report now => l.report now

end Loop

end Provenance
