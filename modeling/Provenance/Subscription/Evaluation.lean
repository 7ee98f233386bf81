import Provenance.Query.Standing

/-!
# Evaluating a subscription

To evaluate a subscription is to read what is pending for it, to answer its query for that, to send
the answer, and to acknowledge what was pending.  These are separate steps, between which the store
may change.  An answer without results is sent only if the subscription asks for it, and an
evaluation after captures with nothing pending sends nothing at all.  What fails before the
acknowledgement leaves everything pending.

## Main definitions

* `Response` — what is sent.
* `Outcome`, `RunFailure` — how an evaluation ends.
* `Stage`, `Stage.next` — how far an evaluation has come, and its next step.
* `evaluate` — all steps in a row.
-/

namespace Provenance

/-- The answer to a query as it is sent. -/
structure Response where
  query : String
  subscription : Option String
  results : Results
  deriving Repr

/-- How an evaluation ends well. -/
inductive Outcome
  | delivered (results acknowledged : Nat)
  | nothing (acknowledged : Nat)
  deriving DecidableEq, Repr

/-- How an evaluation ends badly; a destination refuses with a status. -/
inductive RunFailure
  | query (failure : Failure)
  | delivery (status : Int)
  deriving DecidableEq, Repr

/-- The words for how an evaluation ends badly. -/
def RunFailure.message : RunFailure → String
  | query f => "query failed: " ++ f.message
  | delivery n => "delivery failed: destination answered with status " ++ toString n

/-- How far an evaluation has come. -/
inductive Stage
  | ready
  | confined (query : StandingQuery) (scope : Scope)
  | answered (scope : Scope) (results : Results)
  | sending (scope : Scope) (response : Response)
  /-- To be acknowledged; with the number of results if they were sent. -/
  | settling (scope : Scope) (delivered : Option Nat)
  | finished (result : Except RunFailure Outcome)

namespace Subscription

/-- Reads what is pending for a stored subscription to a known query. -/
def readScope (sub : Subscription) (s : Store) : Except Failure (StandingQuery × Scope) :=
  match sub.id with
  | none => .error (.internal (.unstored sub.name))
  | some id =>
    match StandingQuery.ofName sub.query with
    | none => .error (.parameter (.unknownQuery sub.query))
    | some q => .ok (q, s.scope id)

/-- What is to be done with an answer. -/
def dispose (sub : Subscription) (c : Scope) (r : Results) : Stage :=
  -- Without anything pending not even an empty answer is worth sending after a capture.
  if c.isEmpty && sub.trigger.onCapture then .finished (.ok (.nothing 0))
  else if r.isEmpty && !sub.reportIfEmpty then .settling c none
  else .sending c ⟨sub.query, some sub.name, r⟩

end Subscription

namespace Stage

/-- The next step of an evaluation.  The destination takes what is sent unless it has a status to
refuse it with. -/
def next (sub : Subscription) (refusal : Option Int) (s : Store) : Stage → Store × Stage
  | ready =>
    match sub.readScope s with
    | .ok (q, c) => (s, confined q c)
    | .error f => (s, finished (.error (.query f)))
  | confined q c =>
    match q.execute s sub.parameters (some c) with
    | .ok r => (s, answered c r)
    | .error f => (s, finished (.error (.query f)))
  | answered c r => (s, sub.dispose c r)
  | sending c r =>
    match refusal with
    | some status => (s, finished (.error (.delivery status)))
    | none => (s, settling c (some r.results.count))
  | settling c delivered =>
    let (after, acknowledged) := s.acknowledge c
    (after, finished (.ok (match delivered with
      | some n => .delivered n acknowledged
      | none => .nothing acknowledged)))
  | finished r => (s, finished r)

/-- Several steps in a row. -/
def advance (sub : Subscription) (refusal : Option Int) : Nat → Store → Stage → Store × Stage
  | 0, s, stage => (s, stage)
  | n + 1, s, stage =>
    let (after, stage) := stage.next sub refusal s
    advance sub refusal n after stage

/-- The result of a finished evaluation. -/
def result? : Stage → Option (Except RunFailure Outcome)
  | finished r => some r
  | _ => none

/-- What is being sent. -/
def response? : Stage → Option Response
  | sending _ r => some r
  | _ => none

end Stage

/-- Evaluates a subscription up to the point where an answer is to be sent, or to its end where none
is. -/
def Subscription.prepareAnswer (sub : Subscription) (s : Store) : Store × Stage :=
  let (s, stage) := Stage.advance sub none 3 s .ready
  match stage with
  | .settling _ _ => stage.next sub none s
  | stage => (s, stage)

/-- Evaluates a subscription from where an answer is sent to the end. -/
def Subscription.deliver (sub : Subscription) (refusal : Option Int) (s : Store) (stage : Stage) :
    Store × Stage :=
  Stage.advance sub refusal 2 s stage

/-- Evaluates a subscription, and tells what was sent on the way. -/
def evaluate (sub : Subscription) (refusal : Option Int) (s : Store) :
    Store × Option Response × Stage :=
  let (s, stage) := sub.prepareAnswer s
  let (after, last) := sub.deliver refusal s stage
  (after, stage.response?, last)

end Provenance
