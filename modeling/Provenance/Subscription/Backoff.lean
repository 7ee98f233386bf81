import Provenance.Text.Numeral
import Provenance.Time.Instant

/-!
# Retry pacing

After a failure the next attempt waits, and each further failure doubles the wait up to a cap.  With
a limit on retries, the failure after the last of them gives up.

## Main definitions

* `RetryPolicy`, `RetryPolicy.delay` — the waits.
* `Backoff`, `Backoff.recordFailure`, `Backoff.reset` — counting failures.
* `Backoff.overruns` — whether a retry would lie beyond the calendar.
-/

namespace Provenance

/-- How long to wait after failures, in milliseconds, and how often to try again. -/
structure RetryPolicy where
  initialDelay : Nat
  maxDelay : Nat
  limit : Option Nat
  deriving DecidableEq, Repr

/-- The doubling after a number of failures; it stays within a word of 32 bits. -/
def doubling (attempt : Nat) : Nat := if attempt < 32 then Nat.pow 2 attempt else Text.maxWord32

/-- The largest wait, in milliseconds, that the calendar can add. -/
def longestDelay : Nat := Nat.pow 2 63 - 1

namespace RetryPolicy

/-- The wait before a retry, where the first one has number zero. -/
def delay (p : RetryPolicy) (attempt : Nat) : Nat :=
  min (p.initialDelay * doubling attempt) p.maxDelay

end RetryPolicy

/-- A policy with the number of failures in a row. -/
structure Backoff where
  policy : RetryPolicy
  failures : Nat
  deriving DecidableEq, Repr

namespace Backoff

/-- No failure yet. -/
def start (p : RetryPolicy) : Backoff := ⟨p, 0⟩

/-- Whether the retries are spent. -/
def isSpent (b : Backoff) : Bool :=
  match b.policy.limit with
  | some limit => limit ≤ b.failures
  | none => false

/-- Counts a failure, and tells when the next attempt may be made; there is none once the retries
are spent.  A wait that the calendar cannot add is no wait. -/
def recordFailure (b : Backoff) (now : Instant) : Backoff × Option Instant :=
  if b.isSpent then (b, none)
  else
    let d := b.policy.delay b.failures
    let wait := if d ≤ longestDelay then d else 0
    ({ b with failures := b.failures + 1 }, some (now.addMillis wait))

/-- Whether the next attempt after a failure would lie beyond the calendar. -/
def overruns (b : Backoff) (now : Instant) : Bool :=
  match (b.recordFailure now).2 with
  | some next => !next.isInCalendar
  | none => false

/-- Forgets all failures. -/
def reset (b : Backoff) : Backoff := { b with failures := 0 }

end Backoff

end Provenance
