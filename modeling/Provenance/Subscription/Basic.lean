import Provenance.Query.Parameter
import Provenance.Subscription.Schedule

/-!
# Subscriptions

A subscription sends the answer of a query to a destination, on a schedule or whenever something was
captured.

## Main definitions

* `Trigger` — when a subscription is due.
* `Subscription` — the subscription.
-/

namespace Provenance

/-- When a subscription is due. -/
inductive Trigger
  | schedule (s : Schedule)
  /-- After each capture; the text names the trigger. -/
  | capture (uri : String)
  deriving DecidableEq, Repr

/-- Whether a subscription is due after captures. -/
def Trigger.onCapture : Trigger → Bool
  | capture _ => true
  | schedule _ => false

/-- A subscription.  Its number is given to it by the store. -/
structure Subscription where
  id : Option Int
  /-- The name by which the subscriber knows it. -/
  name : String
  query : String
  parameters : List Parameter
  destination : String
  active : Bool
  reportIfEmpty : Bool
  initialRecordTime : Option Instant
  trigger : Trigger
  deriving DecidableEq, Repr

end Provenance
