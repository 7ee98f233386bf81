import Provenance.Capture.Validation
import Provenance.Query.Parameter
import Provenance.Store.Basic

/-!
# Failures

Why a call to the repository fails: because of what the caller sent, because of what the query
finds, because of the store, or because the scheduler is gone.

## Main definitions

* `SubscriptionFault`, `Refused` — what can be wrong with a subscription.
* `Failure` — every reason for which a call fails.
* `Failure.message` — the words for it.
-/

namespace Provenance

/-- What can be wrong with a subscription. -/
inductive SubscriptionFault
  | blankName
  | badDestination (destination : String)
  | blankTrigger
  | badSchedule (fault : ScheduleFault)
  deriving DecidableEq, Repr

/-- The words for what is wrong with a subscription. -/
def SubscriptionFault.message : SubscriptionFault → String
  | blankName => "subscription id is required"
  | badDestination d => "destination '" ++ d ++ "' is not an absolute URI"
  | blankTrigger => "trigger URI is required"
  | badSchedule f => f.message

/-- Why a subscription is turned down. -/
inductive Refused
  | closedQuery (query : String)
  | nameTaken (name : String)
  deriving DecidableEq, Repr

/-- The words for why a subscription is turned down. -/
def Refused.message : Refused → String
  | closedQuery q => "query " ++ q ++ " does not accept subscriptions"
  | nameTaken n => "subscription " ++ n ++ " already exists"

/-- What a query returns. -/
inductive ResultKind
  | events
  | masterData
  deriving DecidableEq, Repr

/-- The words for what a query returns. -/
def ResultKind.words : ResultKind → String
  | events => "events"
  | masterData => "master data elements"

/-- What is missing inside of the repository. -/
inductive InternalFault
  | schedulerStopped
  | unstored (subscription : String)
  deriving DecidableEq, Repr

/-- The words for what is missing. -/
def InternalFault.message : InternalFault → String
  | schedulerStopped => "subscription scheduler is not running"
  | unstored n => "subscription " ++ n ++ " has no storage id"

/-- Why a call fails. -/
inductive Failure
  | invalidCapture (fault : CaptureFault)
  | invalidSubscription (fault : SubscriptionFault)
  | parameter (fault : ParameterFault)
  | tooLarge (kind : ResultKind) (allowed : Nat)
  | noSuchName (name : String)
  | notPermitted (reason : Refused)
  | storage (error : StorageError)
  | internal (fault : InternalFault)
  deriving DecidableEq, Repr

/-- The words for why a call fails. -/
def Failure.message : Failure → String
  | invalidCapture f => "validation failure: " ++ f.message
  | invalidSubscription f => "validation failure: " ++ f.message
  | parameter f => "query parameter failure: " ++ f.message
  | tooLarge k n =>
    "query too large: more than " ++ toString n ++ " " ++ k.words ++ " match the query"
  | noSuchName n => "no such name: " ++ n
  | notPermitted r => "subscribe not permitted: " ++ r.message
  | storage e => "storage failure: " ++ e.message
  | internal f => "internal failure: " ++ f.message

end Provenance
