import Provenance.Event.Basic
import Provenance.MasterData

/-!
# Capture requests

Events and master data reach the repository in requests.  A request may carry a business header with
contacts, and it may answer a subscription.

## Main definitions

* `BusinessHeader`, `Contact` — who sends the request to whom.
* `Callback` — the answer to a subscription.
* `CaptureRequest` — the request.
-/

namespace Provenance

/-- Which side of the exchange a contact stands on. -/
inductive ContactRole
  | sender
  | receiver
  deriving DecidableEq, Repr

/-- What a callback reports. -/
inductive CallbackKind
  | success
  | queryTooLarge
  | implementationException
  deriving DecidableEq, Repr

namespace ContactRole

/-- The stored code. -/
def code : ContactRole → String
  | sender => "sender"
  | receiver => "receiver"

instance : Coded ContactRole where
  all := [sender, receiver]
  code := code
  mem_all a := by cases a <;> decide
  code_injective a b := by cases a <;> cases b <;> decide

end ContactRole

namespace CallbackKind

/-- The stored code. -/
def code : CallbackKind → String
  | success => "success"
  | queryTooLarge => "query_too_large"
  | implementationException => "implementation_exception"

instance : Coded CallbackKind where
  all := [success, queryTooLarge, implementationException]
  code := code
  mem_all a := by cases a <;> decide
  code_injective a b := by cases a <;> cases b <;> decide

end CallbackKind

/-- A contact named in a business header. -/
structure Contact where
  role : ContactRole
  identifier : String
  contact : Option String
  emailAddress : Option String
  faxNumber : Option String
  telephoneNumber : Option String
  kind : Option String
  deriving DecidableEq, Repr

/-- The business header of a request. -/
structure BusinessHeader where
  version : String
  standard : String
  typeVersion : String
  instanceIdentifier : String
  kind : String
  creationTime : Option Instant
  contacts : List Contact
  deriving DecidableEq, Repr

/-- The answer to a subscription. -/
structure Callback where
  kind : CallbackKind
  subscription : String
  reason : Option String
  deriving DecidableEq, Repr

/-- A request to capture events and master data. -/
structure CaptureRequest where
  documentTime : Instant
  schemaVersion : String
  header : Option BusinessHeader
  callback : Option Callback
  events : List Event
  masterData : List MasterData
  deriving Repr

end Provenance
