import Provenance.Capture.Request
import Provenance.Text.Blank

/-!
# Admissible requests

A request is checked before anything of it is stored.  The first fault found is reported, where the
events come before the master data, and inside of an event the action before the objects and the
objects before the custom fields.

## Main definitions

* `EventFault`, `ElementFault`, `CaptureFault` — what can be wrong, with the words for it.
* `Event.check`, `MasterData.check`, `CaptureRequest.check` — the first fault, if any.
-/

namespace Provenance

open Text (isBlankText)

/-- What can be wrong with an event. -/
inductive EventFault
  | actionForbidden
  | actionMissing
  | blankEpc
  | badQuantity
  | unnamedField
  | deepField
  deriving DecidableEq, Repr

/-- What can be wrong with an element of master data. -/
inductive ElementFault
  | unnamed
  | blankChild
  deriving DecidableEq, Repr

/-- What can be wrong with a request. -/
inductive CaptureFault
  | empty
  | event (index : Nat) (fault : EventFault)
  | element (index : Nat) (fault : ElementFault)
  deriving DecidableEq, Repr

/-- The words for a fault of an event. -/
def EventFault.message : EventFault → String
  | actionForbidden => "transformation events carry no action"
  | actionMissing => "action is required"
  | blankEpc => "blank EPC value"
  | badQuantity => "quantity must be finite and non-negative"
  | unnamedField => "custom field needs a namespace and a name"
  | deepField => "custom fields nest at most one level"

/-- The words for a fault of an element. -/
def ElementFault.message : ElementFault → String
  | unnamed => "type and id are required"
  | blankChild => "blank child id"

/-- The words for a fault of a request. -/
def CaptureFault.message : CaptureFault → String
  | empty => "request carries no events and no master data"
  | event i f => "event " ++ toString i ++ ": " ++ f.message
  | element i f => "master data " ++ toString i ++ ": " ++ f.message

/-- Fails with the given fault where a condition does not hold. -/
def require {ε : Type} (condition : Bool) (fault : ε) : Except ε Unit :=
  if condition then .ok () else .error fault

/-- Checks the members of a list in order. -/
def checkAll {ε α : Type} (check : α → Except ε Unit) : List α → Except ε Unit
  | [] => .ok ()
  | a :: as =>
    match check a with
    | .error e => .error e
    | .ok () => checkAll check as

/-- Checks the members of a list in order, each with its place. -/
def checkPlaces {ε α : Type} (check : Nat → α → Except ε Unit) : Nat → List α → Except ε Unit
  | _, [] => .ok ()
  | i, a :: as =>
    match check i a with
    | .error e => .error e
    | .ok () => checkPlaces check (i + 1) as

/-- A transformation has no action and every other event has one. -/
def Event.checkAction (e : Event) : Except EventFault Unit :=
  match e.kind, e.action with
  | .transformation, some _ => .error .actionForbidden
  | .transformation, none => .ok ()
  | _, none => .error .actionMissing
  | _, some _ => .ok ()

/-- An object has a value, and its quantity is a finite number not below zero. -/
def Epc.check (o : Epc) : Except EventFault Unit := do
  require (!isBlankText o.value) .blankEpc
  match o.quantity with
  | some q => require (q.isFinite && !q.isNegative) .badQuantity
  | none => .ok ()

/-- A custom field has a namespace and a name. -/
def CustomField.checkName (f : CustomField) : Except EventFault Unit :=
  require (!isBlankText f.content.space && !isBlankText f.content.name) .unnamedField

/-- A custom field and the fields in it are named, and those have none in them. -/
def CustomField.check (f : CustomField) : Except EventFault Unit := do
  f.checkName
  checkAll (fun c => do c.checkName; require c.children.isEmpty .deepField) f.children

/-- The checks of an event. -/
def Event.check (e : Event) : Except EventFault Unit := do
  e.checkAction
  checkAll Epc.check e.epcs
  checkAll CustomField.check e.customFields

/-- The checks of an element. -/
def MasterData.check (m : MasterData) : Except ElementFault Unit := do
  require (!isBlankText m.vocabulary && !isBlankText m.id) .unnamed
  require (!m.children.any isBlankText) .blankChild

/-- The checks of a request. -/
def CaptureRequest.check (r : CaptureRequest) : Except CaptureFault Unit := do
  require (!(r.events.isEmpty && r.masterData.isEmpty)) .empty
  checkPlaces (fun i e => e.check.mapError (.event i)) 0 r.events
  checkPlaces (fun i m => m.check.mapError (.element i)) 0 r.masterData

end Provenance
