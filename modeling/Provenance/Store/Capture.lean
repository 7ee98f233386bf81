import Provenance.Capture.Request
import Provenance.Store.Basic

/-!
# Capturing a request

A request becomes rows of many tables.  The parts of an event are numbered from zero, each kind by
itself; custom fields are numbered in one run, where the fields inside of a field follow it and name
it as their parent.  All rows of the whole request are put in table by table, what is referred to
first, and in the end the request is noted as pending for every subscription.  Where any of it
fails, nothing has happened, and the number of the request is free again.

## Main definitions

* `Event.row` and the functions beside it — the rows of an event.
* `MasterData.row` and the functions beside it — the rows of an element.
* `CaptureRequest.insertions` — all statements of a request.
* `Store.capture` — puts a request in and tells its number.
-/

namespace Provenance

/-- The members of a list with their places, counted from `start`. -/
def numbered {α : Type} (start : Nat) (as : List α) : List (Nat × α) :=
  as.zipIdx start |>.map fun (a, i) => (i, a)

/-! ### The rows of an event -/

namespace Event

/-- The row of an event itself. -/
def row (request : Int) (index : Nat) (recordTime : Instant) (e : Event) : EventRow where
  request := request
  index := .integer index
  kind := e.kind.code
  time := .integer e.time.millis
  recordTime := .integer recordTime.millis
  timezoneOffset := e.timezoneOffset
  action := e.action.map Action.code
  businessStep := e.businessStep
  disposition := e.disposition
  readPoint := e.readPoint
  businessLocation := e.businessLocation
  name := e.name
  transformation := e.transformation

/-- The row of an object. -/
def epcRow (request : Int) (event index : Nat) (o : Epc) : EpcRow where
  request := request
  event := .integer event
  index := .integer index
  role := o.role.code
  value := o.value
  isQuantity := .integer (if o.role.isQuantity then 1 else 0)
  quantity := .ofReal? (o.quantity.bind Binary64.stored)
  unitOfMeasure := o.unitOfMeasure

/-- The rows of the objects. -/
def epcRows (request : Int) (event : Nat) (e : Event) : List EpcRow :=
  (numbered 0 e.epcs).map fun (i, o) => epcRow request event i o

/-- The row of a custom field. -/
def fieldRow (request : Int) (event index : Nat) (parent : Option Nat) (c : FieldContent) :
    FieldRow where
  request := request
  event := .integer event
  index := .integer index
  parent := .ofInt? (parent.map fun p => (p : Int))
  origin := c.origin.code
  space := c.space
  name := c.name
  text := c.text
  number := .ofReal? (c.number.bind Binary64.stored)
  date := .ofInt? (c.date.map Instant.millis)

/-- The rows of custom fields, numbered from `start`: each field, then the fields inside of it. -/
def fieldRowsFrom (request : Int) (event : Nat) : Nat → List CustomField → List FieldRow
  | _, [] => []
  | start, f :: fs =>
    fieldRow request event start none f.content ::
      (numbered (start + 1) f.children).map
        (fun (i, c) => fieldRow request event i (some start) c.content) ++
      fieldRowsFrom request event (start + 1 + f.children.length) fs

/-- The rows of the custom fields. -/
def fieldRows (request : Int) (event : Nat) (e : Event) : List FieldRow :=
  fieldRowsFrom request event 0 e.customFields

/-- The rows of the business transactions. -/
def transactionRows (request : Int) (event : Nat) (e : Event) : List TransactionRow :=
  (numbered 0 e.businessTransactions).map fun (i, t) =>
    ⟨request, .integer event, .integer i, t.kind, t.id⟩

/-- The rows of the parties. -/
def partyRows (request : Int) (event : Nat) (e : Event) : List PartyRow :=
  (numbered 0 e.parties).map fun (i, p) =>
    ⟨request, .integer event, .integer i, p.direction.code, p.kind, p.id⟩

/-- The row of the error declaration, if there is one. -/
def declarationRows (request : Int) (event : Nat) (e : Event) : List DeclarationRow :=
  e.errorDeclaration.toList.map fun d =>
    ⟨request, .integer event, .integer d.time.millis, d.reason⟩

/-- The rows of the events that correct this one. -/
def correctiveRows (request : Int) (event : Nat) (e : Event) : List CorrectiveRow :=
  e.errorDeclaration.toList.flatMap fun d =>
    (numbered 0 d.correctiveIds).map fun (i, id) =>
      ⟨request, .integer event, .integer i, id⟩

end Event

/-! ### The rows of an element -/

namespace MasterData

/-- The row of an element itself. -/
def row (request : Int) (index : Nat) (m : MasterData) : ElementRow :=
  ⟨request, .integer index, m.vocabulary, m.id⟩

/-- The rows of the attributes. -/
def attributeRows (request : Int) (index : Nat) (m : MasterData) : List AttributeRow :=
  (numbered 0 m.attributes).map fun (i, a) =>
    ⟨request, .integer index, .integer i, a.id, a.value⟩

/-- The rows of the links to the children. -/
def linkRows (request : Int) (index : Nat) (m : MasterData) : List LinkRow :=
  (numbered 0 m.children).map fun (i, c) =>
    ⟨request, .integer index, .integer i, m.vocabulary, m.id, c⟩

end MasterData

/-! ### The statements of a request -/

namespace CaptureRequest

/-- The row of the request itself. -/
def row (r : CaptureRequest) (id : Int) (user : Option String) (recordTime : Instant) :
    RequestRow :=
  ⟨id, .integer r.documentTime.millis, .integer recordTime.millis, r.schemaVersion, user⟩

/-- The row of the business header, if there is one. -/
def headerRows (r : CaptureRequest) (id : Int) : List HeaderRow :=
  r.header.toList.map fun h =>
    ⟨id, h.version, h.standard, h.typeVersion, h.instanceIdentifier, h.kind,
      .ofInt? (h.creationTime.map Instant.millis)⟩

/-- The rows of the contacts. -/
def contactRows (r : CaptureRequest) (id : Int) : List ContactRow :=
  r.header.toList.flatMap fun h =>
    (numbered 0 h.contacts).map fun (i, c) =>
      ⟨id, .integer i, c.role.code, c.identifier, c.contact, c.emailAddress, c.faxNumber,
        c.telephoneNumber, c.kind⟩

/-- The row of the callback, if there is one. -/
def callbackRows (r : CaptureRequest) (id : Int) : List CallbackRow :=
  r.callback.toList.map fun c => ⟨id, c.kind.code, c.subscription, c.reason⟩

/-- The rows of one kind of all events. -/
def eventParts {α : Type} (r : CaptureRequest) (rows : Nat → Event → List α) : List α :=
  (numbered 0 r.events).flatMap fun (i, e) => rows i e

/-- The rows of one kind of all elements. -/
def elementParts {α : Type} (r : CaptureRequest) (rows : Nat → MasterData → List α) : List α :=
  (numbered 0 r.masterData).flatMap fun (i, m) => rows i m

open Insertion (bulk ofRows)

/-- The statements that put a request in, less the one that notes it as pending. -/
def insertions (r : CaptureRequest) (id : Int) (user : Option String) (recordTime : Instant) :
    List Insertion :=
  [ofRows .requests [r.row id user recordTime]] ++
    bulk .headers (r.headerRows id) ++
    bulk .contacts (r.contactRows id) ++
    bulk .callbacks (r.callbackRows id) ++
    bulk .events (r.eventParts fun i e => [e.row id i recordTime]) ++
    bulk .epcs (r.eventParts fun i e => e.epcRows id i) ++
    bulk .fields (r.eventParts fun i e => e.fieldRows id i) ++
    bulk .transactions (r.eventParts fun i e => e.transactionRows id i) ++
    bulk .parties (r.eventParts fun i e => e.partyRows id i) ++
    bulk .declarations (r.eventParts fun i e => e.declarationRows id i) ++
    bulk .correctives (r.eventParts fun i e => e.correctiveRows id i) ++
    bulk .elements (r.elementParts fun i m => [m.row id i]) ++
    bulk .attributes (r.elementParts fun i m => m.attributeRows id i) ++
    bulk .links (r.elementParts fun i m => m.linkRows id i)

end CaptureRequest

namespace Store

/-- The statement that notes a request as pending for every subscription. -/
def markPending (s : Store) (request : Int) : Insertion :=
  ⟨.pending, s.subscriptions.map fun sub => ⟨sub.id, request⟩, 1⟩

/-- Puts a request in, and tells its number. -/
def capture (s : Store) (r : CaptureRequest) (user : Option String) (recordTime : Instant) :
    Except StorageError (Store × Int) := do
  let id ← s.nextNumber .requests (s.requests.map RequestRow.id) s.lastRequest
    fun id => r.row id user recordTime
  let after ← s.insertAll (r.insertions id user recordTime ++ [s.markPending id])
  .ok ({ after with lastRequest := id }, id)

end Store

end Provenance
