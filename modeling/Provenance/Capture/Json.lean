import Provenance.Event.Json

/-!
# Capture requests in JSON

## Main definitions

* `MasterData.ofJson`, `MasterData.toJson` — elements of master data.
* `CaptureRequest.ofJson`, `CaptureRequest.toJson` — requests.
-/

namespace Provenance

open Json (ofOption ofList ofTime)

/-! ### Master data -/

namespace Attribute

/-- The names of the members, in their order. -/
def memberNames : List String := ["id", "value"]

/-- Reads an attribute. -/
def ofJson (j : Json) : Option Attribute := do
  let j ← j.record? memberNames 0
  some ⟨← j.required "id" Json.text?, ← j.required "value" Json.text?⟩

/-- Writes an attribute. -/
def toJson (a : Attribute) : Json := .object [("id", .string a.id), ("value", .string a.value)]

end Attribute

namespace MasterData

/-- The names of the members, in their order. -/
def memberNames : List String := ["md_type", "id", "attributes", "children"]

/-- Reads an element of master data. -/
def ofJson (j : Json) : Option MasterData := do
  let j ← j.record? memberNames 2
  some {
    vocabulary := ← j.required "md_type" Json.text?
    id := ← j.required "id" Json.text?
    attributes := ← j.list "attributes" Attribute.ofJson
    children := ← j.list "children" Json.text? }

/-- Writes an element of master data. -/
def toJson (m : MasterData) : Json :=
  .object [
    ("md_type", .string m.vocabulary),
    ("id", .string m.id),
    ("attributes", ofList Attribute.toJson m.attributes),
    ("children", ofList .string m.children)]

end MasterData

/-! ### Headers and callbacks -/

namespace Contact

/-- The names of the members, in their order. -/
def memberNames : List String :=
  ["role", "identifier", "contact", "email_address", "fax_number", "telephone_number",
    "contact_type_identifier"]

/-- Reads a contact. -/
def ofJson (j : Json) : Option Contact := do
  let j ← j.record? memberNames 0
  some {
    role := ← j.required "role" Named.ofJson
    identifier := ← j.required "identifier" Json.text?
    contact := ← j.optional "contact" Json.text?
    emailAddress := ← j.optional "email_address" Json.text?
    faxNumber := ← j.optional "fax_number" Json.text?
    telephoneNumber := ← j.optional "telephone_number" Json.text?
    kind := ← j.optional "contact_type_identifier" Json.text? }

/-- Writes a contact. -/
def toJson (c : Contact) : Json :=
  .object [
    ("role", Named.toJson c.role),
    ("identifier", .string c.identifier),
    ("contact", ofOption .string c.contact),
    ("email_address", ofOption .string c.emailAddress),
    ("fax_number", ofOption .string c.faxNumber),
    ("telephone_number", ofOption .string c.telephoneNumber),
    ("contact_type_identifier", ofOption .string c.kind)]

end Contact

namespace BusinessHeader

/-- The names of the members, in their order. -/
def memberNames : List String :=
  ["version", "standard", "type_version", "instance_identifier", "header_type",
    "creation_date_time", "contact_informations"]

/-- Reads a business header. -/
def ofJson (j : Json) : Option BusinessHeader := do
  let j ← j.record? memberNames 1
  some {
    version := ← j.required "version" Json.text?
    standard := ← j.required "standard" Json.text?
    typeVersion := ← j.required "type_version" Json.text?
    instanceIdentifier := ← j.required "instance_identifier" Json.text?
    kind := ← j.required "header_type" Json.text?
    creationTime := ← j.optional "creation_date_time" Json.time?
    contacts := ← j.list "contact_informations" Contact.ofJson }

/-- Writes a business header. -/
def toJson (h : BusinessHeader) : Json :=
  .object [
    ("version", .string h.version),
    ("standard", .string h.standard),
    ("type_version", .string h.typeVersion),
    ("instance_identifier", .string h.instanceIdentifier),
    ("header_type", .string h.kind),
    ("creation_date_time", ofOption ofTime h.creationTime),
    ("contact_informations", ofList Contact.toJson h.contacts)]

end BusinessHeader

namespace Callback

/-- The names of the members, in their order. -/
def memberNames : List String := ["callback_type", "subscription_id", "reason"]

/-- Reads a callback. -/
def ofJson (j : Json) : Option Callback := do
  let j ← j.record? memberNames 0
  some ⟨← j.required "callback_type" Named.ofJson, ← j.required "subscription_id" Json.text?,
    ← j.optional "reason" Json.text?⟩

/-- Writes a callback. -/
def toJson (c : Callback) : Json :=
  .object [
    ("callback_type", Named.toJson c.kind),
    ("subscription_id", .string c.subscription),
    ("reason", ofOption .string c.reason)]

end Callback

/-! ### Requests -/

namespace CaptureRequest

/-- The names of the members, in their order. -/
def memberNames : List String :=
  ["document_time", "schema_version", "header", "callback", "events", "master_data"]

/-- Reads a request. -/
def ofJson (j : Json) : Option CaptureRequest := do
  let j ← j.record? memberNames 2
  some {
    documentTime := ← j.required "document_time" Json.time?
    schemaVersion := ← j.required "schema_version" Json.text?
    header := ← j.optional "header" BusinessHeader.ofJson
    callback := ← j.optional "callback" Callback.ofJson
    events := ← j.list "events" Event.ofJson
    masterData := ← j.list "master_data" MasterData.ofJson }

/-- Writes a request. -/
def toJson (r : CaptureRequest) : Json :=
  .object [
    ("document_time", ofTime r.documentTime),
    ("schema_version", .string r.schemaVersion),
    ("header", ofOption BusinessHeader.toJson r.header),
    ("callback", ofOption Callback.toJson r.callback),
    ("events", ofList Event.toJson r.events),
    ("master_data", ofList MasterData.toJson r.masterData)]

end CaptureRequest

end Provenance
