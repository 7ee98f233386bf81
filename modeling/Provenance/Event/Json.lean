import Provenance.Json.Named

/-!
# Events in JSON

An event is written with all of its members.  It is read from a record in which whatever may be
missing from an event may be missing.

## Main definitions

* `Event.ofJson`, `Event.toJson` — events.
* `CustomField.ofJson`, `CustomField.toJson` — custom fields with what lies inside of them.
-/

namespace Provenance

open Json (ofOption ofList ofTime)

/-! ### Identities and objects -/

namespace EventId

/-- The names of the members, in their order. -/
def memberNames : List String := ["request_id", "event_index"]

/-- Reads an identity. -/
def ofJson (j : Json) : Option EventId := do
  let j ← j.record? memberNames 0
  some ⟨← j.required "request_id" Json.word?, ← j.required "event_index" Json.word?⟩

/-- Writes an identity. -/
def toJson (i : EventId) : Json :=
  .object [("request_id", .integer i.request), ("event_index", .integer i.index)]

end EventId

namespace Epc

/-- The names of the members, in their order. -/
def memberNames : List String := ["epc_type", "value", "quantity", "unit_of_measure"]

/-- Reads an object of an event. -/
def ofJson (j : Json) : Option Epc := do
  let j ← j.record? memberNames 0
  some {
    role := ← j.required "epc_type" Named.ofJson
    value := ← j.required "value" Json.text?
    quantity := ← j.optional "quantity" Json.real?
    unitOfMeasure := ← j.optional "unit_of_measure" Json.text? }

/-- Writes an object of an event. -/
def toJson (e : Epc) : Json :=
  .object [
    ("epc_type", Named.toJson e.role),
    ("value", .string e.value),
    ("quantity", ofOption .decimal e.quantity),
    ("unit_of_measure", ofOption .string e.unitOfMeasure)]

end Epc

/-! ### Custom fields -/

/-- Reads name and values off the members of a custom field. -/
def FieldContent.ofJson (j : Json) : Option FieldContent := do
  some {
    origin := ← j.required "field_type" Named.ofJson
    space := ← j.required "namespace" Json.text?
    name := ← j.required "name" Json.text?
    text := ← j.optional "text_value" Json.text?
    number := ← j.optional "numeric_value" Json.real?
    date := ← j.optional "date_value" Json.time? }

namespace CustomField

/-- The names of the members, in their order. -/
def memberNames : List String :=
  ["field_type", "namespace", "name", "text_value", "numeric_value", "date_value", "children"]

/-- Reads a custom field with the fields inside of it. -/
def ofJson (j : Json) : Option CustomField :=
  match hr : j.record? memberNames 1 with
  | none => none
  | some r =>
    match h : r.member? "children" with
    | none => (FieldContent.ofJson r).map fun content => .node content []
    | some v =>
      match hv : v.values? with
      | none => none
      | some vs => do
        let content ← FieldContent.ofJson r
        let children ← vs.attach.mapM fun ⟨w, hw⟩ =>
          have := Json.sizeOf_lt_of_record? hr h
          have := Json.sizeOf_lt_of_mem_values? hv hw
          ofJson w
        some (.node content children)
  termination_by sizeOf j
  decreasing_by omega

mutual

/-- Writes a custom field with the fields inside of it. -/
def toJson : CustomField → Json
  | .node c children =>
    .object [
      ("field_type", Named.toJson c.origin),
      ("namespace", .string c.space),
      ("name", .string c.name),
      ("text_value", ofOption .string c.text),
      ("numeric_value", ofOption .decimal c.number),
      ("date_value", ofOption ofTime c.date),
      ("children", .array (listToJson children))]

/-- Writes several custom fields. -/
def listToJson : List CustomField → List Json
  | [] => []
  | f :: fs => toJson f :: listToJson fs

end

theorem listToJson_eq_map (fs : List CustomField) : listToJson fs = fs.map toJson := by
  induction fs with
  | nil => rfl
  | cons f fs ih => simp [listToJson, ih]

end CustomField

/-! ### Transactions, parties and declarations -/

namespace BusinessTransaction

/-- The names of the members, in their order. -/
def memberNames : List String := ["transaction_type", "id"]

/-- Reads a business transaction. -/
def ofJson (j : Json) : Option BusinessTransaction := do
  let j ← j.record? memberNames 0
  some ⟨← j.required "transaction_type" Json.text?, ← j.required "id" Json.text?⟩

/-- Writes a business transaction. -/
def toJson (t : BusinessTransaction) : Json :=
  .object [("transaction_type", .string t.kind), ("id", .string t.id)]

end BusinessTransaction

namespace Party

/-- The names of the members, in their order. -/
def memberNames : List String := ["direction", "sd_type", "id"]

/-- Reads a source or destination. -/
def ofJson (j : Json) : Option Party := do
  let j ← j.record? memberNames 0
  some ⟨← j.required "direction" Named.ofJson, ← j.required "sd_type" Json.text?,
    ← j.required "id" Json.text?⟩

/-- Writes a source or destination. -/
def toJson (p : Party) : Json :=
  .object [("direction", Named.toJson p.direction), ("sd_type", .string p.kind),
    ("id", .string p.id)]

end Party

namespace ErrorDeclaration

/-- The names of the members, in their order. -/
def memberNames : List String := ["declaration_time", "reason", "corrective_event_ids"]

/-- Reads an error declaration. -/
def ofJson (j : Json) : Option ErrorDeclaration := do
  let j ← j.record? memberNames 1
  some {
    time := ← j.required "declaration_time" Json.time?
    reason := ← j.optional "reason" Json.text?
    correctiveIds := ← j.list "corrective_event_ids" Json.text? }

/-- Writes an error declaration. -/
def toJson (d : ErrorDeclaration) : Json :=
  .object [
    ("declaration_time", ofTime d.time),
    ("reason", ofOption .string d.reason),
    ("corrective_event_ids", ofList .string d.correctiveIds)]

end ErrorDeclaration

/-! ### Events -/

namespace Event

/-- The names of the members, in their order. -/
def memberNames : List String :=
  ["id", "event_type", "event_time", "record_time", "event_timezone_offset", "action",
    "business_step", "disposition", "read_point", "business_location", "event_id",
    "transformation_id", "error_declaration", "epcs", "custom_fields", "business_transactions",
    "source_destinations"]

/-- Reads an event. -/
def ofJson (j : Json) : Option Event := do
  let j ← j.record? memberNames 4
  some {
    id := ← j.optional "id" EventId.ofJson
    kind := ← j.required "event_type" Named.ofJson
    time := ← j.required "event_time" Json.time?
    recordTime := ← j.optional "record_time" Json.time?
    timezoneOffset := ← j.required "event_timezone_offset" Json.text?
    action := ← j.optional "action" Named.ofJson
    businessStep := ← j.optional "business_step" Json.text?
    disposition := ← j.optional "disposition" Json.text?
    readPoint := ← j.optional "read_point" Json.text?
    businessLocation := ← j.optional "business_location" Json.text?
    name := ← j.optional "event_id" Json.text?
    transformation := ← j.optional "transformation_id" Json.text?
    errorDeclaration := ← j.optional "error_declaration" ErrorDeclaration.ofJson
    epcs := ← j.list "epcs" Epc.ofJson
    customFields := ← j.list "custom_fields" CustomField.ofJson
    businessTransactions := ← j.list "business_transactions" BusinessTransaction.ofJson
    parties := ← j.list "source_destinations" Party.ofJson }

/-- Writes an event. -/
def toJson (e : Event) : Json :=
  .object [
    ("id", ofOption EventId.toJson e.id),
    ("event_type", Named.toJson e.kind),
    ("event_time", ofTime e.time),
    ("record_time", ofOption ofTime e.recordTime),
    ("event_timezone_offset", .string e.timezoneOffset),
    ("action", ofOption Named.toJson e.action),
    ("business_step", ofOption .string e.businessStep),
    ("disposition", ofOption .string e.disposition),
    ("read_point", ofOption .string e.readPoint),
    ("business_location", ofOption .string e.businessLocation),
    ("event_id", ofOption .string e.name),
    ("transformation_id", ofOption .string e.transformation),
    ("error_declaration", ofOption ErrorDeclaration.toJson e.errorDeclaration),
    ("epcs", ofList Epc.toJson e.epcs),
    ("custom_fields", ofList CustomField.toJson e.customFields),
    ("business_transactions", ofList BusinessTransaction.toJson e.businessTransactions),
    ("source_destinations", ofList Party.toJson e.parties)]

end Event

end Provenance
