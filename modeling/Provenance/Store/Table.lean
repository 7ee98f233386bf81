import Provenance.Store.Row

/-!
# Tables

The tables of the store, each with its kind of row, the columns of a row in order, the key that
tells its rows apart, and the rows of other tables that its rows refer to.

## Main definitions

* `Table`, `Table.Row` — the tables and their rows.
* `Table.columns`, `Table.cells` — the columns and what a row has in them.
* `Table.key`, `Table.references` — keys and references.
-/

namespace Provenance

/-- The tables of the store. -/
inductive Table
  | requests
  | headers
  | contacts
  | callbacks
  | events
  | epcs
  | fields
  | transactions
  | parties
  | declarations
  | correctives
  | elements
  | attributes
  | links
  | subscriptions
  | parameters
  | pending
  deriving DecidableEq, Repr

/-- A column: its name, what it makes of values, and whether a value may be missing in it. -/
structure Column where
  name : String
  affinity : Affinity
  optional : Bool
  deriving DecidableEq, Repr

namespace Table

/-- The rows of a table. -/
@[reducible] def Row : Table → Type
  | requests => RequestRow
  | headers => HeaderRow
  | contacts => ContactRow
  | callbacks => CallbackRow
  | events => EventRow
  | epcs => EpcRow
  | fields => FieldRow
  | transactions => TransactionRow
  | parties => PartyRow
  | declarations => DeclarationRow
  | correctives => CorrectiveRow
  | elements => ElementRow
  | attributes => AttributeRow
  | links => LinkRow
  | subscriptions => SubscriptionRow
  | parameters => ParameterRow
  | pending => PendingRow

/-- All tables. -/
def all : List Table :=
  [requests, headers, contacts, callbacks, events, epcs, fields, transactions, parties,
    declarations, correctives, elements, attributes, links, subscriptions, parameters, pending]

/-- The name of a table. -/
def name : Table → String
  | requests => "request"
  | headers => "standard_business_header"
  | contacts => "contact_information"
  | callbacks => "subscription_callback"
  | events => "event"
  | epcs => "epc"
  | fields => "custom_field"
  | transactions => "business_transaction"
  | parties => "source_destination"
  | declarations => "error_declaration"
  | correctives => "corrective_event_id"
  | elements => "masterdata"
  | attributes => "masterdata_attribute"
  | links => "masterdata_hierarchy"
  | subscriptions => "subscription"
  | parameters => "subscription_parameter"
  | pending => "pending_request"

/-- The table of a name. -/
def ofName (s : String) : Option Table := all.find? fun t => t.name == s

/-! ### Columns -/

/-- A column of texts that are all there. -/
def textColumn (name : String) : Column := ⟨name, .text, false⟩

/-- A column of texts. -/
def textColumn? (name : String) : Column := ⟨name, .text, true⟩

/-- A column of whole numbers that are all there. -/
def intColumn (name : String) : Column := ⟨name, .integer, false⟩

/-- A column of whole numbers. -/
def intColumn? (name : String) : Column := ⟨name, .integer, true⟩

/-- A column of numbers. -/
def realColumn? (name : String) : Column := ⟨name, .real, true⟩

/-- The columns that name an event, or an element of master data, and a place in it. -/
def partKey (whole index : String) : List Column :=
  [intColumn "request_id", intColumn whole, intColumn index]

/-- The columns of a table, in order. -/
def columns : Table → List Column
  | requests =>
    [intColumn "id", intColumn "document_time", intColumn "record_time",
      textColumn "schema_version", textColumn? "user_id"]
  | headers =>
    [intColumn "request_id", textColumn "version", textColumn "standard",
      textColumn "type_version", textColumn "instance_identifier", textColumn "header_type",
      intColumn? "creation_date_time"]
  | contacts =>
    [intColumn "request_id", intColumn "contact_index", textColumn "role", textColumn "identifier",
      textColumn? "contact", textColumn? "email_address", textColumn? "fax_number",
      textColumn? "telephone_number", textColumn? "contact_type_identifier"]
  | callbacks =>
    [intColumn "request_id", textColumn "callback_type", textColumn "subscription_id",
      textColumn? "reason"]
  | events =>
    [intColumn "request_id", intColumn "event_index", textColumn "event_type",
      intColumn "event_time", intColumn "record_time", textColumn "event_timezone_offset",
      textColumn? "action", textColumn? "business_step", textColumn? "disposition",
      textColumn? "read_point", textColumn? "business_location", textColumn? "event_id",
      textColumn? "transformation_id"]
  | epcs =>
    partKey "event_index" "epc_index" ++
      [textColumn "epc_type", textColumn "value", intColumn "is_quantity", realColumn? "quantity",
        textColumn? "unit_of_measure"]
  | fields =>
    partKey "event_index" "field_index" ++
      [intColumn? "parent_index", textColumn "field_type", textColumn "namespace",
        textColumn "name", textColumn? "text_value", realColumn? "numeric_value",
        intColumn? "date_value"]
  | transactions =>
    partKey "event_index" "transaction_index" ++
      [textColumn "transaction_type", textColumn "transaction_id"]
  | parties =>
    partKey "event_index" "sd_index" ++
      [textColumn "direction", textColumn "sd_type", textColumn "sd_id"]
  | declarations =>
    [intColumn "request_id", intColumn "event_index", intColumn "declaration_time",
      textColumn? "reason"]
  | correctives => partKey "event_index" "corrective_index" ++ [textColumn "corrective_event_id"]
  | elements =>
    [intColumn "request_id", intColumn "md_index", textColumn "md_type", textColumn "md_id"]
  | attributes =>
    partKey "md_index" "attribute_index" ++ [textColumn "attribute_id", textColumn "value"]
  | links =>
    partKey "md_index" "child_index" ++
      [textColumn "md_type", textColumn "parent_id", textColumn "child_id"]
  | subscriptions =>
    [intColumn "id", textColumn "subscription_id", textColumn "query_name",
      textColumn "destination", intColumn "active", intColumn "report_if_empty",
      intColumn? "initial_record_time", textColumn? "trigger_uri", textColumn? "schedule_seconds",
      textColumn? "schedule_minutes", textColumn? "schedule_hours",
      textColumn? "schedule_day_of_month", textColumn? "schedule_month",
      textColumn? "schedule_day_of_week"]
  | parameters =>
    [intColumn "subscription_id", intColumn "parameter_index", intColumn "value_index",
      textColumn "name", textColumn "value"]
  | pending => [intColumn "subscription_id", intColumn "request_id"]

/-- How many columns a table has. -/
def width (t : Table) : Nat := t.columns.length

/-- The cells of a row, in the order of the columns. -/
def cells : (t : Table) → t.Row → List Cell
  | requests, r =>
    [.integer r.id, r.documentTime, r.recordTime, .text r.schemaVersion, .ofText? r.user]
  | headers, r =>
    [.integer r.request, .text r.version, .text r.standard, .text r.typeVersion,
      .text r.instanceIdentifier, .text r.kind, r.creationTime]
  | contacts, r =>
    [.integer r.request, r.index, .text r.role, .text r.identifier, .ofText? r.contact,
      .ofText? r.emailAddress, .ofText? r.faxNumber, .ofText? r.telephoneNumber, .ofText? r.kind]
  | callbacks, r => [.integer r.request, .text r.kind, .text r.subscription, .ofText? r.reason]
  | events, r =>
    [.integer r.request, r.index, .text r.kind, r.time, r.recordTime, .text r.timezoneOffset,
      .ofText? r.action, .ofText? r.businessStep, .ofText? r.disposition, .ofText? r.readPoint,
      .ofText? r.businessLocation, .ofText? r.name, .ofText? r.transformation]
  | epcs, r =>
    [.integer r.request, r.event, r.index, .text r.role, .text r.value, r.isQuantity, r.quantity,
      .ofText? r.unitOfMeasure]
  | fields, r =>
    [.integer r.request, r.event, r.index, r.parent, .text r.origin, .text r.space, .text r.name,
      .ofText? r.text, r.number, r.date]
  | transactions, r => [.integer r.request, r.event, r.index, .text r.kind, .text r.id]
  | parties, r =>
    [.integer r.request, r.event, r.index, .text r.direction, .text r.kind, .text r.id]
  | declarations, r => [.integer r.request, r.event, r.time, .ofText? r.reason]
  | correctives, r => [.integer r.request, r.event, r.index, .text r.id]
  | elements, r => [.integer r.request, r.index, .text r.vocabulary, .text r.id]
  | attributes, r => [.integer r.request, r.element, r.index, .text r.id, .text r.value]
  | links, r =>
    [.integer r.request, r.element, r.index, .text r.vocabulary, .text r.parent, .text r.child]
  | subscriptions, r =>
    [.integer r.id, .text r.name, .text r.query, .text r.destination, r.active, r.reportIfEmpty,
      r.initialRecordTime, .ofText? r.trigger, .ofText? r.schedule.second,
      .ofText? r.schedule.minute, .ofText? r.schedule.hour, .ofText? r.schedule.dayOfMonth,
      .ofText? r.schedule.month, .ofText? r.schedule.dayOfWeek]
  | parameters, r =>
    [.integer r.subscription, r.index, r.valueIndex, .text r.name, .text r.value]
  | pending, r => [.integer r.subscription, .integer r.request]

/-- A row has a cell for each column. -/
theorem length_cells (t : Table) (r : t.Row) : (t.cells r).length = t.width := by
  cases t <;> rfl

/-! ### Keys and references -/

/-- The columns of the key. -/
def keyColumns : Table → List String
  | requests => ["id"]
  | headers => ["request_id"]
  | contacts => ["request_id", "contact_index"]
  | callbacks => ["request_id"]
  | events => ["request_id", "event_index"]
  | epcs => ["request_id", "event_index", "epc_index"]
  | fields => ["request_id", "event_index", "field_index"]
  | transactions => ["request_id", "event_index", "transaction_index"]
  | parties => ["request_id", "event_index", "sd_index"]
  | declarations => ["request_id", "event_index"]
  | correctives => ["request_id", "event_index", "corrective_index"]
  | elements => ["request_id", "md_index"]
  | attributes => ["request_id", "md_index", "attribute_index"]
  | links => ["request_id", "md_index", "child_index"]
  | subscriptions => ["id"]
  | parameters => ["subscription_id", "parameter_index", "value_index"]
  | pending => ["subscription_id", "request_id"]

/-- How many columns the key has; they are the first of the table. -/
def keyWidth (t : Table) : Nat := t.keyColumns.length

/-- The values that tell a row apart from the others of its table. -/
def key (t : Table) (r : t.Row) : List Cell := (t.cells r).take t.keyWidth

/-- Whether the number of a new row is found by the store, after all numbers given before. -/
def isNumbered : Table → Bool
  | requests | subscriptions => true
  | _ => false

/-- Whether the key of a table is one column, which then holds whole numbers only. -/
def isKeyedByNumber (t : Table) : Bool := t.keyWidth == 1

/-- The rows that a row refers to, by table and key. -/
def references : (t : Table) → List (Table × (t.Row → List Cell))
  | requests => []
  | headers => [(requests, fun r => [.integer r.request])]
  | contacts => [(requests, fun r => [.integer r.request])]
  | callbacks => [(requests, fun r => [.integer r.request])]
  | events => [(requests, fun r => [.integer r.request])]
  | epcs => [(events, fun r => [.integer r.request, r.event])]
  | fields => [(events, fun r => [.integer r.request, r.event])]
  | transactions => [(events, fun r => [.integer r.request, r.event])]
  | parties => [(events, fun r => [.integer r.request, r.event])]
  | declarations => [(events, fun r => [.integer r.request, r.event])]
  | correctives => [(declarations, fun r => [.integer r.request, r.event])]
  | elements => [(requests, fun r => [.integer r.request])]
  | attributes => [(elements, fun r => [.integer r.request, r.element])]
  | links => [(elements, fun r => [.integer r.request, r.element])]
  | subscriptions => []
  | parameters => [(subscriptions, fun r => [.integer r.subscription])]
  | pending =>
    [(subscriptions, fun r => [.integer r.subscription]), (requests, fun r => [.integer r.request])]

/-- The name by which subscribers know a subscription tells it apart too. -/
def uniqueName : (t : Table) → t.Row → Option String
  | subscriptions, r => some r.name
  | _, _ => none

end Table

end Provenance
