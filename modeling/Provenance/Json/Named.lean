import Provenance.Capture.Request
import Provenance.Json.Decoding
import Provenance.Query.Filter

/-!
# Cases by name

In JSON a case is written by its name, which is not the code that the store keeps.  It is read from
the name or from an object whose one member has that name and is null.

## Main definitions

* `Named` — a type with names for its cases.
* `Named.ofName`, `Named.ofJson`, `Named.toJson` — reading and writing cases by name.
-/

namespace Provenance

/-- A type of finitely many cases with a name for each, no two alike. -/
class Named (α : Type) where
  /-- All cases. -/
  all : List α
  /-- The name of a case. -/
  name : α → String
  mem_all : ∀ a, a ∈ all
  name_injective : ∀ a b, name a = name b → a = b

namespace Named

variable {α : Type} [Named α]

/-- The case of a name. -/
def ofName (s : String) : Option α := (all : List α).find? fun a => name a == s

/-- Reads a case. -/
def ofJson (j : Json) : Option α :=
  match j.sole? with
  | some (s, .null) => ofName s
  | some _ => none
  | none => j.text?.bind ofName

/-- Writes a case. -/
def toJson (a : α) : Json := .string (name a)

/-- Reading the name of a case gives the case back. -/
@[simp] theorem ofName_name (a : α) : ofName (name a) = some a := by
  unfold ofName
  cases h : (all : List α).find? fun b => name b == name a with
  | none => simpa using List.find?_eq_none.1 h a (mem_all a)
  | some b =>
    have hb : name b = name a := by simpa using List.find?_some h
    rw [name_injective b a hb]

@[simp] theorem ofJson_toJson (a : α) : ofJson (toJson a) = some a := by
  simp [ofJson, toJson, Json.sole?, Json.members?]

end Named

/-! ### Events -/

/-- The name of a kind of event. -/
def EventKind.variant : EventKind → String
  | object => "ObjectEvent"
  | aggregation => "AggregationEvent"
  | transaction => "TransactionEvent"
  | transformation => "TransformationEvent"
  | quantity => "QuantityEvent"

instance : Named EventKind where
  all := Coded.all
  name := EventKind.variant
  mem_all := Coded.mem_all
  name_injective a b := by cases a <;> cases b <;> decide

/-- The name of an action. -/
def Action.variant : Action → String
  | add => "Add"
  | observe => "Observe"
  | delete => "Delete"

instance : Named Action where
  all := Coded.all
  name := Action.variant
  mem_all := Coded.mem_all
  name_injective a b := by cases a <;> cases b <;> decide

/-- The name of a role. -/
def EpcRole.variant : EpcRole → String
  | list => "List"
  | parent => "ParentId"
  | child => "ChildEpc"
  | input => "InputEpc"
  | output => "OutputEpc"
  | quantity => "Quantity"
  | childQuantity => "ChildQuantity"
  | inputQuantity => "InputQuantity"
  | outputQuantity => "OutputQuantity"

instance : Named EpcRole where
  all := Coded.all
  name := EpcRole.variant
  mem_all := Coded.mem_all
  name_injective a b := by cases a <;> cases b <;> decide

/-- The name of where a field was declared. -/
def FieldOrigin.variant : FieldOrigin → String
  | extension => "Extension"
  | ilmd => "Ilmd"
  | customField => "CustomField"

instance : Named FieldOrigin where
  all := Coded.all
  name := FieldOrigin.variant
  mem_all := Coded.mem_all
  name_injective a b := by cases a <;> cases b <;> decide

/-- The name of a direction. -/
def Direction.variant : Direction → String
  | source => "Source"
  | destination => "Destination"

instance : Named Direction where
  all := Coded.all
  name := Direction.variant
  mem_all := Coded.mem_all
  name_injective a b := by cases a <;> cases b <;> decide

/-! ### Requests -/

/-- The name of the role of a contact. -/
def ContactRole.variant : ContactRole → String
  | sender => "Sender"
  | receiver => "Receiver"

instance : Named ContactRole where
  all := Coded.all
  name := ContactRole.variant
  mem_all := Coded.mem_all
  name_injective a b := by cases a <;> cases b <;> decide

/-- The name of what a callback reports. -/
def CallbackKind.variant : CallbackKind → String
  | success => "Success"
  | queryTooLarge => "QueryTooLarge"
  | implementationException => "ImplementationException"

instance : Named CallbackKind where
  all := Coded.all
  name := CallbackKind.variant
  mem_all := Coded.mem_all
  name_injective a b := by cases a <;> cases b <;> decide

/-! ### Filters -/

/-- The name of a field. -/
def EventField.variant : EventField → String
  | kind => "EventType"
  | action => "Action"
  | time => "EventTime"
  | recordTime => "RecordTime"
  | businessStep => "BusinessStep"
  | disposition => "Disposition"
  | readPoint => "ReadPoint"
  | businessLocation => "BusinessLocation"
  | name => "EventId"
  | transformation => "TransformationId"
  | request => "RequestId"

instance : Named EventField where
  all := [.kind, .action, .time, .recordTime, .businessStep, .disposition, .readPoint,
    .businessLocation, .name, .transformation, .request]
  name := EventField.variant
  mem_all a := by cases a <;> decide
  name_injective a b := by cases a <;> cases b <;> decide

/-- The name of a comparison. -/
def Comparator.variant : Comparator → String
  | equal => "EQ"
  | less => "LT"
  | atMost => "LE"
  | greater => "GT"
  | atLeast => "GE"

instance : Named Comparator where
  all := [.equal, .less, .atMost, .greater, .atLeast]
  name := Comparator.variant
  mem_all a := by cases a <;> decide
  name_injective a b := by cases a <;> cases b <;> decide

end Provenance
