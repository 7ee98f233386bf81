import Provenance.Event.Basic
import Provenance.MasterData

/-!
# Filters on events and on master data

A query for events is a conjunction of predicates with an order and a limit.  A predicate on the
objects, fields, transactions or parties of an event asks for one of them that satisfies it, so two
predicates may be satisfied by different ones.  A query for master data is a fixed set of
restrictions with a choice of what to attach.

## Main definitions

* `EventField`, `Comparator`, `Operand`, `FieldSelector` — what predicates are made of.
* `Predicate`, `EventQuery` — queries for events.
* `MasterDataQuery` — queries for master data.
-/

namespace Provenance

/-- The scalar fields that a predicate or an order can name. -/
inductive EventField
  | kind
  | action
  | time
  | recordTime
  | businessStep
  | disposition
  | readPoint
  | businessLocation
  | name
  | transformation
  | request
  deriving DecidableEq, Repr

/-- The vocabulary that a field refers to, where it is a fixed one. -/
def EventField.vocabulary : EventField → Option String
  | readPoint => some readPointVocabulary
  | businessLocation => some businessLocationVocabulary
  | _ => none

/-- How a field is compared with a value. -/
inductive Comparator
  | equal
  | less
  | atMost
  | greater
  | atLeast
  deriving DecidableEq, Repr

/-- A value that a field is compared with. -/
inductive Operand
  | text (value : String)
  | number (value : Binary64)
  | time (value : Instant)
  | integer (value : Int)
  deriving DecidableEq, Repr

/-- Names a custom field: where it was declared, its qualified name, and whether it lies inside of
another field. -/
structure FieldSelector where
  origin : FieldOrigin
  space : String
  name : String
  inner : Bool
  deriving DecidableEq, Repr

/-- A conjunct of a query for events. -/
inductive Predicate
  | fieldIn (field : EventField) (values : List Operand)
  | fieldCompare (field : EventField) (comparator : Comparator) (value : Operand)
  | transactionIn (kind : String) (ids : List String)
  | partyIn (direction : Direction) (kind : String) (ids : List String)
  /-- One object has one of the roles and one of the values. -/
  | epcIn (roles : List EpcRole) (values : List String)
  | errorDeclared
  | errorReasonIn (reasons : List String)
  | correctiveIdIn (ids : List String)
  /-- The field is one of the ids or a descendant of one. -/
  | fieldWithin (field : EventField) (ids : List String)
  | customIn (selector : FieldSelector) (values : List String)
  | customCompare (selector : FieldSelector) (comparator : Comparator) (value : Operand)
  | customExists (selector : FieldSelector)
  | quantityCompare (comparator : Comparator) (quantity : Binary64)
  | attributeIn (field : EventField) (attributeId : String) (values : List String)
  | attributePresent (field : EventField) (attributes : List String)
  | requestIn (ids : List Int)
  /-- The request is still pending for a subscription and has no greater number. -/
  | pendingFor (subscription : Int) (through : Int)
  deriving DecidableEq, Repr

/-- The direction of an order. -/
inductive SortDirection
  | ascending
  | descending
  deriving DecidableEq, Repr

/-- A query for events; without a limit all matching events are asked for. -/
structure EventQuery where
  predicates : List Predicate
  order : Option (EventField × SortDirection)
  limit : Option Nat
  deriving DecidableEq, Repr

/-- A query for master data; an empty list restricts nothing. -/
structure MasterDataQuery where
  vocabularies : List String
  ids : List String
  within : List String
  attributesPresent : List String
  attributeValues : List (String × List String)
  includeAttributes : Bool
  includeChildren : Bool
  /-- The attributes to attach; all of them where there is no list. -/
  attributeNames : Option (List String)
  limit : Option Nat
  deriving DecidableEq, Repr

/-- A limit, where zero stands for none. -/
def limitOfCount (n : Nat) : Option Nat := if n = 0 then none else some n

/-- The query that matches all events. -/
def EventQuery.all : EventQuery := ⟨[], none, none⟩

/-- The query that matches all master data and attaches nothing. -/
def MasterDataQuery.all : MasterDataQuery := ⟨[], [], [], [], [], false, false, none, none⟩

end Provenance
