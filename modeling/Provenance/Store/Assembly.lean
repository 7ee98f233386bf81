import Provenance.Store.Limits
import Provenance.Store.Reading
import Provenance.Store.Selection
import Std.Data.HashMap

/-!
# Assembling answers

The rows that a query asks for become events or elements again.  Their parts are read in batches, as
many keys at a time as a statement may bind, table after table; each part is then attached to the
event or element that it belongs to, in the order of the rows.  A code that stands for nothing makes
the whole reading fail.

## Main definitions

* `Grouped`, `group` — rows by the key of what they belong to.
* `EventRow.decode`, `CustomField.ofPlaced` — reading rows.
* `Store.readEventParts`, `Event.complete` — the parts of the events of one batch.
* `EventQuery.fetch`, `MasterDataQuery.fetch` — the answers.
-/

namespace Provenance

/-! ### Grouping -/

/-- Lists by key. -/
abbrev Grouped (β : Type) := Std.HashMap PairKey (List β)

/-- Puts members with the same key into one list, in order. -/
def group {β : Type} (as : List (PairKey × β)) : Grouped β :=
  as.foldr (fun (k, b) m => m.insert k (b :: m.getD k [])) ∅

/-- What is grouped under a key is what was given with it, in order. -/
theorem getD_group {β : Type} (as : List (PairKey × β)) (k : PairKey) :
    (group as).getD k [] = (as.filter fun a => a.1 == k).map Prod.snd := by
  induction as with
  | nil => simp [group]
  | cons a as ih =>
    have hstep : group (a :: as) = (group as).insert a.1 (a.2 :: (group as).getD a.1 []) := rfl
    rw [hstep, Std.HashMap.getD_insert]
    by_cases h : a.1 = k
    · subst h
      simp [ih]
    · simp [h, ih]

/-- Reads the rows that belong to some keys and groups what is read; the first row with a fault
decides.  Each key binds two values. -/
def readParts {ρ β : Type} (rs : List ρ) (owner : ρ → PairKey) (read : ρ → Except StorageError β)
    (keys : List PairKey) : Except StorageError (Grouped β) := do
  checkBound (2 * keys.length)
  let wanted := Std.HashSet.ofList keys
  let parts ← (rs.filter fun r => wanted.contains (owner r)).mapM fun r =>
    (read r).map fun b => (owner r, b)
  .ok (group parts)

/-- How many keys a statement takes at once. -/
def keysPerStatement : Nat := maxBound / 2

/-! ### Reading rows -/

namespace EventRow

/-- Reads the event, without its parts. -/
def decode (e : EventRow) : Except StorageError Event := do
  let kind ← readCode 2 e.kind
  let action ← match e.action with
    | some code => Except.map some (readCode 6 code)
    | none => .ok none
  let time ← readWhole 3 "event_time" e.time
  let index ← readWhole 1 "event_index" e.index
  let recordTime ← readWhole 4 "record_time" e.recordTime
  .ok {
    id := some ⟨e.request, index⟩
    kind := kind
    time := .ofMillis time
    recordTime := some (.ofMillis recordTime)
    timezoneOffset := e.timezoneOffset
    action := action
    businessStep := e.businessStep
    disposition := e.disposition
    readPoint := e.readPoint
    businessLocation := e.businessLocation
    name := e.name
    transformation := e.transformation
    errorDeclaration := none
    epcs := []
    customFields := []
    businessTransactions := []
    parties := [] }

end EventRow

/-- Reads an object. -/
def EpcRow.decode (r : EpcRow) : Except StorageError Epc := do
  let role ← readCode 2 r.role
  .ok ⟨role, r.value, ← readReal? 4 "quantity" r.quantity, r.unitOfMeasure⟩

/-- A custom field with its place and the place of the field that it lies in. -/
structure PlacedField where
  index : Int
  parent : Option Int
  content : FieldContent
  deriving DecidableEq, Repr

/-- Reads a custom field. -/
def FieldRow.decode (r : FieldRow) : Except StorageError PlacedField := do
  let origin ← readCode 4 r.origin
  let number ← readReal? 8 "numeric_value" r.number
  let date ← readWhole? 9 "date_value" r.date
  let index ← readWhole 2 "field_index" r.index
  let parent ← readWhole? 3 "parent_index" r.parent
  .ok ⟨index, parent, ⟨origin, r.space, r.name, r.text, number, date.map .ofMillis⟩⟩

/-- Reads a business transaction. -/
def TransactionRow.decode (r : TransactionRow) : BusinessTransaction := ⟨r.kind, r.id⟩

/-- Reads a party. -/
def PartyRow.decode (r : PartyRow) : Except StorageError Party :=
  (readCode 2 r.direction).map fun direction => ⟨direction, r.kind, r.id⟩

/-- Reads an error declaration, without the events that correct this one. -/
def DeclarationRow.decode (r : DeclarationRow) : Except StorageError ErrorDeclaration :=
  (readWhole 2 "declaration_time" r.time).map fun time => ⟨.ofMillis time, r.reason, []⟩

namespace CustomField

/-- Adds a field to the top-level fields, each given with its place: inside of the one that it names
as its parent, or at the end where it names none of them. -/
def place (forest : List (Int × CustomField)) (f : PlacedField) : List (Int × CustomField) :=
  match f.parent with
  | some p =>
    if forest.any fun t => t.1 == p then
      forest.map fun t =>
        if t.1 = p then (t.1, node t.2.content (t.2.children ++ [node f.content []])) else t
    else forest ++ [(f.index, node f.content [])]
  | none => forest ++ [(f.index, node f.content [])]

/-- The custom fields of an event, put together from the fields in order. -/
def ofPlaced (fs : List PlacedField) : List CustomField := (fs.foldl place []).map Prod.snd

end CustomField

/-! ### Events -/

/-- The parts of events, by event. -/
structure EventParts where
  epcs : Grouped Epc
  fields : Grouped PlacedField
  transactions : Grouped BusinessTransaction
  parties : Grouped Party
  declarations : Grouped ErrorDeclaration
  correctives : Grouped String

namespace Store

/-- Reads the parts of some events, table after table. -/
def readEventParts (s : Store) (keys : List PairKey) : Except StorageError EventParts := do
  let epcs ← readParts s.epcs EpcRow.owner EpcRow.decode keys
  let fields ← readParts s.fields FieldRow.owner FieldRow.decode keys
  let transactions ←
    readParts s.transactions TransactionRow.owner (fun r => .ok r.decode) keys
  let parties ← readParts s.parties PartyRow.owner PartyRow.decode keys
  let declarations ←
    readParts s.declarations DeclarationRow.owner DeclarationRow.decode keys
  let correctives ← readParts s.correctives CorrectiveRow.owner (fun r => .ok r.id) keys
  .ok ⟨epcs, fields, transactions, parties, declarations, correctives⟩

end Store

/-- The key of an event, where it has an identity. -/
def Event.key (e : Event) : PairKey :=
  match e.id with
  | some id => (id.request, .integer id.index)
  | none => (0, .null)

/-- An event with the parts that belong to it. -/
def Event.complete (parts : EventParts) (e : Event) : Event :=
  { e with
    epcs := parts.epcs.getD e.key []
    customFields := CustomField.ofPlaced (parts.fields.getD e.key [])
    businessTransactions := parts.transactions.getD e.key []
    parties := parts.parties.getD e.key []
    errorDeclaration := (parts.declarations.getD e.key []).getLast?.map fun d =>
      { d with correctiveIds := parts.correctives.getD e.key [] } }

namespace Store

/-- Completes the events of one batch. -/
def completeBatch (s : Store) (es : List Event) : Except StorageError (List Event) := do
  let parts ← s.readEventParts (es.map Event.key)
  .ok (es.map (Event.complete parts))

/-- Completes events, batch after batch. -/
def completeEvents (s : Store) (es : List Event) : Except StorageError (List Event) := do
  let batches ← (chunks keysPerStatement es).mapM s.completeBatch
  .ok batches.flatten

end Store

namespace EventQuery

/-- Fails where the statement of a query cannot be carried out. -/
def checkStatement (q : EventQuery) : Except StorageError Unit :=
  checkExtents (q.predicates.map Predicate.extent)

/-- The events that a query asks for. -/
def fetch (q : EventQuery) (s : Store) : Except StorageError (List Event) := do
  q.checkStatement
  let events ← (q.rows s).mapM EventRow.decode
  s.completeEvents events

end EventQuery

/-! ### Master data -/

namespace MasterDataQuery

/-- The attributes of some elements, those only that the query names where it names any.  Each name
binds a value too. -/
def readAttributes (q : MasterDataQuery) (s : Store) (keys : List PairKey) :
    Except StorageError (Grouped Attribute) := do
  let names := q.attributeNames
  checkBound (2 * keys.length + (names.getD []).length)
  let wanted := match names with
    | some ns => s.attributes.filter fun a => ns.contains a.id
    | none => s.attributes
  readParts wanted AttributeRow.owner (fun a => .ok ⟨a.id, a.value⟩) keys

/-- The children of some elements. -/
def readChildren (s : Store) (keys : List PairKey) : Except StorageError (Grouped String) :=
  readParts s.links LinkRow.owner (fun l => .ok l.child) keys

/-- The elements of one batch, with what the query wants attached. -/
def completeBatch (q : MasterDataQuery) (s : Store) (ms : List ElementRow) :
    Except StorageError (List MasterData) := do
  let keys := ms.map ElementRow.key
  let attributes ← if q.includeAttributes then q.readAttributes s keys else .ok ∅
  let children ← if q.includeChildren then readChildren s keys else .ok ∅
  .ok (ms.map fun m => ⟨m.vocabulary, m.id, attributes.getD m.key [], children.getD m.key []⟩)

/-- The elements that a query asks for. -/
def fetch (q : MasterDataQuery) (s : Store) : Except StorageError (List MasterData) := do
  checkExtents q.extents
  let _ ← (q.rows s).mapM fun m => readWhole 1 "md_index" m.index
  let batches ← (chunks keysPerStatement (q.rows s)).mapM (q.completeBatch s)
  .ok batches.flatten

end MasterDataQuery

end Provenance
