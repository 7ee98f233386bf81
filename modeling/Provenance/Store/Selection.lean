import Provenance.Query.Statement
import Provenance.Store.Hierarchy

/-!
# Selecting rows

What the predicates of a query mean on the rows of a store, and the rows that a query asks for, in
order.  A missing value satisfies no predicate; in an order it comes before all other values.

## Main definitions

* `Demand`, `Predicate.demand` — what a predicate asks of an event.
* `Predicate.holds` — whether a predicate holds of an event.
* `Predicate.select`, `Predicate.select_eq` — the events of a list of which it holds.
* `EventQuery.rows` — the rows that a query for events asks for.
* `MasterDataQuery.rows` — the rows that a query for master data asks for.
-/

namespace Provenance

/-! ### Comparing -/

/-- Whether a comparison admits an order; where there is none, no comparison holds. -/
def Comparator.test (c : Comparator) : Option Ordering → Bool
  | none => false
  | some o =>
    match c with
    | .equal => o == .eq
    | .less => o == .lt
    | .atMost => o != .gt
    | .greater => o == .gt
    | .atLeast => o != .lt

/-- What a field makes of the values it is compared with. -/
def EventField.affinity : EventField → Affinity
  | time | recordTime | request => .integer
  | _ => .text

/-- What an event has in a field. -/
def EventRow.cell (e : EventRow) : EventField → Cell
  | .kind => .text e.kind
  | .action => .ofText? e.action
  | .time => e.time
  | .recordTime => e.recordTime
  | .businessStep => .ofText? e.businessStep
  | .disposition => .ofText? e.disposition
  | .readPoint => .ofText? e.readPoint
  | .businessLocation => .ofText? e.businessLocation
  | .name => .ofText? e.name
  | .transformation => .ofText? e.transformation
  | .request => .integer e.request

/-- How an event compares with a value in a field. -/
def EventRow.compareTo (e : EventRow) (f : EventField) (value : Cell) : Option Ordering :=
  (e.cell f).order (f.affinity.convert value)

/-- Whether an event has one of some texts in a field. -/
def EventRow.hasOneOf (e : EventRow) (f : EventField) (ids : List String) : Bool :=
  ids.any fun id => Comparator.equal.test (e.compareTo f (.text id))

/-! ### The parts of an event -/

/-- Whether a custom field is the one named. -/
def FieldSelector.selects (s : FieldSelector) (r : FieldRow) : Bool :=
  r.origin == s.origin.code && r.space == s.space && r.name == s.name &&
    (r.parent != .null) == s.inner

/-- How a custom field compares with a value, in the reading that the value is of. -/
def FieldRow.compareTo (r : FieldRow) (v : Operand) : Option Ordering :=
  match v with
  | .text _ => (Cell.ofText? r.text).order (Affinity.text.convert v.cell)
  | .number _ | .integer _ => r.number.order (Affinity.real.convert v.cell)
  | .time _ => r.date.order (Affinity.integer.convert v.cell)

/-- Whether a text is there and in a list. -/
def isOneOf (s : Option String) (ss : List String) : Bool :=
  match s with
  | some t => ss.contains t
  | none => false

/-- The ids of the current elements, of the vocabulary that a field refers to, that have an
attribute of some kind. -/
def Store.describedIds (s : Store) (f : EventField) (wanted : AttributeRow → Bool) : List String :=
  (s.currentElements.filter fun m =>
    (match f.vocabulary with
      | some v => m.vocabulary == v
      | none => true) &&
    s.attributes.any fun a => a.owner == m.key && wanted a).map ElementRow.id

/-! ### Demands -/

/-- What is asked of an event: something of its own row, or that one of some rows of parts belongs
to it, which are given by the events that they belong to. -/
inductive Demand
  | row (test : EventRow → Bool)
  | part (owners : List PairKey)

namespace Demand

/-- The rows of parts that pass a test. -/
def ofParts {ρ : Type} (rs : List ρ) (owner : ρ → PairKey) (wanted : ρ → Bool) : Demand :=
  part ((rs.filter wanted).map owner)

/-- Whether an event meets a demand. -/
def isMet (e : EventRow) : Demand → Bool
  | row test => test e
  | part owners => owners.contains e.key

/-- The events of a list that meet a demand. -/
def select (es : List EventRow) : Demand → List EventRow
  | row test => es.filter test
  | part owners =>
    let known := Std.HashSet.ofList owners
    es.filter fun e => known.contains e.key

/-- Selecting keeps exactly the events that meet the demand. -/
theorem select_eq (es : List EventRow) (d : Demand) : d.select es = es.filter d.isMet := by
  cases d with
  | row test => rfl
  | part owners => simp [select, isMet]

end Demand

/-! ### Predicates -/

namespace Predicate

/-- What a predicate asks of an event.  What it asks of master data does not depend on the event. -/
def demand (s : Store) : Predicate → Demand
  | fieldIn f vs => .row fun e => vs.any fun v => Comparator.equal.test (e.compareTo f v.cell)
  | fieldCompare f c v => .row fun e => c.test (e.compareTo f v.cell)
  | transactionIn kind ids =>
    .ofParts s.transactions TransactionRow.owner fun r => r.kind == kind && ids.contains r.id
  | partyIn d kind ids =>
    .ofParts s.parties PartyRow.owner fun r =>
      r.direction == d.code && r.kind == kind && ids.contains r.id
  | epcIn roles vs =>
    .ofParts s.epcs EpcRow.owner fun r =>
      (roles.map EpcRole.code).contains r.role && vs.contains r.value
  | errorDeclared => .ofParts s.declarations DeclarationRow.owner fun _ => true
  | errorReasonIn reasons =>
    .ofParts s.declarations DeclarationRow.owner fun r => isOneOf r.reason reasons
  | correctiveIdIn ids => .ofParts s.correctives CorrectiveRow.owner fun r => ids.contains r.id
  | fieldWithin f ids =>
    let family := s.descendants f.vocabulary ids
    .row fun e => e.hasOneOf f family
  | customIn sel vs =>
    .ofParts s.fields FieldRow.owner fun r => sel.selects r && isOneOf r.text vs
  | customCompare sel c v =>
    .ofParts s.fields FieldRow.owner fun r => sel.selects r && c.test (r.compareTo v)
  | customExists sel => .ofParts s.fields FieldRow.owner sel.selects
  | quantityCompare c q =>
    .ofParts s.epcs EpcRow.owner fun r =>
      r.isQuantity.same (.integer 1) && c.test (r.quantity.order (.real q))
  | attributeIn f a vs =>
    let described := s.describedIds f fun r => r.id == a && vs.contains r.value
    .row fun e => e.hasOneOf f described
  | attributePresent f names =>
    let described := s.describedIds f fun r => names.contains r.id
    .row fun e => e.hasOneOf f described
  | requestIn ids => .row fun e => ids.contains e.request
  | pendingFor sub through =>
    let pending := s.pending.filter fun r => r.subscription == sub && r.request ≤ through
    .row fun e => pending.any fun r => r.request == e.request

/-- Whether a predicate holds of an event. -/
def holds (s : Store) (e : EventRow) (p : Predicate) : Bool := (p.demand s).isMet e

/-- The events of a list of which a predicate holds. -/
def select (s : Store) (es : List EventRow) (p : Predicate) : List EventRow :=
  (p.demand s).select es

/-- Selecting keeps exactly the events of which the predicate holds. -/
theorem select_eq (s : Store) (es : List EventRow) (p : Predicate) :
    p.select s es = es.filter fun e => p.holds s e :=
  Demand.select_eq es (p.demand s)

end Predicate

/-! ### Ordering -/

/-- An order in a direction. -/
def SortDirection.orient : SortDirection → Ordering → Ordering
  | ascending, o => o
  | descending, o => o.swap

/-- The order by request and place. -/
def EventRow.compareKey (a b : EventRow) : Ordering :=
  (compare a.request b.request).then (a.index.sortOrder b.index)

/-- The order of the answer to a query. -/
def EventQuery.compareRows (q : EventQuery) (a b : EventRow) : Ordering :=
  match q.order with
  | some (f, d) => (d.orient ((a.cell f).sortOrder (b.cell f))).then (a.compareKey b)
  | none => a.compareKey b

/-- The rows of the events that satisfy all predicates. -/
def EventQuery.matching (q : EventQuery) (s : Store) : List EventRow :=
  q.predicates.foldl (fun es p => p.select s es) s.events

/-- The rows that a query for events asks for, in order and up to its limit. -/
def EventQuery.rows (q : EventQuery) (s : Store) : List EventRow :=
  ((q.matching s).mergeSort fun a b => q.compareRows a b != .gt).take (rowCount q.limit)

/-! ### Master data -/

namespace MasterDataQuery

/-- Whether a list restricts nothing or has a member. -/
def allows (ss : List String) (s : String) : Bool := ss.isEmpty || ss.contains s

/-- Whether an element has an attribute of some kind. -/
def hasAttribute (s : Store) (m : ElementRow) (wanted : AttributeRow → Bool) : Bool :=
  s.attributes.any fun a => a.owner == m.key && wanted a

/-- Whether an element satisfies all restrictions, given the ids that the query allows by
descent. -/
def accepts (q : MasterDataQuery) (s : Store) (family : List String) (m : ElementRow) : Bool :=
  allows q.vocabularies m.vocabulary && allows q.ids m.id &&
    (q.within.isEmpty || family.contains m.id) &&
    (q.attributesPresent.isEmpty ||
      hasAttribute s m fun a => q.attributesPresent.contains a.id) &&
    q.attributeValues.all fun (name, values) =>
      hasAttribute s m fun a => a.id == name && values.contains a.value

/-- The order by vocabulary and id. -/
def compareRows (a b : ElementRow) : Ordering :=
  (compare a.vocabulary b.vocabulary).then (compare a.id b.id)

/-- The rows of the latest captures that satisfy all restrictions. -/
def matching (q : MasterDataQuery) (s : Store) : List ElementRow :=
  let family := s.descendants none q.within
  s.currentElements.filter fun m => q.accepts s family m

/-- The rows that a query for master data asks for, in order and up to its limit. -/
def rows (q : MasterDataQuery) (s : Store) : List ElementRow :=
  ((q.matching s).mergeSort fun a b => compareRows a b != .gt).take (rowCount q.limit)

end MasterDataQuery

end Provenance
