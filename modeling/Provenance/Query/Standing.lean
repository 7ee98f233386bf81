import Provenance.Failure
import Provenance.Query.MasterDataParameters
import Provenance.Store.Assembly
import Provenance.Store.Subscription

/-!
# The standing queries

The repository answers two queries by name, one for events and one for master data.  To check a
parameter list is to read it, and to execute it is to read it and to fetch what it asks for.  For a
subscription the query for events is confined to the requests in a scope; the query for master data
takes no subscriptions.

## Main definitions

* `Results` — what a query returns.
* `StandingQuery`, `StandingQuery.ofName` — the queries by name.
* `StandingQuery.check`, `StandingQuery.execute` — checking parameters and answering.
-/

namespace Provenance

/-- What a query returns. -/
inductive Results
  | events (es : List Event)
  | masterData (ms : List MasterData)
  deriving Repr

/-- How many results there are. -/
def Results.count : Results → Nat
  | events es => es.length
  | masterData ms => ms.length

/-- Whether there is no result. -/
def Results.isEmpty : Results → Bool
  | events es => es.isEmpty
  | masterData ms => ms.isEmpty

/-- Fails where there are more results than allowed. -/
def checkCount (kind : ResultKind) (allowed : Option Nat) (count : Nat) : Except Failure Unit :=
  match allowed with
  | some n => if n < count then .error (.tooLarge kind n) else .ok ()
  | none => .ok ()

/-! ### Events -/

/-- A query confined to what is pending in a scope. -/
def EventQuery.confine (q : EventQuery) (c : Scope) : EventQuery :=
  { q with predicates := q.predicates ++ [.pendingFor c.subscription c.through] }

namespace EventPlan

/-- The events that a plan asks for, confined to a scope where there is one.  In an empty scope
there are none. -/
def execute (p : EventPlan) (s : Store) (scope : Option Scope) : Except Failure (List Event) :=
  match scope with
  | none => run p.query
  | some c => if c.isEmpty then .ok [] else run (p.query.confine c)
where
  /-- Fetches the events of a query and counts them. -/
  run (q : EventQuery) : Except Failure (List Event) := do
    let es ← (q.fetch s).mapError .storage
    checkCount .events p.maxCount es.length
    .ok es

end EventPlan

/-- The elements that a plan asks for. -/
def MasterDataPlan.execute (p : MasterDataPlan) (s : Store) : Except Failure (List MasterData) := do
  let ms ← (p.query.fetch s).mapError .storage
  checkCount .masterData p.maxCount ms.length
  .ok ms

/-! ### Queries by name -/

/-- The queries that the repository answers. -/
inductive StandingQuery
  | simpleEvent
  | simpleMasterData
  deriving DecidableEq, Repr

namespace StandingQuery

/-- The name of a query. -/
def name : StandingQuery → String
  | simpleEvent => "SimpleEventQuery"
  | simpleMasterData => "SimpleMasterDataQuery"

/-- All queries, by name in ascending order. -/
def all : List StandingQuery := [simpleEvent, simpleMasterData]

/-- The query of a name. -/
def ofName (s : String) : Option StandingQuery := all.find? fun q => q.name == s

/-- Whether subscriptions to a query are taken. -/
def isSubscribable : StandingQuery → Bool
  | simpleEvent => true
  | simpleMasterData => false

/-- Checks a parameter list. -/
def check (q : StandingQuery) (ps : List Parameter) : Except ParameterFault Unit :=
  match q with
  | simpleEvent => (EventPlan.ofParameters ps).map fun _ => ()
  | simpleMasterData => (MasterDataPlan.ofParameters ps).map fun _ => ()

/-- Answers a query. -/
def execute (q : StandingQuery) (s : Store) (ps : List Parameter) (scope : Option Scope) :
    Except Failure Results :=
  match q with
  | simpleEvent => do
    let plan ← (EventPlan.ofParameters ps).mapError .parameter
    (plan.execute s scope).map .events
  | simpleMasterData => do
    let plan ← (MasterDataPlan.ofParameters ps).mapError .parameter
    (plan.execute s).map .masterData

end StandingQuery

end Provenance
