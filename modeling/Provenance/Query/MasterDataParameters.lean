import Provenance.Query.EventParameters

/-!
# The parameters of the master data query

Each parameter of the master data query restricts the elements, says what to attach to them, or
refuses an answer that is too long.  Whether attributes and children are attached has to be said.

## Main definitions

* `ElementClause` — what one parameter means.
* `Parameter.elementClause` — the meaning of a parameter.
* `MasterDataPlan` — the meaning of a parameter list.
* `MasterDataPlan.ofParameters` — reads a parameter list.
-/

namespace Provenance

/-- What one parameter of the master data query means. -/
inductive ElementClause
  | vocabularies (names : List String)
  | ids (ids : List String)
  | within (ids : List String)
  | attributesPresent (names : List String)
  | attributeIn (attributeId : String) (values : List String)
  | includeAttributes (wanted : Bool)
  | includeChildren (wanted : Bool)
  | attributeNames (names : List String)
  | maxCount (n : Nat)
  deriving DecidableEq, Repr

/-- The meaning of a parameter of the master data query. -/
def Parameter.elementClause (p : Parameter) : Except ParameterFault ElementClause :=
  match p.name with
  | "vocabularyName" => .ok (.vocabularies p.values)
  | "includeAttributes" => Except.map .includeAttributes p.flag
  | "includeChildren" => Except.map .includeChildren p.flag
  | "attributeNames" => .ok (.attributeNames p.values)
  | "EQ_name" => .ok (.ids p.values)
  | "WD_name" => .ok (.within p.values)
  | "HASATTR" => .ok (.attributesPresent p.values)
  | "maxElementCount" => Except.map .maxCount p.count
  | name =>
    match Text.dropWord "EQATTR_".toList name.toList with
    | some (c :: cs) => .ok (.attributeIn (String.ofList (c :: cs)) p.values)
    | _ => .error (.unknownParameter p.name)

/-- The meaning of a parameter list of the master data query. -/
structure MasterDataPlan where
  query : MasterDataQuery
  /-- An answer of more elements is refused. -/
  maxCount : Option Nat
  deriving DecidableEq, Repr

/-- What the clauses read so far say. -/
structure MasterDataDraft where
  query : MasterDataQuery
  includeAttributes : Option Bool
  includeChildren : Option Bool
  maxCount : Option Nat
  deriving DecidableEq, Repr

namespace MasterDataDraft

/-- Nothing said yet. -/
def start : MasterDataDraft := ⟨MasterDataQuery.all, none, none, none⟩

/-- Adds a clause.  Restrictions of one kind add up; of all other clauses the last one counts. -/
def add (d : MasterDataDraft) : ElementClause → MasterDataDraft
  | .vocabularies vs => { d with query.vocabularies := d.query.vocabularies ++ vs }
  | .ids vs => { d with query.ids := d.query.ids ++ vs }
  | .within vs => { d with query.within := d.query.within ++ vs }
  | .attributesPresent vs => { d with query.attributesPresent := d.query.attributesPresent ++ vs }
  | .attributeIn a vs => { d with query.attributeValues := d.query.attributeValues ++ [(a, vs)] }
  | .includeAttributes b => { d with includeAttributes := some b }
  | .includeChildren b => { d with includeChildren := some b }
  | .attributeNames vs => { d with query.attributeNames := some vs }
  | .maxCount n => { d with maxCount := some n }

/-- The plan, once it is said what to attach. -/
def finish (d : MasterDataDraft) : Except ParameterFault MasterDataPlan :=
  match d.includeAttributes, d.includeChildren with
  | some attributes, some children =>
    let query := { d.query with includeAttributes := attributes, includeChildren := children }
    match d.maxCount with
    | none => .ok ⟨query, none⟩
    | some n => do
      let limit ← probeLimit "maxElementCount" n
      .ok ⟨{ query with limit := some limit }, some n⟩
  | _, _ => .error .inclusionsMissing

end MasterDataDraft

/-- Reads a parameter list; the first parameter with a fault decides. -/
def MasterDataPlan.ofParameters (ps : List Parameter) : Except ParameterFault MasterDataPlan := do
  let clauses ← ps.mapM Parameter.elementClause
  (clauses.foldl MasterDataDraft.add MasterDataDraft.start).finish

end Provenance
