import Provenance.Query.Statement
import Provenance.Store.Basic

/-!
# Limits on statements

A statement can be too large to be carried out: it may bind too many values, a hierarchy in it may
start from too many ids or from none, and its conditions may stand too deep inside of each other.
The statement is read from the left, so the first limit that is passed decides.  Conditions are held
together one by one, so each more of them makes the whole deeper by one; and the conditions on rows
that a condition looks for come on top of all conditions of the statement.  A condition that chooses
from an empty list makes all conditions before and after it disappear.

## Main definitions

* `Extent` — what a condition adds to a statement.
* `Predicate.extent`, `MasterDataQuery.extents` — the conditions of queries.
* `checkExtents` — whether a statement with some conditions can be carried out.
-/

namespace Provenance

/-- What a condition adds to a statement. -/
structure Extent where
  /-- How many ids a hierarchy in it starts from. -/
  start : Option Nat
  /-- How many values it binds. -/
  values : Nat
  /-- How deep its parts stand. -/
  depth : Nat
  /-- How deep the conditions on the rows that it looks for stand. -/
  inside : Nat
  /-- Whether it chooses from an empty list. -/
  isEmptyChoice : Bool
  deriving DecidableEq, Repr

namespace Extent

/-! ### Depths -/

/-- The depth of a comparison of a column. -/
def comparison : Nat := 3

/-- The depth of conditions that all have to hold, given their depths. -/
def together : List Nat → Nat
  | [] => 0
  | d :: ds => ds.foldl (fun whole d => max whole d + 1) d

/-- The depth of a number of comparisons. -/
def comparisons (n : Nat) : Nat := together (List.replicate n comparison)

/-- The depth of the conditions under which a capture is not the latest: the same vocabulary and
id, and a greater request, or the same request and a greater place. -/
def notLatest : Nat :=
  together [comparison, comparison, together [comparison, comparisons 2]]

/-- The depth of the condition that no row meets some conditions. -/
def noRow (conditions : Nat) : Nat := conditions + 2

/-- A condition on the columns of the row itself. -/
def ofRow (values : Nat) : Extent := ⟨none, values, comparison, 0, false⟩

/-- A choice from a list for a column of the row itself. -/
def ofChoice (values : Nat) : Extent := ⟨none, values, comparison, 0, values == 0⟩

/-- That a part of the event meets some comparisons, beside the two that tie it to the event.
Where one of them chooses from an empty list, nothing is left of them. -/
def ofPart (values further : Nat) (chooses : Bool) : Extent :=
  let conditions := if chooses then comparisons (2 + further) else 1
  ⟨none, values, conditions + 1, conditions, false⟩

/-- That the latest capture of an element has an attribute, which meets some comparisons.  The two
comparisons that tie the attribute to the element are added last. -/
def ofAttribute (values further : Nat) (vocabulary chooses : Bool) : Extent :=
  let element := (if vocabulary then [comparison] else []) ++ [comparison, noRow notLatest]
  let conditions :=
    if chooses then together (element ++ List.replicate further comparison) else 1
  let nested := if chooses then notLatest else 0
  ⟨none, values, conditions + 1, together [conditions, comparisons 2] + nested, false⟩

/-- That a column has one of some ids or a descendant of one. -/
def ofDescent (start values : Nat) (vocabulary : Bool) : Extent :=
  let link := [noRow notLatest] ++ (if vocabulary then [comparison] else []) ++ [comparison]
  ⟨some start, values, comparison, together link + notLatest, false⟩

end Extent

/-! ### The conditions of queries -/

open Extent

/-- What the condition of a predicate adds to a statement. -/
def Predicate.extent (p : Predicate) : Extent :=
  let values := p.condition.values.length
  match p with
  | fieldIn _ vs => ofChoice vs.length
  | fieldCompare .. => ofRow values
  | transactionIn _ ids => ofPart values 2 (!ids.isEmpty)
  | partyIn _ _ ids => ofPart values 3 (!ids.isEmpty)
  | epcIn roles vs => ofPart values 2 (!roles.isEmpty && !vs.isEmpty)
  | errorDeclared => ofPart values 0 true
  | errorReasonIn rs => ofPart values 1 (!rs.isEmpty)
  | correctiveIdIn ids => ofPart values 1 (!ids.isEmpty)
  | fieldWithin f ids => ofDescent ids.length values f.vocabulary.isSome
  | customIn _ vs => ofPart values 5 (!vs.isEmpty)
  | customCompare .. => ofPart values 5 true
  | customExists _ => ofPart values 4 true
  | quantityCompare .. => ofPart values 2 true
  | attributeIn f _ vs => ofAttribute values 2 f.vocabulary.isSome (!vs.isEmpty)
  | attributePresent f as => ofAttribute values 1 f.vocabulary.isSome (!as.isEmpty)
  | requestIn ids => ofChoice ids.length
  | pendingFor .. => ⟨none, values, comparisons 2 + 1, comparisons 2, false⟩

/-- What the conditions of a query for master data add to a statement. -/
def MasterDataQuery.extents (q : MasterDataQuery) : List Extent :=
  let choice (ss : List String) (e : Extent) : List Extent := if ss.isEmpty then [] else [e]
  ⟨none, 0, noRow notLatest, notLatest, false⟩ ::
    choice q.vocabularies (ofChoice q.vocabularies.length) ++
    choice q.ids (ofChoice q.ids.length) ++
    choice q.within (ofDescent q.within.length q.within.length false) ++
    choice q.attributesPresent (ofPart q.attributesPresent.length 1 true) ++
    q.attributeValues.map fun (_, values) => ofPart (values.length + 1) 2 (!values.isEmpty)

/-! ### Checking -/

/-- The greatest depth of a condition. -/
def maxDepth : Nat := 1000

/-- From how many ids a hierarchy may start, at most. -/
def maxStart : Nat := 499

/-- Fails where a condition stands too deep. -/
def checkDepth (depth : Nat) : Except StorageError Unit :=
  if depth ≤ maxDepth then .ok () else .error .tooDeep

/-- Fails where a hierarchy starts from no ids or from too many, after some values were bound. -/
def checkStart (bound : Nat) : Option Nat → Except StorageError Unit
  | none => .ok ()
  | some n =>
    if n = 0 then .error .noStart
    else do
      checkBound (bound + n)
      if n ≤ maxStart then .ok () else .error .tooManyTerms

/-- The depth of conditions with one more; a choice from an empty list, among the ones before or
the new one, leaves nothing. -/
def joinedDepth (depth : Option Nat) (isEmptyChoice : Bool) (e : Extent) : Nat :=
  match depth with
  | none => if e.isEmptyChoice then 1 else e.depth
  | some d => if isEmptyChoice || e.isEmptyChoice then 1 else max d e.depth + 1

/-- Reads conditions on, after those before with the number of values that they bind, their depth
and whether they chose from an empty list; gives the number of values and the depth of all. -/
def readExtents : Nat → Option Nat → Bool → List Extent → Except StorageError (Nat × Nat)
  | bound, depth, _, [] => .ok (bound, depth.getD 0)
  | bound, depth, isEmptyChoice, e :: es => do
    checkStart bound e.start
    checkBound (bound + e.values)
    let joined := joinedDepth depth isEmptyChoice e
    checkDepth joined
    readExtents (bound + e.values) (some joined) (isEmptyChoice || e.isEmptyChoice) es

/-- Fails where a statement with some conditions and a limit cannot be carried out. -/
def checkExtents (es : List Extent) : Except StorageError Unit := do
  let (bound, depth) ← readExtents 0 none false es
  checkBound (bound + 1)
  if es.any Extent.isEmptyChoice then .ok ()
  else checkDepth (depth + (es.map Extent.inside).foldl max 0)

end Provenance
