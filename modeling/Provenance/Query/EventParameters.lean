import Provenance.Query.Filter
import Provenance.Query.Parameter
import Provenance.Text.Split

/-!
# The parameters of the event query

Each parameter of the event query means one clause: a predicate, or a word on order or number.  Some
names stand for themselves.  Others are families, whose names carry a kind, a field, an attribute or
a custom field behind a fixed word; custom fields are named `[INNER_][ILMD_]<namespace>#<name>`.
Names that stand for themselves are looked for first, then the families in a fixed order.

## Main definitions

* `Clause` — what one parameter means.
* `Parameter.clause` — the meaning of a parameter.
* `EventPlan` — the meaning of a parameter list.
* `EventPlan.ofParameters` — reads a parameter list.
-/

namespace Provenance

open Text (dropWord splitFirst splitLast)

/-- What one parameter of the event query means. -/
inductive Clause
  | filter (predicate : Predicate)
  | orderBy (field : EventField)
  | orderDirection (direction : SortDirection)
  /-- Ask for that many events at most. -/
  | countLimit (n : Nat)
  /-- Refuse an answer of more events. -/
  | maxCount (n : Nat)
  deriving DecidableEq, Repr

/-! ### Names in families -/

/-- The roles that a parameter on objects looks at. -/
def rolesOfName : String → Option (List EpcRole)
  | "MATCH_epc" => some [.list, .child]
  | "MATCH_parentID" => some [.parent]
  | "MATCH_inputEPC" => some [.input]
  | "MATCH_outputEPC" => some [.output]
  | "MATCH_anyEPC" => some [.list, .child, .parent, .input, .output]
  | "MATCH_epcClass" => some [.quantity, .childQuantity]
  | "MATCH_inputEPCClass" => some [.inputQuantity]
  | "MATCH_outputEPCClass" => some [.outputQuantity]
  | "MATCH_anyEPCClass" => some [.quantity, .childQuantity, .inputQuantity, .outputQuantity]
  | _ => none

/-- The comparison that a name begins with. -/
def Comparator.ofName (cs : List Char) : Option Comparator :=
  if cs = "EQ".toList then some .equal
  else if cs = "GT".toList then some .greater
  else if cs = "GE".toList then some .atLeast
  else if cs = "LT".toList then some .less
  else if cs = "LE".toList then some .atMost
  else none

/-- The fields whose master data a parameter can ask about. -/
def EventField.ofAttributeName (cs : List Char) : Option EventField :=
  if cs = "bizStep".toList then some .businessStep
  else if cs = "disposition".toList then some .disposition
  else if cs = "readPoint".toList then some .readPoint
  else if cs = "bizLocation".toList then some .businessLocation
  else none

/-- Takes a word off the front if it is there, and tells whether it was. -/
def dropMark (word : String) (cs : List Char) : Bool × List Char :=
  match dropWord word.toList cs with
  | some rest => (true, rest)
  | none => (false, cs)

/-- The custom field that a name names; neither its namespace nor its own name is empty. -/
def FieldSelector.ofName (cs : List Char) : Option FieldSelector :=
  let (inner, cs) := dropMark "INNER_" cs
  let (ilmd, cs) := dropMark "ILMD_" cs
  match splitLast '#' cs with
  | some (space, name) =>
    if space.isEmpty || name.isEmpty then none
    else some ⟨if ilmd then .ilmd else .extension, String.ofList space, String.ofList name, inner⟩
  | none => none

/-- The field and the attribute that a name names. -/
def attributeOfName (cs : List Char) : Option (EventField × String) :=
  match splitFirst '_' cs with
  | some (field, attributeId) =>
    match EventField.ofAttributeName field with
    | some f => if attributeId.isEmpty then none else some (f, String.ofList attributeId)
    | none => none
  | none => none

namespace Parameter

/-! ### Clauses -/

/-- The values as texts to compare with. -/
def operands (p : Parameter) : List Operand := p.values.map .text

/-- A number, or else a timestamp. -/
def comparable (p : Parameter) : Except ParameterFault Operand :=
  p.readSingle .comparable fun v =>
    match Binary64.read v.toList with
    | some x => some (.number x)
    | none => (Instant.read v.toList).map .time

/-- The field that a parameter compares with texts. -/
def scalarField : String → Option EventField
  | "EQ_bizStep" => some .businessStep
  | "EQ_disposition" => some .disposition
  | "EQ_readPoint" => some .readPoint
  | "EQ_bizLocation" => some .businessLocation
  | "EQ_transformationID" => some .transformation
  | "EQ_eventID" => some .name
  | _ => none

/-- The field that a parameter compares with a time, and how. -/
def timeField : String → Option (EventField × Comparator)
  | "GE_eventTime" => some (.time, .atLeast)
  | "LT_eventTime" => some (.time, .less)
  | "GE_recordTime" => some (.recordTime, .atLeast)
  | "LT_recordTime" => some (.recordTime, .less)
  | _ => none

/-- How a parameter compares the quantities of objects. -/
def quantityComparator : String → Option Comparator
  | "EQ_quantity" => some .equal
  | "GT_quantity" => some .greater
  | "GE_quantity" => some .atLeast
  | "LT_quantity" => some .less
  | "LE_quantity" => some .atMost
  | _ => none

/-- The meaning of the remaining names that stand for themselves. -/
def wordClause (p : Parameter) : Option (Except ParameterFault Clause) :=
  match p.name with
  | "eventType" => some do
    let kinds ← (p.each .eventKind : Except ParameterFault (List EventKind))
    .ok (.filter (.fieldIn .kind (kinds.map fun k => .text k.code)))
  | "EQ_action" => some do
    let actions ← (p.each .action : Except ParameterFault (List Action))
    .ok (.filter (.fieldIn .action (actions.map fun a => .text a.code)))
  | "WD_readPoint" => some (.ok (.filter (.fieldWithin .readPoint p.values)))
  | "WD_bizLocation" => some (.ok (.filter (.fieldWithin .businessLocation p.values)))
  | "EXISTS_errorDeclaration" => some (.ok (.filter .errorDeclared))
  | "EQ_errorReason" => some (.ok (.filter (.errorReasonIn p.values)))
  | "EQ_correctiveEventID" => some (.ok (.filter (.correctiveIdIn p.values)))
  | "orderBy" => some <| Except.map .orderBy <| p.readSingle .orderField fun v =>
    if v = "eventTime" then some .time else if v = "recordTime" then some .recordTime else none
  | "orderDirection" => some <| Except.map .orderDirection <| p.readSingle .orderDirection fun v =>
    if v = "ASC" then some .ascending else if v = "DESC" then some .descending else none
  | "eventCountLimit" => some (Except.map .countLimit p.count)
  | "maxEventCount" => some (Except.map .maxCount p.count)
  | _ => none

/-- The meaning of a name that stands for itself. -/
def exactClause (p : Parameter) : Option (Except ParameterFault Clause) :=
  match scalarField p.name with
  | some f => some (.ok (.filter (.fieldIn f p.operands)))
  | none =>
    match timeField p.name with
    | some (f, c) => some (Except.map (fun t => .filter (.fieldCompare f c (.time t))) p.time)
    | none =>
      match quantityComparator p.name with
      | some c => some (Except.map (fun q => .filter (.quantityCompare c q)) p.number)
      | none => p.wordClause

/-- The meaning of a name that begins with a comparison and names a custom field. -/
def customClause (p : Parameter) : Except ParameterFault Clause :=
  match splitFirst '_' p.name.toList with
  | none => .error (.unknownParameter p.name)
  | some (front, rest) =>
    match Comparator.ofName front, FieldSelector.ofName rest with
    | some .equal, some s => .ok (.filter (.customIn s p.values))
    | some c, some s => Except.map (fun v => .filter (.customCompare s c v)) p.comparable
    | _, _ => .error (.unknownParameter p.name)

/-- The meaning of a name that carries something behind a fixed word. -/
def familyClause (p : Parameter) : Except ParameterFault Clause :=
  let name := p.name.toList
  match rolesOfName p.name with
  | some roles => .ok (.filter (.epcIn roles p.values))
  | none =>
    match dropWord "EQ_bizTransaction_".toList name with
    | some kind => .ok (.filter (.transactionIn (String.ofList kind) p.values))
    | none =>
      match dropWord "EQ_source_".toList name with
      | some kind => .ok (.filter (.partyIn .source (String.ofList kind) p.values))
      | none =>
        match dropWord "EQ_destination_".toList name with
        | some kind => .ok (.filter (.partyIn .destination (String.ofList kind) p.values))
        | none =>
          match dropWord "EQATTR_".toList name with
          | some rest =>
            match attributeOfName rest with
            | some (f, a) => .ok (.filter (.attributeIn f a p.values))
            | none => .error (.malformed p.name .attributeFilter)
          | none =>
            match dropWord "HASATTR_".toList name with
            | some rest =>
              match EventField.ofAttributeName rest with
              | some f => .ok (.filter (.attributePresent f p.values))
              | none => .error (.malformed p.name .attributePresence)
            | none =>
              match dropWord "EXISTS_".toList name with
              | some rest =>
                match FieldSelector.ofName rest with
                | some s => .ok (.filter (.customExists s))
                | none => .error (.unknownParameter p.name)
              | none => p.customClause

/-- The meaning of a parameter. -/
def clause (p : Parameter) : Except ParameterFault Clause :=
  match p.exactClause with
  | some c => c
  | none => p.familyClause

end Parameter

/-! ### Plans -/

/-- The meaning of a parameter list of the event query. -/
structure EventPlan where
  query : EventQuery
  /-- An answer of more events is refused. -/
  maxCount : Option Nat
  deriving DecidableEq, Repr

namespace Clause

/-- The predicate of a clause. -/
def predicate? : Clause → Option Predicate
  | filter p => some p
  | _ => none

/-- The field of a clause on the order. -/
def orderBy? : Clause → Option EventField
  | orderBy f => some f
  | _ => none

/-- The direction of a clause on the order. -/
def orderDirection? : Clause → Option SortDirection
  | orderDirection d => some d
  | _ => none

/-- The number of a clause that asks for that many events at most. -/
def countLimit? : Clause → Option Nat
  | countLimit n => some n
  | _ => none

/-- The number of a clause that refuses more events. -/
def maxCount? : Clause → Option Nat
  | maxCount n => some n
  | _ => none

/-- The last of the clauses that says something on a matter. -/
def last {α : Type} (pick : Clause → Option α) (clauses : List Clause) : Option α :=
  (clauses.filterMap pick).getLast?

end Clause

/-- The limit that tells whether there is more than a number, where a word still holds it. -/
def probeLimit (name : String) (n : Nat) : Except ParameterFault Nat :=
  if n < Text.maxWord64 then .ok (n + 1) else .error (.countOutOfRange name)

namespace EventPlan

/-- The limit of the query: the number asked for, or one more than what is not refused. -/
def limitOf (countLimit maxCount : Option Nat) : Except ParameterFault (Option Nat) :=
  match maxCount, countLimit with
  | some _, some _ => .error .countsCombined
  | some n, none => Except.map some (probeLimit "maxEventCount" n)
  | none, limit => .ok limit

/-- Puts clauses together.  A direction without a field orders nothing, and a field without a
direction orders from the last to the first. -/
def ofClauses (clauses : List Clause) : Except ParameterFault EventPlan := do
  let maxCount := Clause.last Clause.maxCount? clauses
  let limit ← limitOf (Clause.last Clause.countLimit? clauses) maxCount
  let direction := (Clause.last Clause.orderDirection? clauses).getD .descending
  .ok {
    query := {
      predicates := clauses.filterMap Clause.predicate?
      order := (Clause.last Clause.orderBy? clauses).map fun f => (f, direction)
      limit := limit }
    maxCount := maxCount }

/-- Reads a parameter list; the first parameter with a fault decides. -/
def ofParameters (ps : List Parameter) : Except ParameterFault EventPlan := do
  ofClauses (← ps.mapM Parameter.clause)

end EventPlan

end Provenance
