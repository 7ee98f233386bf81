import Provenance.Query.Filter
import Provenance.Store.Cell

/-!
# Statements

The text of a query with holes, and the values bound to the holes in order.  A value reaches the
text only as a hole, and a hole is written together with its value, so the two never fall out of
step.  Each predicate on the parts of an event becomes a condition of its own on one table.

## Main definitions

* `Statement`, `Statement.lit`, `Statement.hole`, `Statement.holes` — texts with bound values.
* `Predicate.condition` — the condition of one predicate.
* `EventQuery.statement`, `MasterDataQuery.statement` — the statement that selects the rows.
-/

namespace Provenance

/-- A text with holes and the values bound to them. -/
structure Statement where
  text : String
  values : List Cell
  deriving DecidableEq, Repr

namespace Statement

/-- A text without values. -/
def lit (s : String) : Statement := ⟨s, []⟩

/-- A hole with its value. -/
def hole (c : Cell) : Statement := ⟨"?", [c]⟩

/-- One text after the other. -/
def append (s t : Statement) : Statement := ⟨s.text ++ t.text, s.values ++ t.values⟩

instance : Append Statement := ⟨append⟩

/-- Statements with a separator between them. -/
def join (sep : String) (ss : List Statement) : Statement :=
  ⟨sep.intercalate (ss.map text), ss.flatMap values⟩

/-- A hole for each value. -/
def holes (cs : List Cell) : Statement := join ", " (cs.map hole)

/-- A hole for each text. -/
def texts (ss : List String) : Statement := holes (ss.map .text)

@[simp] theorem text_append (s t : Statement) : (s ++ t).text = s.text ++ t.text := rfl

@[simp] theorem values_append (s t : Statement) : (s ++ t).values = s.values ++ t.values := rfl

@[simp] theorem values_lit (s : String) : (lit s).values = [] := rfl

@[simp] theorem values_hole (c : Cell) : (hole c).values = [c] := rfl

@[simp] theorem values_holes (cs : List Cell) : (holes cs).values = cs := by
  simp [holes, join, List.flatMap_map]

end Statement

open Statement

/-! ### Columns, operators and values -/

/-- The column of a field. -/
def EventField.column : EventField → String
  | kind => "e.event_type"
  | action => "e.action"
  | time => "e.event_time"
  | recordTime => "e.record_time"
  | businessStep => "e.business_step"
  | disposition => "e.disposition"
  | readPoint => "e.read_point"
  | businessLocation => "e.business_location"
  | name => "e.event_id"
  | transformation => "e.transformation_id"
  | request => "e.request_id"

/-- The operator of a comparison. -/
def Comparator.operator : Comparator → String
  | equal => "="
  | less => "<"
  | atMost => "<="
  | greater => ">"
  | atLeast => ">="

/-- The word of a direction. -/
def SortDirection.word : SortDirection → String
  | ascending => "ASC"
  | descending => "DESC"

/-- The value that an operand is bound as; times are milliseconds. -/
def Operand.cell : Operand → Cell
  | text s => .text s
  | number x => .real x
  | time t => .integer t.millis
  | integer n => .integer n

/-- The column of a custom field that holds values of the kind of an operand. -/
def Operand.customColumn : Operand → String
  | text _ => "cf.text_value"
  | number _ | integer _ => "cf.numeric_value"
  | time _ => "cf.date_value"

/-! ### Conditions -/

/-- Begins the selection of the rows of a table that belong to the event. -/
def rowsOfEvent (table short : String) : Statement :=
  lit ("SELECT 1 FROM " ++ table ++ " " ++ short ++ " WHERE " ++ short ++
    ".request_id = e.request_id AND " ++ short ++ ".event_index = e.event_index")

/-- That there is such a row. -/
def existsRow (rows : Statement) : Statement := lit "EXISTS (" ++ rows ++ lit ")"

/-- That the row `short` is of the latest capture of the element that its columns name. -/
def latestCapture (short idColumn : String) : String :=
  "NOT EXISTS (SELECT 1 FROM masterdata newer WHERE newer.md_type = " ++ short ++
    ".md_type AND newer.md_id = " ++ short ++ "." ++ idColumn ++
    " AND (newer.request_id > " ++ short ++ ".request_id OR (newer.request_id = " ++ short ++
    ".request_id AND newer.md_index > " ++ short ++ ".md_index)))"

/-- The ids and all their descendants, by links of the latest captures; with a vocabulary, by its
links only. -/
def descendants (vocabulary : Option String) (ids : List String) : Statement :=
  lit "WITH RECURSIVE descendants(id) AS (VALUES " ++
    join ", " (ids.map fun id => lit "(" ++ hole (.text id) ++ lit ")") ++
    lit (" UNION SELECT h.child_id FROM masterdata_hierarchy h JOIN descendants d " ++
      "ON h.parent_id = d.id WHERE " ++ latestCapture "h" "parent_id" ++ " ") ++
    (match vocabulary with
      | some v => lit "AND h.md_type = " ++ hole (.text v)
      | none => lit "") ++
    lit ") SELECT id FROM descendants"

/-- The attributes of the latest capture of the element that a field refers to. -/
def attributesOfField (field : EventField) : Statement :=
  lit ("SELECT 1 FROM masterdata m JOIN masterdata_attribute a " ++
    "ON a.request_id = m.request_id AND a.md_index = m.md_index WHERE ") ++
    (match field.vocabulary with
      | some v => lit "m.md_type = " ++ hole (.text v) ++ lit " AND "
      | none => lit "") ++
    lit ("m.md_id = " ++ field.column ++ " AND " ++ latestCapture "m" "md_id")

/-- That a custom field is the one named. -/
def FieldSelector.condition (s : FieldSelector) : Statement :=
  lit "cf.field_type = " ++ hole (.text s.origin.code) ++ lit " AND cf.namespace = " ++
    hole (.text s.space) ++ lit " AND cf.name = " ++ hole (.text s.name) ++
    lit (if s.inner then " AND cf.parent_index IS NOT NULL" else " AND cf.parent_index IS NULL")

/-- The custom fields that are the one named. -/
def FieldSelector.rows (s : FieldSelector) : Statement :=
  rowsOfEvent "custom_field" "cf" ++ lit " AND " ++ s.condition

/-- The condition of a predicate. -/
def Predicate.condition : Predicate → Statement
  | fieldIn f vs => lit (f.column ++ " IN (") ++ holes (vs.map Operand.cell) ++ lit ")"
  | fieldCompare f c v => lit (f.column ++ " " ++ c.operator ++ " ") ++ hole v.cell
  | transactionIn kind ids =>
    existsRow (rowsOfEvent "business_transaction" "bt" ++ lit " AND bt.transaction_type = " ++
      hole (.text kind) ++ lit " AND bt.transaction_id IN (" ++ texts ids ++ lit ")")
  | partyIn d kind ids =>
    existsRow (rowsOfEvent "source_destination" "sd" ++ lit " AND sd.direction = " ++
      hole (.text d.code) ++ lit " AND sd.sd_type = " ++ hole (.text kind) ++
      lit " AND sd.sd_id IN (" ++ texts ids ++ lit ")")
  | epcIn roles vs =>
    existsRow (rowsOfEvent "epc" "ep" ++ lit " AND ep.epc_type IN (" ++
      texts (roles.map EpcRole.code) ++ lit ") AND ep.value IN (" ++ texts vs ++ lit ")")
  | errorDeclared => existsRow (rowsOfEvent "error_declaration" "ed")
  | errorReasonIn rs =>
    existsRow (rowsOfEvent "error_declaration" "ed" ++ lit " AND ed.reason IN (" ++ texts rs ++
      lit ")")
  | correctiveIdIn ids =>
    existsRow (rowsOfEvent "corrective_event_id" "ce" ++ lit " AND ce.corrective_event_id IN (" ++
      texts ids ++ lit ")")
  | fieldWithin f ids => lit (f.column ++ " IN (") ++ descendants f.vocabulary ids ++ lit ")"
  | customIn s vs => existsRow (s.rows ++ lit " AND cf.text_value IN (" ++ texts vs ++ lit ")")
  | customCompare s c v =>
    existsRow (s.rows ++ lit (" AND " ++ v.customColumn ++ " " ++ c.operator ++ " ") ++ hole v.cell)
  | customExists s => existsRow s.rows
  | quantityCompare c q =>
    existsRow (rowsOfEvent "epc" "q" ++
      lit (" AND q.is_quantity = 1 AND q.quantity " ++ c.operator ++ " ") ++ hole (.real q))
  | attributeIn f a vs =>
    existsRow (attributesOfField f ++ lit " AND a.attribute_id = " ++ hole (.text a) ++
      lit " AND a.value IN (" ++ texts vs ++ lit ")")
  | attributePresent f as =>
    existsRow (attributesOfField f ++ lit " AND a.attribute_id IN (" ++ texts as ++ lit ")")
  | requestIn ids => lit "e.request_id IN (" ++ holes (ids.map .integer) ++ lit ")"
  | pendingFor s n =>
    lit "e.request_id IN (SELECT p.request_id FROM pending_request p WHERE p.subscription_id = " ++
      hole (.integer s) ++ lit " AND p.request_id <= " ++ hole (.integer n) ++ lit ")"

/-- The conjunction of predicates; without any, a condition that always holds. -/
def conjunction : List Predicate → Statement
  | [] => lit "1 = 1"
  | ps => join " AND " (ps.map Predicate.condition)

/-! ### Whole statements -/

/-- The largest number of rows that a statement can ask for. -/
def maxRows : Nat := Nat.pow 2 63 - 1

/-- How many rows a limit lets through. -/
def rowCount (limit : Option Nat) : Nat :=
  match limit with
  | some n => if n ≤ maxRows then n else maxRows
  | none => maxRows

/-- The order of the rows: as asked for, and then by request and place. -/
def EventQuery.ordering (q : EventQuery) : String :=
  (match q.order with
    | some (field, direction) => field.column ++ " " ++ direction.word ++ ", "
    | none => "") ++ "e.request_id, e.event_index"

/-- The statement that selects the rows of the matching events. -/
def EventQuery.statement (q : EventQuery) : Statement :=
  lit ("SELECT e.request_id, e.event_index, e.event_type, e.event_time, e.record_time, " ++
    "e.event_timezone_offset, e.action, e.business_step, e.disposition, e.read_point, " ++
    "e.business_location, e.event_id, e.transformation_id FROM event e WHERE ") ++
    conjunction q.predicates ++ lit (" ORDER BY " ++ q.ordering ++ " LIMIT ") ++
    hole (.integer (rowCount q.limit))

/-- Begins the selection of the attributes of an element. -/
def attributesOfElement : Statement :=
  lit ("SELECT 1 FROM masterdata_attribute a WHERE a.request_id = m.request_id " ++
    "AND a.md_index = m.md_index")

/-- A condition that restricts only where there is something in a list. -/
def restriction (values : List String) (condition : Statement) : List Statement :=
  if values.isEmpty then [] else [condition]

/-- The conditions of a query for master data. -/
def MasterDataQuery.conditions (q : MasterDataQuery) : List Statement :=
  lit (latestCapture "m" "md_id") ::
    restriction q.vocabularies (lit "m.md_type IN (" ++ texts q.vocabularies ++ lit ")") ++
    restriction q.ids (lit "m.md_id IN (" ++ texts q.ids ++ lit ")") ++
    restriction q.within (lit "m.md_id IN (" ++ descendants none q.within ++ lit ")") ++
    restriction q.attributesPresent (existsRow (attributesOfElement ++
      lit " AND a.attribute_id IN (" ++ texts q.attributesPresent ++ lit ")")) ++
    q.attributeValues.map fun (attributeId, values) =>
      existsRow (attributesOfElement ++ lit " AND a.attribute_id = " ++ hole (.text attributeId) ++
        lit " AND a.value IN (" ++ texts values ++ lit ")")

/-- The statement that selects the rows of the matching elements. -/
def MasterDataQuery.statement (q : MasterDataQuery) : Statement :=
  lit "SELECT m.request_id, m.md_index, m.md_type, m.md_id FROM masterdata m WHERE " ++
    join " AND " q.conditions ++ lit " ORDER BY m.md_type, m.md_id LIMIT " ++
    hole (.integer (rowCount q.limit))

end Provenance
