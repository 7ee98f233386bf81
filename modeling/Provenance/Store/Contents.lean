import Provenance.Store.Basic

/-!
# The contents of a table

A table can be read and changed by its columns, without regard to what its rows mean.  A row is read
back from its cells where they fit their columns.  To overwrite a column is to put one value into it
in every row, as far as keys and references allow; and a column can be guarded, so that rows with
some value in it do not come in.

## Main definitions

* `Table.ofCells`, `Table.ofCells_cells` — a row from its cells.
* `Store.contents` — the cells of a table by key.
* `Store.overwrite` — puts a value into a column.
* `Store.guard`, `Store.unguard` — has rows refused.
-/

namespace Provenance

namespace Cell

/-- A text that may be missing. -/
def text? : Cell → Option (Option String)
  | null => some none
  | text s => some (some s)
  | _ => none

@[simp] theorem text?_ofText? (s : Option String) : (ofText? s).text? = some s := by
  cases s <;> rfl

end Cell

/-! ### Rows from their cells -/

/-- The row of a request from its cells. -/
def RequestRow.ofCells : List Cell → Option RequestRow
  | [.integer id, document, record, .text version, user] => do
    some ⟨id, document, record, version, ← user.text?⟩
  | _ => none

/-- The row of a business header from its cells. -/
def HeaderRow.ofCells : List Cell → Option HeaderRow
  | [.integer request, .text version, .text standard, .text typeVersion,
      .text instanceId, .text kind, creation] =>
    some ⟨request, version, standard, typeVersion, instanceId, kind, creation⟩
  | _ => none

/-- The row of a contact from its cells. -/
def ContactRow.ofCells : List Cell → Option ContactRow
  | [.integer request, index, .text role, .text identifier, contact, email, fax, telephone,
      kind] => do
    some ⟨request, index, role, identifier, ← contact.text?, ← email.text?, ← fax.text?,
      ← telephone.text?, ← kind.text?⟩
  | _ => none

/-- The row of a callback from its cells. -/
def CallbackRow.ofCells : List Cell → Option CallbackRow
  | [.integer request, .text kind, .text subscription, reason] => do
    some ⟨request, kind, subscription, ← reason.text?⟩
  | _ => none

/-- The row of an event from its cells. -/
def EventRow.ofCells : List Cell → Option EventRow
  | [.integer request, index, .text kind, time, record, .text offset, action, step, disposition,
      readPoint, location, name, transformation] => do
    some ⟨request, index, kind, time, record, offset, ← action.text?, ← step.text?,
      ← disposition.text?, ← readPoint.text?, ← location.text?, ← name.text?,
      ← transformation.text?⟩
  | _ => none

/-- The row of an object from its cells. -/
def EpcRow.ofCells : List Cell → Option EpcRow
  | [.integer request, event, index, .text role, .text value, isQuantity, quantity, unit] => do
    some ⟨request, event, index, role, value, isQuantity, quantity, ← unit.text?⟩
  | _ => none

/-- The row of a custom field from its cells. -/
def FieldRow.ofCells : List Cell → Option FieldRow
  | [.integer request, event, index, parent, .text origin, .text space, .text name, text, number,
      date] => do
    some ⟨request, event, index, parent, origin, space, name, ← text.text?, number, date⟩
  | _ => none

/-- The row of a business transaction from its cells. -/
def TransactionRow.ofCells : List Cell → Option TransactionRow
  | [.integer request, event, index, .text kind, .text id] =>
    some ⟨request, event, index, kind, id⟩
  | _ => none

/-- The row of a party from its cells. -/
def PartyRow.ofCells : List Cell → Option PartyRow
  | [.integer request, event, index, .text direction, .text kind, .text id] =>
    some ⟨request, event, index, direction, kind, id⟩
  | _ => none

/-- The row of an error declaration from its cells. -/
def DeclarationRow.ofCells : List Cell → Option DeclarationRow
  | [.integer request, event, time, reason] => do
    some ⟨request, event, time, ← reason.text?⟩
  | _ => none

/-- The row of a correcting event from its cells. -/
def CorrectiveRow.ofCells : List Cell → Option CorrectiveRow
  | [.integer request, event, index, .text id] => some ⟨request, event, index, id⟩
  | _ => none

/-- The row of an element from its cells. -/
def ElementRow.ofCells : List Cell → Option ElementRow
  | [.integer request, index, .text vocabulary, .text id] => some ⟨request, index, vocabulary, id⟩
  | _ => none

/-- The row of an attribute from its cells. -/
def AttributeRow.ofCells : List Cell → Option AttributeRow
  | [.integer request, element, index, .text id, .text value] =>
    some ⟨request, element, index, id, value⟩
  | _ => none

/-- The row of a link from its cells. -/
def LinkRow.ofCells : List Cell → Option LinkRow
  | [.integer request, element, index, .text vocabulary, .text parent, .text child] =>
    some ⟨request, element, index, vocabulary, parent, child⟩
  | _ => none

/-- The row of a subscription from its cells. -/
def SubscriptionRow.ofCells : List Cell → Option SubscriptionRow
  | [.integer id, .text name, .text query, .text destination, active, reportIfEmpty, initial,
      trigger, second, minute, hour, dayOfMonth, month, dayOfWeek] => do
    some ⟨id, name, query, destination, active, reportIfEmpty, initial, ← trigger.text?,
      ← second.text?, ← minute.text?, ← hour.text?, ← dayOfMonth.text?, ← month.text?,
      ← dayOfWeek.text?⟩
  | _ => none

/-- The row of a value of a parameter from its cells. -/
def ParameterRow.ofCells : List Cell → Option ParameterRow
  | [.integer subscription, index, valueIndex, .text name, .text value] =>
    some ⟨subscription, index, valueIndex, name, value⟩
  | _ => none

/-- The row of a pending request from its cells. -/
def PendingRow.ofCells : List Cell → Option PendingRow
  | [.integer subscription, .integer request] => some ⟨subscription, request⟩
  | _ => none

namespace Table

/-- A row from its cells, where they fit their columns. -/
def ofCells : (t : Table) → List Cell → Option t.Row
  | requests, cs => RequestRow.ofCells cs
  | headers, cs => HeaderRow.ofCells cs
  | contacts, cs => ContactRow.ofCells cs
  | callbacks, cs => CallbackRow.ofCells cs
  | events, cs => EventRow.ofCells cs
  | epcs, cs => EpcRow.ofCells cs
  | fields, cs => FieldRow.ofCells cs
  | transactions, cs => TransactionRow.ofCells cs
  | parties, cs => PartyRow.ofCells cs
  | declarations, cs => DeclarationRow.ofCells cs
  | correctives, cs => CorrectiveRow.ofCells cs
  | elements, cs => ElementRow.ofCells cs
  | attributes, cs => AttributeRow.ofCells cs
  | links, cs => LinkRow.ofCells cs
  | subscriptions, cs => SubscriptionRow.ofCells cs
  | parameters, cs => ParameterRow.ofCells cs
  | pending, cs => PendingRow.ofCells cs

/-- The cells of a row give the row back. -/
@[simp] theorem ofCells_cells (t : Table) (r : t.Row) : t.ofCells (t.cells r) = some r := by
  cases t <;> simp [ofCells, cells, RequestRow.ofCells, HeaderRow.ofCells, ContactRow.ofCells,
    CallbackRow.ofCells, EventRow.ofCells, EpcRow.ofCells, FieldRow.ofCells,
    TransactionRow.ofCells, PartyRow.ofCells, DeclarationRow.ofCells, CorrectiveRow.ofCells,
    ElementRow.ofCells, AttributeRow.ofCells, LinkRow.ofCells, SubscriptionRow.ofCells,
    ParameterRow.ofCells, PendingRow.ofCells]

/-- The place of a column. -/
def columnIndex (t : Table) (column : String) : Option Nat :=
  t.columns.findIdx? fun c => c.name == column

end Table

namespace Store

/-! ### Reading -/

/-- Rows in the order of their keys. -/
def sorted (t : Table) (rs : List t.Row) : List t.Row :=
  rs.mergeSort fun a b => Cell.compareLists (t.key a) (t.key b) != .gt

/-- The cells of a table, row by row, in the order of the keys. -/
def contents (s : Store) (t : Table) : List (List Cell) := (sorted t (s.rows t)).map t.cells

/-! ### Overwriting a column -/

/-- What a column keeps of a value.  The number that is the whole key of a table has to be a whole
one, and only some columns can do without a value. -/
def kept (t : Table) (i : Nat) (c : Column) (value : Cell) : Except StorageError Cell :=
  match c.affinity.store value with
  | .integer n => .ok (.integer n)
  | cell =>
    if t.isKeyedByNumber && i == 0 then .error .mismatch
    else if cell = .null && !c.optional then .error (.missing t c.name)
    else .ok cell

/-- The columns of the name by which subscribers know a subscription. -/
def nameColumn : Nat := 1

/-- Fails where two rows, given by their cells, have the same key or, if they are subscriptions, the
same name. -/
def checkDistinct (t : Table) (rs : List (List Cell)) : Except StorageError Unit :=
  if !allFresh ∅ (rs.map fun r => r.take t.keyWidth) then .error (.duplicate t t.keyColumns)
  else if t == .subscriptions && !allFresh ∅ (rs.map fun r => r[nameColumn]?) then
    .error (.duplicate t ["subscription_id"])
  else .ok ()

/-- Whether all rows have what they refer to. -/
def isClosed (s : Store) : Bool := Table.all.all fun t => s.referencesHold t (s.rows t)

/-- Puts a value into a column of every row, and tells how many there are.  Where a reference would
not be a whole number, nothing can be there that it refers to. -/
def overwrite (s : Store) (t : Table) (i : Nat) (c : Column) (value : Cell) :
    Except StorageError (Store × Nat) :=
  if (s.rows t).isEmpty then .ok (s, 0)
  else do
    let cell ← kept t i c value
    let rows := (s.rows t).map fun r => (t.cells r).set i cell
    checkDistinct t rows
    match rows.mapM t.ofCells with
    | none => .error .dangling
    | some rows =>
      let after := s.setRows t (sorted t rows)
      if after.isClosed then .ok (after, rows.length) else .error .dangling

/-! ### Guarding a column -/

/-- Takes any rows again. -/
def unguard (s : Store) (t : Table) : Store :=
  { s with refusals := s.refusals.filter fun f => f.table != t }

/-- Refuses rows with a value in a column, and only those.  The number that is the whole key of a
table is compared as a number, and all else as it is. -/
def guard (s : Store) (t : Table) (i : Nat) (value : Cell) : Store :=
  let s := s.unguard t
  let compared := if t.isKeyedByNumber && i == 0 then Affinity.integer.convert value else value
  { s with refusals := s.refusals ++ [⟨t, i, compared⟩] }

end Store

end Provenance
