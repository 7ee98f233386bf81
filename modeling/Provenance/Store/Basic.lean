import Provenance.Store.Table
import Std.Data.HashSet

/-!
# The store

The store is a row list for each table.  Rows come in by insertions: an insertion puts rows of one
table in, if none of them has a key that is taken, all rows that they refer to are there, and the
statement that carries them binds no more values than a statement may.  An insertion either happens
as a whole or fails and leaves the store as it was.

A store can be told to refuse rows with a given value in a column, so that any insertion can be made
to fail.

## Main definitions

* `Store`, `Store.rows`, `Store.setRows` — the rows of each table.
* `StorageError` — why the store fails, with the words for it.
* `Insertion`, `Insertion.bulk` — rows on their way in, a statement's worth at a time.
* `Store.insert`, `Store.insertAll` — putting rows in.
* `Store.insert_eq_ok_iff` — when rows come in, and what changes then.
-/

namespace Provenance

/-- Why the store fails. -/
inductive StorageError
  | refused
  | duplicate (table : Table) (columns : List String)
  | dangling
  | missing (table : Table) (column : String)
  | mismatch
  | tooManyVariables
  /-- A hierarchy without an id to start from cannot be written down. -/
  | noStart
  /-- A hierarchy starts from too many ids. -/
  | tooManyTerms
  /-- Conditions stand too deep inside of each other. -/
  | tooDeep
  /-- The numbers of a table have run out. -/
  | full
  /-- A column of what is read holds something that it should not. -/
  | unexpected (found : CellKind) (column : Nat) (name : String)
  | unknownCode (column : Nat) (code : String)
  | badSchedule (fault : ScheduleFault)
  deriving DecidableEq, Repr

/-- A column by table and name, in words. -/
def columnPath (t : Table) (column : String) : String := t.name ++ "." ++ column

/-- The words for a text that stands for nothing. -/
def conversionError (column : Nat) (reason : String) : String :=
  "Conversion error from type Text at index: " ++ toString column ++ ", " ++ reason

/-- The words for a failure. -/
def StorageError.message : StorageError → String
  | refused => "injected failure"
  | duplicate t cs => "UNIQUE constraint failed: " ++ ", ".intercalate (cs.map (columnPath t))
  | dangling => "FOREIGN KEY constraint failed"
  | missing t c => "NOT NULL constraint failed: " ++ columnPath t c
  | mismatch => "datatype mismatch"
  | tooManyVariables => "too many SQL variables"
  | noStart => "near \"UNION\": syntax error"
  | tooManyTerms => "too many terms in compound SELECT"
  | tooDeep => "Expression tree is too large (maximum depth 1000)"
  | full => "database or disk is full"
  | unexpected found n name =>
    "Invalid column type " ++ found.word ++ " at index: " ++ toString n ++ ", name: " ++ name
  | unknownCode n code => conversionError n ("unknown stored code '" ++ code ++ "'")
  | badSchedule f => conversionError 8 f.message

/-- The most values that a statement may bind. -/
def maxBound : Nat := 32766

/-- Fails where a statement would bind too many values. -/
def checkBound (values : Nat) : Except StorageError Unit :=
  if values ≤ maxBound then .ok () else .error .tooManyVariables

/-- The greatest number that a request or a subscription can have. -/
def maxNumber : Int := Nat.pow 2 63 - 1

/-- Rows of a table that the store shall not take: those with a value in a column. -/
structure Refusal where
  table : Table
  column : Nat
  value : Cell
  deriving DecidableEq, Repr

/-- The rows of all tables, the last numbers given to a request and to a subscription, and what the
store refuses. -/
structure Store where
  requests : List RequestRow
  headers : List HeaderRow
  contacts : List ContactRow
  callbacks : List CallbackRow
  events : List EventRow
  epcs : List EpcRow
  fields : List FieldRow
  transactions : List TransactionRow
  parties : List PartyRow
  declarations : List DeclarationRow
  correctives : List CorrectiveRow
  elements : List ElementRow
  attributes : List AttributeRow
  links : List LinkRow
  subscriptions : List SubscriptionRow
  parameters : List ParameterRow
  pending : List PendingRow
  lastRequest : Int
  lastSubscription : Int
  refusals : List Refusal
  deriving DecidableEq, Repr

namespace Store

/-- The store without rows. -/
def empty : Store :=
  ⟨[], [], [], [], [], [], [], [], [], [], [], [], [], [], [], [], [], 0, 0, []⟩

/-- The rows of a table. -/
def rows (s : Store) : (t : Table) → List t.Row
  | .requests => s.requests
  | .headers => s.headers
  | .contacts => s.contacts
  | .callbacks => s.callbacks
  | .events => s.events
  | .epcs => s.epcs
  | .fields => s.fields
  | .transactions => s.transactions
  | .parties => s.parties
  | .declarations => s.declarations
  | .correctives => s.correctives
  | .elements => s.elements
  | .attributes => s.attributes
  | .links => s.links
  | .subscriptions => s.subscriptions
  | .parameters => s.parameters
  | .pending => s.pending

/-- The store with other rows in a table. -/
def setRows (s : Store) : (t : Table) → List t.Row → Store
  | .requests, rs => { s with requests := rs }
  | .headers, rs => { s with headers := rs }
  | .contacts, rs => { s with contacts := rs }
  | .callbacks, rs => { s with callbacks := rs }
  | .events, rs => { s with events := rs }
  | .epcs, rs => { s with epcs := rs }
  | .fields, rs => { s with fields := rs }
  | .transactions, rs => { s with transactions := rs }
  | .parties, rs => { s with parties := rs }
  | .declarations, rs => { s with declarations := rs }
  | .correctives, rs => { s with correctives := rs }
  | .elements, rs => { s with elements := rs }
  | .attributes, rs => { s with attributes := rs }
  | .links, rs => { s with links := rs }
  | .subscriptions, rs => { s with subscriptions := rs }
  | .parameters, rs => { s with parameters := rs }
  | .pending, rs => { s with pending := rs }

@[simp] theorem rows_setRows_self (s : Store) (t : Table) (rs : List t.Row) :
    (s.setRows t rs).rows t = rs := by cases t <;> rfl

theorem rows_setRows_of_ne (s : Store) {t u : Table} (h : t ≠ u) (rs : List t.Row) :
    (s.setRows t rs).rows u = s.rows u := by
  cases t <;> cases u <;> first | rfl | exact absurd rfl h

@[simp] theorem setRows_rows (s : Store) (t : Table) : s.setRows t (s.rows t) = s := by
  cases t <;> rfl

@[simp] theorem lastRequest_setRows (s : Store) (t : Table) (rs : List t.Row) :
    (s.setRows t rs).lastRequest = s.lastRequest := by cases t <;> rfl

@[simp] theorem lastSubscription_setRows (s : Store) (t : Table) (rs : List t.Row) :
    (s.setRows t rs).lastSubscription = s.lastSubscription := by cases t <;> rfl

@[simp] theorem refusals_setRows (s : Store) (t : Table) (rs : List t.Row) :
    (s.setRows t rs).refusals = s.refusals := by cases t <;> rfl

end Store

/-! ### Insertions -/

/-- Rows of one table on their way in, with the number of values that their statement binds. -/
structure Insertion where
  table : Table
  rows : List table.Row
  bound : Nat

/-- A list cut into pieces of `n` members, where the last one may be shorter.  Each piece has at
least one member. -/
def chunks {α : Type} (n : Nat) : List α → List (List α)
  | [] => []
  | a :: as => (a :: as.take (n - 1)) :: chunks n (as.drop (n - 1))
  termination_by l => l.length
  decreasing_by
    simp only [List.length_drop, List.length_cons]
    omega

@[simp] theorem chunks_nil {α : Type} (n : Nat) : chunks n ([] : List α) = [] := by
  simp [chunks]

/-- Cutting loses and repeats nothing. -/
@[simp] theorem flatten_chunks {α : Type} (n : Nat) (as : List α) : (chunks n as).flatten = as := by
  fun_induction chunks n as with
  | case1 => rfl
  | case2 a as ih => simp [ih]

/-- No piece is longer than asked for. -/
theorem length_le_of_mem_chunks {α : Type} {n : Nat} (h : 0 < n) {as piece : List α}
    (hp : piece ∈ chunks n as) : piece.length ≤ n := by
  fun_induction chunks n as with
  | case1 => simp at hp
  | case2 a as ih =>
    rcases List.mem_cons.1 hp with rfl | hp
    · simp; omega
    · exact ih hp

namespace Insertion

/-- A statement that binds a value for each column of each row. -/
def ofRows (t : Table) (rs : List t.Row) : Insertion := ⟨t, rs, rs.length * t.width⟩

/-- How many rows of a width a statement takes at once. -/
def rowsPerStatement (width : Nat) : Nat := max (maxBound / width) 1

/-- Rows of a width, cut into the rows of one statement each. -/
def batches {ρ : Type} (width : Nat) (rs : List ρ) : List (List ρ) :=
  chunks (rowsPerStatement width) rs

/-- Rows in as few statements as the bound allows. -/
def bulk (t : Table) (rs : List t.Row) : List Insertion := (batches t.width rs).map (ofRows t)

end Insertion

/-- Whether keys are neither among those seen nor twice in the list. -/
def allFresh {κ : Type} [BEq κ] [Hashable κ] (seen : Std.HashSet κ) : List κ → Bool
  | [] => true
  | k :: ks => !seen.contains k && allFresh (seen.insert k) ks

/-- The keys are fresh exactly if none is given twice and none is among those seen. -/
theorem allFresh_iff {κ : Type} [BEq κ] [Hashable κ] [LawfulBEq κ] {seen : Std.HashSet κ}
    {ks : List κ} : allFresh seen ks = true ↔ ks.Nodup ∧ ∀ k ∈ ks, k ∉ seen := by
  induction ks generalizing seen with
  | nil => simp [allFresh]
  | cons k ks ih =>
    simp only [allFresh, Bool.and_eq_true, Bool.not_eq_true', ← Bool.not_eq_true,
      Std.HashSet.contains_iff_mem, ih, Std.HashSet.mem_insert, beq_iff_eq, List.nodup_cons,
      List.mem_cons]
    grind

theorem allFresh_ofList_iff {κ : Type} [BEq κ] [Hashable κ] [LawfulBEq κ] {seen ks : List κ} :
    allFresh (Std.HashSet.ofList seen) ks = true ↔ ks.Nodup ∧ ∀ k ∈ ks, k ∉ seen := by
  simp [allFresh_iff]

namespace Store

/-- The keys in a table. -/
def keys (s : Store) (t : Table) : List (List Cell) := (s.rows t).map t.key

/-- What a new row shows before it is taken: a number that the store will find is not known yet. -/
def offeredCells (t : Table) (r : t.Row) : List Cell :=
  if t.isNumbered then (t.cells r).set 0 (.integer (-1)) else t.cells r

/-- Whether a row is to be refused. -/
def refuses (s : Store) (t : Table) (r : t.Row) : Bool :=
  s.refusals.any fun f =>
    f.table == t && match (offeredCells t r)[f.column]? with
      | some c => c.same f.value
      | none => false

/-- Fails where a row is to be refused. -/
def checkRefusals (s : Store) (t : Table) (rs : List t.Row) : Except StorageError Unit :=
  if rs.any (s.refuses t) then .error .refused else .ok ()

/-- Fails where a key or a name of the rows is taken or given twice. -/
def checkKeys (s : Store) (t : Table) (rs : List t.Row) : Except StorageError Unit :=
  if !allFresh (Std.HashSet.ofList (s.keys t)) (rs.map t.key) then
    .error (.duplicate t t.keyColumns)
  else if !allFresh (Std.HashSet.ofList ((s.rows t).filterMap t.uniqueName))
      (rs.filterMap t.uniqueName) then
    .error (.duplicate t ["subscription_id"])
  else .ok ()

/-- The keys and names of rows can be taken exactly if none is given twice and none is taken. -/
theorem checkKeys_eq_ok_iff {s : Store} {t : Table} {rs : List t.Row} :
    s.checkKeys t rs = .ok () ↔
      ((rs.map t.key).Nodup ∧ ∀ k ∈ rs.map t.key, k ∉ s.keys t) ∧
      ((rs.filterMap t.uniqueName).Nodup ∧
        ∀ n ∈ rs.filterMap t.uniqueName, n ∉ (s.rows t).filterMap t.uniqueName) := by
  simp only [← allFresh_ofList_iff]
  unfold checkKeys
  split
  · simp_all
  · split <;> simp_all

/-- Whether everything that rows refer to is there. -/
def referencesHold (s : Store) (t : Table) (rs : List t.Row) : Bool :=
  t.references.all fun (parent, key) =>
    let known := Std.HashSet.ofList (s.keys parent)
    rs.all fun r => known.contains (key r)

/-- What rows refer to is there exactly if each of its keys is. -/
theorem referencesHold_iff {s : Store} {t : Table} {rs : List t.Row} :
    s.referencesHold t rs = true ↔ ∀ ref ∈ t.references, ∀ r ∈ rs, ref.2 r ∈ s.keys ref.1 := by
  simp [referencesHold]

/-- The store with rows added to a table. -/
def append (s : Store) (t : Table) (rs : List t.Row) : Store := s.setRows t (s.rows t ++ rs)

/-- Puts rows in. -/
def insert (s : Store) (i : Insertion) : Except StorageError Store := do
  checkBound i.bound
  s.checkRefusals i.table i.rows
  s.checkKeys i.table i.rows
  let after := s.append i.table i.rows
  if after.referencesHold i.table i.rows then .ok after else .error .dangling

/-- An insertion succeeds exactly if it passes all checks, and then adds its rows. -/
theorem insert_eq_ok_iff {s after : Store} {i : Insertion} :
    s.insert i = .ok after ↔
      i.bound ≤ maxBound ∧ (∀ r ∈ i.rows, s.refuses i.table r = false) ∧
      s.checkKeys i.table i.rows = .ok () ∧
      after.referencesHold i.table i.rows = true ∧ after = s.append i.table i.rows := by
  have hbind {β : Type} (x : Except StorageError Unit) (f : Unit → Except StorageError β) (b : β) :
      (x >>= f) = .ok b ↔ x = .ok () ∧ f () = .ok b := by
    cases x <;> simp [bind, Except.bind]
  have hbound : checkBound i.bound = .ok () ↔ i.bound ≤ maxBound := by
    unfold checkBound
    split <;> simp_all
  have hrefuse : s.checkRefusals i.table i.rows = .ok () ↔
      ∀ r ∈ i.rows, s.refuses i.table r = false := by
    unfold checkRefusals
    split <;> simp_all
  simp only [insert, hbind, hbound, hrefuse]
  refine and_congr_right fun _ => and_congr_right fun _ => and_congr_right fun _ => ?_
  constructor
  · intro h
    split at h
    · next hrefs => exact Except.ok.inj h ▸ ⟨hrefs, rfl⟩
    · simp at h
  · rintro ⟨hrefs, rfl⟩
    rw [if_pos hrefs]

/-- The number for a new row of a table, after the last one given and the greatest one in it; a row
that the store refuses is refused before that. -/
def nextNumber (s : Store) (t : Table) (taken : List Int) (last : Int) (row : Int → t.Row) :
    Except StorageError Int := do
  let greatest := taken.foldl max last
  if greatest < maxNumber then .ok (greatest + 1)
  else do
    s.checkRefusals t [row greatest]
    .error .full

/-- Puts rows in, statement by statement; where one fails, nothing has happened. -/
def insertAll (s : Store) (is : List Insertion) : Except StorageError Store :=
  is.foldlM insert s

end Store

end Provenance
