import Provenance.Proofs.Store.Keys

/-!
# Events in batches

The parts of events are read in batches, as many keys at a time as a statement may bind.  Where one
batch ends and the next one begins cannot be seen: each event is completed by the rows that have its
key, whatever other events are in its batch, and so it would be if one statement with all keys read
each table, or one with the key of the event alone.

That the reading fails does not depend on the batches either.  It fails just if a row of one of the
events cannot be read, and there is no such row among those that were captured.

## Main definitions

* `Event.reads` — the statements that read the parts of events.
* `Store.completeAtOnce` — events that are completed by one statement for each table.
* `Store.completeAlone` — an event that is completed by the rows that have its key.

## Main results

* `Event.length_values_le` — **no statement binds too many values.**
* `Store.completeEvents_eq_ok_iff` — **batches cannot be seen.**
* `Store.batches_eq_atOnce` — **rows in batches, written and read.**
-/

namespace Provenance

open Statement

/-! ### Statements -/

/-- Holes for keys, two for each, and the keys that are bound to them. -/
def keyPairs (keys : List PairKey) : Statement :=
  join ", " (keys.map fun k => lit "(" ++ holes [.integer k.1, k.2] ++ lit ")")

namespace Event

/-- The tables of the parts of events, with the columns that are read of them beside the key. -/
def partColumns : List (Table × List String) :=
  [(.epcs, ["epc_type", "value", "quantity", "unit_of_measure"]),
    (.fields, ["field_index", "parent_index", "field_type", "namespace", "name", "text_value",
      "numeric_value", "date_value"]),
    (.transactions, ["transaction_type", "transaction_id"]),
    (.parties, ["direction", "sd_type", "sd_id"]),
    (.declarations, ["declaration_time", "reason"]),
    (.correctives, ["corrective_event_id"])]

/-- The statement that reads columns of a table for some events, in the order of the places that the
rows have, if they have any. -/
def partStatement (keys : List PairKey) (t : Table) (columns : List String) : Statement :=
  lit ("SELECT request_id, event_index, " ++ ", ".intercalate columns ++ " FROM " ++ t.name ++
      " WHERE (request_id, event_index) IN (VALUES ") ++
    keyPairs keys ++
    lit (if t.isIndexed then ") ORDER BY " ++ ", ".intercalate t.keyColumns else ")")

example :
    partStatement [(1, .integer 0), (1, .integer 1)] .correctives ["corrective_event_id"] =
      ⟨"SELECT request_id, event_index, corrective_event_id FROM corrective_event_id" ++
          " WHERE (request_id, event_index) IN (VALUES (?, ?), (?, ?))" ++
          " ORDER BY request_id, event_index, corrective_index",
        [.integer 1, .integer 0, .integer 1, .integer 1]⟩ := by
  decide +kernel

/-- The statements that read the parts of events, batch after batch and table after table. -/
def reads (es : List Event) : List Statement :=
  (chunks keysPerStatement (es.map key)).flatMap fun keys =>
    partColumns.map fun (t, columns) => partStatement keys t columns

@[simp] theorem length_values_keyPairs (keys : List PairKey) :
    (keyPairs keys).values.length = 2 * keys.length := by
  induction keys with
  | nil => rfl
  | cons k keys ih =>
    have hcons : (keyPairs (k :: keys)).values = [.integer k.1, k.2] ++ (keyPairs keys).values :=
      rfl
    rw [hcons, List.length_append, ih, List.length_cons, List.length_cons, List.length_cons,
      List.length_nil]
    omega

/-- Keys that are read together fit into a statement. -/
theorem two_mul_length_le {α : Type} {as piece : List α}
    (h : piece ∈ chunks keysPerStatement as) : 2 * piece.length ≤ maxBound := by
  have hlength : piece.length ≤ keysPerStatement := length_le_of_mem_chunks (by decide) h
  simp only [keysPerStatement, maxBound] at hlength ⊢
  omega

/-- **No statement binds too many values**, however many events there are. -/
theorem length_values_le (es : List Event) : ∀ st ∈ reads es, st.values.length ≤ maxBound := by
  intro st hst
  obtain ⟨keys, hkeys, hst⟩ := List.mem_flatMap.1 hst
  obtain ⟨⟨t, columns⟩, -, rfl⟩ := List.mem_map.1 hst
  have hvalues : (partStatement keys t columns).values = (keyPairs keys).values := by
    simp [partStatement]
  rw [hvalues, length_values_keyPairs]
  exact two_mul_length_le hkeys

end Event

/-! ### Rows by key -/

section Reading

variable {ρ β : Type} {rs : List ρ} {owner : ρ → PairKey} {read : ρ → Except StorageError β}

/-- Reads the rows that belong to some keys with one statement, however many keys there are. -/
def readAtOnce (rs : List ρ) (owner : ρ → PairKey) (read : ρ → Except StorageError β)
    (keys : List PairKey) : Except StorageError (Grouped β) := do
  let parts ← (rs.filter fun r => (Std.HashSet.ofList keys).contains (owner r)).mapM fun r =>
    (read r).map fun b => (owner r, b)
  .ok (group parts)

/-- Reads the rows that belong to one key, in their order. -/
def readAlone (rs : List ρ) (owner : ρ → PairKey) (read : ρ → Except StorageError β)
    (key : PairKey) : Except StorageError (List β) :=
  (rs.filter fun r => owner r == key).mapM read

/-- Within the bound, there is no difference to reading at once. -/
theorem readParts_eq_readAtOnce {keys : List PairKey} (h : 2 * keys.length ≤ maxBound) :
    readParts rs owner read keys = readAtOnce rs owner read keys := by
  rw [readParts, checkBound_eq_ok_iff.2 h]
  rfl

/-- Of what was read together with its keys, that with one key is what is read for it alone. -/
theorem readAlone_of_mapM (key : PairKey) {parts : List (PairKey × β)}
    (h : (rs.mapM fun r => (read r).map fun b => (owner r, b)) = .ok parts) :
    readAlone rs owner read key = .ok ((parts.filter fun p => p.1 == key).map Prod.snd) := by
  induction rs generalizing parts with
  | nil =>
    obtain rfl := Except.ok.inj h
    rfl
  | cons r rs ih =>
    obtain ⟨p, rest, hp, hrest, rfl⟩ := mapM_cons_eq_ok_iff.1 h
    obtain ⟨b, hb, rfl⟩ := map_eq_ok_iff.1 hp
    have hrows := ih hrest
    unfold readAlone at hrows ⊢
    by_cases hkey : owner r = key
    · simp only [List.filter_cons, hkey, beq_self_eq_true, if_true]
      exact mapM_cons_eq_ok_iff.2 ⟨b, _, hb, hrows, rfl⟩
    · have hother : (owner r == key) = false := beq_eq_false_iff_ne.2 hkey
      simp only [List.filter_cons, hother, Bool.false_eq_true, if_false]
      exact hrows

/-- **What is read at once for a key is what is read for it alone.** -/
theorem readAlone_of_readAtOnce {keys : List PairKey} {parts : Grouped β}
    (h : readAtOnce rs owner read keys = .ok parts) {key : PairKey} (hkey : key ∈ keys) :
    readAlone rs owner read key = .ok (parts.getD key []) := by
  obtain ⟨tagged, htagged, hgroup⟩ := bind_eq_ok_iff.1 h
  obtain rfl := Except.ok.inj hgroup
  have hwanted : (rs.filter fun r => (Std.HashSet.ofList keys).contains (owner r)).filter
      (fun r => owner r == key) = rs.filter fun r => owner r == key := by
    rw [List.filter_filter]
    refine List.filter_congr fun r _ => ?_
    by_cases hr : owner r = key
    · simp [hr, hkey]
    · simp [hr]
  have halone := readAlone_of_mapM key htagged
  rw [readAlone, hwanted] at halone
  rw [getD_group]
  exact halone

/-- Where all keys can be read alone, they can be read at once. -/
theorem exists_readAtOnce {keys : List PairKey}
    (h : ∀ key ∈ keys, ∃ bs, readAlone rs owner read key = .ok bs) :
    ∃ parts, readAtOnce rs owner read keys = .ok parts := by
  have hrows : ∃ tagged, ((rs.filter fun r => (Std.HashSet.ofList keys).contains (owner r)).mapM
      fun r => (read r).map fun b => (owner r, b)) = .ok tagged := by
    rw [exists_mapM_iff]
    intro r hr
    obtain ⟨hr, hwanted⟩ := List.mem_filter.1 hr
    have hkey : owner r ∈ keys := by simpa using hwanted
    -- the row is read along with the others that have its key
    have hown := exists_mapM_iff.1 (h (owner r) hkey) r (List.mem_filter.2 ⟨hr, beq_self_eq_true _⟩)
    obtain ⟨b, hb⟩ := hown
    exact ⟨(owner r, b), map_eq_ok_iff.2 ⟨b, hb, rfl⟩⟩
  obtain ⟨tagged, htagged⟩ := hrows
  exact ⟨group tagged, bind_eq_ok_iff.2 ⟨tagged, htagged, rfl⟩⟩

end Reading

/-! ### Events -/

namespace Store

/-- The parts of events, read by one statement for each table. -/
def readEventPartsAtOnce (s : Store) (keys : List PairKey) : Except StorageError EventParts := do
  let epcs ← readAtOnce s.epcs EpcRow.owner EpcRow.decode keys
  let fields ← readAtOnce s.fields FieldRow.owner FieldRow.decode keys
  let transactions ← readAtOnce s.transactions TransactionRow.owner (fun r => .ok r.decode) keys
  let parties ← readAtOnce s.parties PartyRow.owner PartyRow.decode keys
  let declarations ← readAtOnce s.declarations DeclarationRow.owner DeclarationRow.decode keys
  let correctives ← readAtOnce s.correctives CorrectiveRow.owner (fun r => .ok r.id) keys
  .ok ⟨epcs, fields, transactions, parties, declarations, correctives⟩

/-- Events with their parts, which one statement for each table reads. -/
def completeAtOnce (s : Store) (es : List Event) : Except StorageError (List Event) :=
  (s.readEventPartsAtOnce (es.map Event.key)).map fun parts => es.map (Event.complete parts)

/-- An event with its own parts: all rows that have its key, in their order. -/
def completeAlone (s : Store) (e : Event) : Except StorageError Event := do
  let epcs ← readAlone s.epcs EpcRow.owner EpcRow.decode e.key
  let fields ← readAlone s.fields FieldRow.owner FieldRow.decode e.key
  let transactions ← readAlone s.transactions TransactionRow.owner (fun r => .ok r.decode) e.key
  let parties ← readAlone s.parties PartyRow.owner PartyRow.decode e.key
  let declarations ← readAlone s.declarations DeclarationRow.owner DeclarationRow.decode e.key
  let correctives ← readAlone s.correctives CorrectiveRow.owner (fun r => .ok r.id) e.key
  .ok { e with
    epcs := epcs
    customFields := CustomField.ofPlaced fields
    businessTransactions := transactions
    parties := parties
    errorDeclaration := declarations.getLast?.map fun d => { d with correctiveIds := correctives } }

variable {s : Store}

/-- **Parts that were read at once are attached to their own events.** -/
theorem completeAlone_of_readAtOnce {keys : List PairKey} {parts : EventParts}
    (h : s.readEventPartsAtOnce keys = .ok parts) {e : Event} (he : e.key ∈ keys) :
    s.completeAlone e = .ok (e.complete parts) := by
  obtain ⟨epcs, hepcs, h⟩ := bind_eq_ok_iff.1 h
  obtain ⟨fields, hfields, h⟩ := bind_eq_ok_iff.1 h
  obtain ⟨transactions, htransactions, h⟩ := bind_eq_ok_iff.1 h
  obtain ⟨parties, hparties, h⟩ := bind_eq_ok_iff.1 h
  obtain ⟨declarations, hdeclarations, h⟩ := bind_eq_ok_iff.1 h
  obtain ⟨correctives, hcorrectives, h⟩ := bind_eq_ok_iff.1 h
  obtain rfl := Except.ok.inj h
  rw [completeAlone, readAlone_of_readAtOnce hepcs he, readAlone_of_readAtOnce hfields he,
    readAlone_of_readAtOnce htransactions he, readAlone_of_readAtOnce hparties he,
    readAlone_of_readAtOnce hdeclarations he, readAlone_of_readAtOnce hcorrectives he]
  rfl

/-- That all rows that have a key can be read. -/
structure IsReadable (s : Store) (key : PairKey) : Prop where
  epcs : ∃ bs, readAlone s.epcs EpcRow.owner EpcRow.decode key = .ok bs
  fields : ∃ bs, readAlone s.fields FieldRow.owner FieldRow.decode key = .ok bs
  transactions : ∃ bs, readAlone s.transactions TransactionRow.owner
    (fun r => (.ok r.decode : Except StorageError _)) key = .ok bs
  parties : ∃ bs, readAlone s.parties PartyRow.owner PartyRow.decode key = .ok bs
  declarations : ∃ bs,
    readAlone s.declarations DeclarationRow.owner DeclarationRow.decode key = .ok bs
  correctives : ∃ bs, readAlone s.correctives CorrectiveRow.owner
    (fun r => (.ok r.id : Except StorageError _)) key = .ok bs

theorem isReadable_of_completeAlone {e d : Event} (h : s.completeAlone e = .ok d) :
    s.IsReadable e.key := by
  obtain ⟨epcs, hepcs, h⟩ := bind_eq_ok_iff.1 h
  obtain ⟨fields, hfields, h⟩ := bind_eq_ok_iff.1 h
  obtain ⟨transactions, htransactions, h⟩ := bind_eq_ok_iff.1 h
  obtain ⟨parties, hparties, h⟩ := bind_eq_ok_iff.1 h
  obtain ⟨declarations, hdeclarations, h⟩ := bind_eq_ok_iff.1 h
  obtain ⟨correctives, hcorrectives, -⟩ := bind_eq_ok_iff.1 h
  exact ⟨⟨_, hepcs⟩, ⟨_, hfields⟩, ⟨_, htransactions⟩, ⟨_, hparties⟩, ⟨_, hdeclarations⟩,
    ⟨_, hcorrectives⟩⟩

/-- Where the rows of each key can be read, they can be read at once. -/
theorem exists_readEventPartsAtOnce {keys : List PairKey} (h : ∀ key ∈ keys, s.IsReadable key) :
    ∃ parts, s.readEventPartsAtOnce keys = .ok parts := by
  obtain ⟨epcs, hepcs⟩ := exists_readAtOnce fun key hkey => (h key hkey).epcs
  obtain ⟨fields, hfields⟩ := exists_readAtOnce fun key hkey => (h key hkey).fields
  obtain ⟨transactions, htransactions⟩ :=
    exists_readAtOnce fun key hkey => (h key hkey).transactions
  obtain ⟨parties, hparties⟩ := exists_readAtOnce fun key hkey => (h key hkey).parties
  obtain ⟨declarations, hdeclarations⟩ :=
    exists_readAtOnce fun key hkey => (h key hkey).declarations
  obtain ⟨correctives, hcorrectives⟩ := exists_readAtOnce fun key hkey => (h key hkey).correctives
  rw [readEventPartsAtOnce, hepcs, hfields, htransactions, hparties, hdeclarations, hcorrectives]
  exact ⟨_, rfl⟩

/-- **Events are completed at once just as they are completed alone.** -/
theorem completeAtOnce_eq_ok_iff {es done : List Event} :
    s.completeAtOnce es = .ok done ↔ es.mapM s.completeAlone = .ok done := by
  have hparts {parts : EventParts}
      (h : s.readEventPartsAtOnce (es.map Event.key) = .ok parts) :
      es.mapM s.completeAlone = .ok (es.map (Event.complete parts)) := by
    have hes : es.map id = es := List.map_id es
    rw [← hes, List.map_map]
    exact mapM_map_eq_ok fun e he => completeAlone_of_readAtOnce h (List.mem_map_of_mem he)
  constructor
  · intro h
    obtain ⟨parts, hread, rfl⟩ := map_eq_ok_iff.1 h
    exact hparts hread
  · intro h
    have hreadable : ∀ key ∈ es.map Event.key, s.IsReadable key := by
      intro key hkey
      obtain ⟨e, he, rfl⟩ := List.mem_map.1 hkey
      obtain ⟨d, hd⟩ := exists_mapM_iff.1 ⟨done, h⟩ e he
      exact isReadable_of_completeAlone hd
    obtain ⟨parts, hread⟩ := exists_readEventPartsAtOnce hreadable
    obtain rfl := Except.ok.inj ((hparts hread).symm.trans h)
    exact map_eq_ok_iff.2 ⟨parts, hread, rfl⟩

/-- A batch fits into one statement for each table. -/
theorem completeBatch_eq_completeAtOnce {es piece : List Event}
    (h : piece ∈ chunks keysPerStatement es) : s.completeBatch piece = s.completeAtOnce piece := by
  have hbound : 2 * (piece.map Event.key).length ≤ maxBound := by
    rw [List.length_map]
    exact Event.two_mul_length_le h
  have hread : s.readEventParts (piece.map Event.key) =
      s.readEventPartsAtOnce (piece.map Event.key) := by
    simp only [readEventParts, readEventPartsAtOnce, readParts_eq_readAtOnce hbound]
  rw [completeBatch, hread, completeAtOnce]
  cases s.readEventPartsAtOnce (piece.map Event.key) <;> rfl

theorem mapM_congr_left {ε α β : Type} {f g : α → Except ε β} {as : List α}
    (h : ∀ a ∈ as, f a = g a) : as.mapM f = as.mapM g := by
  induction as with
  | nil => rfl
  | cons a as ih =>
    rw [List.mapM_cons, List.mapM_cons, h a List.mem_cons_self,
      ih fun b hb => h b (List.mem_cons_of_mem _ hb)]

/-- Members are read one after the other, whatever pieces they are read in. -/
theorem mapM_flatten_eq_ok_iff {ε α β : Type} {f : α → Except ε β}
    {g : List α → Except ε (List β)} {pieces : List (List α)}
    (h : ∀ piece ∈ pieces, ∀ bs, g piece = .ok bs ↔ piece.mapM f = .ok bs) (bs : List β) :
    (∃ read, pieces.mapM g = .ok read ∧ read.flatten = bs) ↔ pieces.flatten.mapM f = .ok bs := by
  induction pieces generalizing bs with
  | nil =>
    constructor
    · rintro ⟨read, hread, rfl⟩
      obtain rfl := Except.ok.inj hread
      rfl
    · intro hbs
      obtain rfl := Except.ok.inj hbs
      exact ⟨[], rfl, rfl⟩
  | cons piece pieces ih =>
    have hpiece := h piece List.mem_cons_self
    have hrest (bs : List β) := ih (fun p hp => h p (List.mem_cons_of_mem _ hp)) bs
    rw [List.flatten_cons, List.mapM_append, bind_eq_ok_iff]
    constructor
    · rintro ⟨read, hread, rfl⟩
      obtain ⟨first, rest, hfirst, hothers, rfl⟩ := mapM_cons_eq_ok_iff.1 hread
      exact ⟨first, (hpiece first).1 hfirst,
        bind_eq_ok_iff.2 ⟨rest.flatten, (hrest _).1 ⟨rest, hothers, rfl⟩, rfl⟩⟩
    · rintro ⟨first, hfirst, hothers⟩
      obtain ⟨others, hothers, hbs⟩ := bind_eq_ok_iff.1 hothers
      obtain ⟨rest, hread, rfl⟩ := (hrest _).2 hothers
      obtain rfl := Except.ok.inj hbs
      exact ⟨first :: rest,
        mapM_cons_eq_ok_iff.2 ⟨first, rest, (hpiece first).2 hfirst, hread, rfl⟩, rfl⟩

/-- No batch is too large for its statements. -/
theorem completeEvents_eq (s : Store) (es : List Event) :
    s.completeEvents es =
      ((chunks keysPerStatement es).mapM s.completeAtOnce).map List.flatten := by
  have hbatches : (chunks keysPerStatement es).mapM s.completeBatch =
      (chunks keysPerStatement es).mapM s.completeAtOnce :=
    mapM_congr_left fun _ hpiece => completeBatch_eq_completeAtOnce hpiece
  rw [completeEvents, hbatches]
  cases (chunks keysPerStatement es).mapM s.completeAtOnce <;> rfl

/-- **Batches cannot be seen**: each event is completed as if it were alone. -/
theorem completeEvents_eq_ok_iff {es done : List Event} :
    s.completeEvents es = .ok done ↔ es.mapM s.completeAlone = .ok done := by
  have hpieces := mapM_flatten_eq_ok_iff
    (fun piece (_ : piece ∈ chunks keysPerStatement es) _ => s.completeAtOnce_eq_ok_iff) done
  rw [flatten_chunks] at hpieces
  rw [completeEvents_eq, map_eq_ok_iff, hpieces]

/-! ### Rows in batches, written and read -/

/-- **Rows in batches, written and read.**

* For any table and any columns of which a row fits into a statement, no statement binds too many
  values, and the rows are written one after the other, each of them once; their number is told.
* For the tables of the store this is what one statement with all rows would do.
* The statements that read the parts of events do not bind too many values, so no batch of events
  fails for that; and the events are those that one statement for each table would give: each of
  them with all rows that have its key, in their order.
* The rows that were captured are in the order of their places, and where a query can be carried out,
  the parts of the events that it selects can be read. -/
theorem batches_eq_atOnce :
    (∀ b : Bulk, 1 ≤ b.width → b.width ≤ maxBound → (∀ row ∈ b.rows, row.length = b.width) →
      (∀ st ∈ b.statements, st.values.length ≤ maxBound) ∧
      (∀ (σ : Type) (write : σ → List Cell → Except StorageError σ) (s : σ),
        b.execute write s = (b.rows.foldlM write s).map fun after => (after, b.rows.length)) ∧
      ∀ before : List (List Cell), b.execute (fun rows row => .ok (rows ++ [row])) before =
        .ok (before ++ b.rows, b.rows.length)) ∧
    (∀ (t : Table) (rs : List t.Row),
      (Insertion.bulk t rs).map Insertion.bound =
        ((Bulk.ofRows t rs).statements.map fun st => st.values.length) ∧
      (∀ i ∈ Insertion.bulk t rs, i.bound ≤ maxBound) ∧
      ∀ s after : Store, s.insertAll (Insertion.bulk t rs) = .ok after ↔
        s.insert ⟨t, rs, 0⟩ = .ok after) ∧
    (∀ es : List Event, ∀ st ∈ Event.reads es, st.values.length ≤ maxBound) ∧
    (∀ (s : Store) (es : List Event),
      s.completeEvents es =
        ((chunks keysPerStatement es).mapM s.completeAtOnce).map List.flatten ∧
      ∀ done : List Event,
        (s.completeEvents es = .ok done ↔ s.completeAtOnce es = .ok done) ∧
        (s.completeEvents es = .ok done ↔ es.mapM s.completeAlone = .ok done)) ∧
    ∀ s : Store, s.Reachable →
      (∀ t : Table, t.isIndexed = true → Dense (s.keys t)) ∧
      ∀ q : EventQuery, q.checkStatement = .ok () →
        ∃ es done, (q.rows s).mapM EventRow.decode = .ok es ∧ q.fetch s = .ok done ∧
          s.completeAtOnce es = .ok done ∧ es.mapM s.completeAlone = .ok done := by
  refine ⟨fun b hpos hwidth hmatch => ⟨b.length_values_le hmatch hwidth, ?_,
      b.execute_append hmatch hpos hwidth⟩,
    fun t rs => ⟨Bulk.map_bound_bulk t rs, fun i hi => (Insertion.of_mem_bulk hi).2,
      fun s after => insertAll_bulk_eq_ok_iff⟩,
    Event.length_values_le,
    fun s es => ⟨s.completeEvents_eq es, fun done => ⟨?_, s.completeEvents_eq_ok_iff⟩⟩,
    fun s hs => ?_⟩
  · exact fun σ write s => b.execute_eq hmatch hpos hwidth write s
  · rw [completeEvents_eq_ok_iff, completeAtOnce_eq_ok_iff]
  · obtain ⟨cs, -, hj⟩ := hs.exists_journal
    refine ⟨fun t ht => hj.dense ht, fun q hq => ?_⟩
    obtain ⟨xs, -, -, hfetch⟩ := hj.fetch_eq_ok hq
    obtain ⟨_, -, hread⟩ := bind_eq_ok_iff.1 hfetch
    obtain ⟨es, hes, hdone⟩ := bind_eq_ok_iff.1 hread
    have halone := completeEvents_eq_ok_iff.1 hdone
    exact ⟨es, _, hes, hfetch, completeAtOnce_eq_ok_iff.2 halone, halone⟩

/-- Two rows with the same number of columns. -/
def wideBulk (n : Nat) : Bulk :=
  ⟨"wide", List.replicate n "c", [List.replicate n .null, List.replicate n (.integer 1)]⟩

theorem width_wideBulk (n : Nat) : (wideBulk n).width = n := List.length_replicate

theorem length_of_mem_wideBulk {n : Nat} :
    ∀ row ∈ (wideBulk n).rows, row.length = (wideBulk n).width := by
  simp [wideBulk, Bulk.width]

/-- An event with some objects. -/
def palletEvent (index : Int) (epcs : List Epc) : Event where
  id := some ⟨1, index⟩
  kind := .object
  time := .epoch
  recordTime := some .epoch
  timezoneOffset := "+00:00"
  action := some .add
  businessStep := none
  disposition := none
  readPoint := none
  businessLocation := none
  name := none
  transformation := none
  errorDeclaration := none
  epcs := epcs
  customFields := []
  businessTransactions := []
  parties := []

/-- The objects of two events. -/
def palletEpcs : List Epc × List Epc :=
  ([⟨.list, "a", none, none⟩, ⟨.list, "b", none, none⟩], [⟨.list, "c", none, none⟩])

/-- A store with a request of two events. -/
def palletStore : Store :=
  Store.empty.record
    ⟨1, ⟨.epoch, "1.2", none, none, [palletEvent 0 palletEpcs.1, palletEvent 1 palletEpcs.2], []⟩,
      none, .epoch⟩

/-- Two rows of many columns are written by two statements, and two events have their own objects
each. -/
theorem batches_eq_atOnce_wide :
    (1 ≤ (wideBulk 20000).width ∧ (wideBulk 20000).width ≤ maxBound ∧
      ∀ row ∈ (wideBulk 20000).rows, row.length = (wideBulk 20000).width) ∧
    ((wideBulk 20000).statements.map fun st => st.values.length) = [20000, 20000] ∧
    (wideBulk 20000).execute (fun rows row => .ok (rows ++ [row])) [] =
      .ok ((wideBulk 20000).rows, 2) ∧
    palletStore.completeEvents [palletEvent 0 [], palletEvent 1 []] =
      .ok [palletEvent 0 palletEpcs.1, palletEvent 1 palletEpcs.2] ∧
    palletStore.Reachable ∧ EventQuery.all.checkStatement = .ok () ∧
    ∃ done, EventQuery.all.fetch palletStore = .ok done := by
  have hpos : 1 ≤ (wideBulk 20000).width := by
    rw [width_wideBulk]
    decide
  have hwidth : (wideBulk 20000).width ≤ maxBound := by
    rw [width_wideBulk]
    decide
  have hcapture : Store.empty.capture
      ⟨.epoch, "1.2", none, none, [palletEvent 0 palletEpcs.1, palletEvent 1 palletEpcs.2], []⟩
      none .epoch = .ok (palletStore, 1) :=
    Store.capture_of_admitsAll (by simp [Store.empty]) (by decide) (by decide +kernel)
  have hreachable : palletStore.Reachable := .step .empty (.capture hcapture)
  have hcheck : EventQuery.all.checkStatement = .ok () := rfl
  obtain ⟨hbulk, -, -, hevents, hfetch⟩ := batches_eq_atOnce
  refine ⟨⟨hpos, hwidth, length_of_mem_wideBulk⟩, ?_,
    (hbulk _ hpos hwidth length_of_mem_wideBulk).2.2 [], ((hevents _ _).2 _).2.2 rfl, hreachable,
    hcheck, ?_⟩
  · -- there is room for one such row in a statement
    have hone : Insertion.rowsPerStatement 20000 = 1 := by decide
    rw [Bulk.statements, width_wideBulk, Insertion.batches, hone]
    simp only [wideBulk, chunks, List.map_cons, List.take_zero, List.drop_zero, List.map_nil,
      Bulk.values_statement, List.flatten_cons, List.flatten_nil, List.append_nil,
      List.length_replicate, Nat.sub_self]
  · obtain ⟨-, hqueries⟩ := hfetch _ hreachable
    obtain ⟨_, done, -, hdone, -⟩ := hqueries _ hcheck
    exact ⟨done, hdone⟩

end Store

end Provenance
