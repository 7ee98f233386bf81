import Provenance.Proofs.Store.Insertion
import Provenance.Query.Statement

/-!
# Rows in batches

Rows are put in by as few statements as the bound on values allows.  A statement has a group of
holes for each row, with a hole for each column, and all values of its rows are bound to the holes in
one list.  The store takes them apart again by the number of columns.

What all statements do together is what one would do that may bind any number of values: the rows are
written one after the other, each of them once.  This holds for any columns, if the values of a row
fit into a statement at all, and however the store writes a row.

## Main definitions

* `Bulk`, `Bulk.statements`, `Bulk.execute` — rows of any table, and the statements for them.
* `Bulk.ofRows` — rows of a table of the store.

## Main results

* `Bulk.length_values_le` — **no statement binds too many values.**
* `Bulk.execute_eq` — **rows in batches are written one after the other.**
* `Store.insertAll_bulk_eq_ok_iff` — the same for the tables of the store.
-/

namespace Provenance

/-! ### Pieces of a list -/

theorem chunks_map {α β : Type} (f : α → β) (n : Nat) (as : List α) :
    chunks n (as.map f) = (chunks n as).map (List.map f) := by
  fun_induction chunks n as with
  | case1 => simp
  | case2 a as ih =>
    rw [List.map_cons, chunks, ← List.map_take, ← List.map_drop, ih]
    rfl

theorem mem_of_mem_chunks {α : Type} {n : Nat} {as piece : List α} {a : α}
    (hpiece : piece ∈ chunks n as) (ha : a ∈ piece) : a ∈ as := by
  rw [← flatten_chunks n as]
  exact List.mem_flatten.2 ⟨piece, hpiece, ha⟩

/-- Lists of one length are found again in what they make together. -/
theorem chunks_flatten {α : Type} {n : Nat} (hn : 0 < n) {pieces : List (List α)}
    (h : ∀ piece ∈ pieces, piece.length = n) : chunks n pieces.flatten = pieces := by
  induction pieces with
  | nil => simp
  | cons piece pieces ih =>
    obtain ⟨a, as, rfl⟩ := List.exists_cons_of_length_pos
      (Nat.lt_of_lt_of_eq hn (h piece List.mem_cons_self).symm)
    have hlength : as.length = n - 1 := by
      have := h (a :: as) List.mem_cons_self
      rw [List.length_cons] at this
      omega
    rw [List.flatten_cons, List.cons_append, chunks, List.take_left' hlength,
      List.drop_left' hlength, ih fun p hp => h p (List.mem_cons_of_mem _ hp)]

theorem length_flatten_of_forall {α : Type} {n : Nat} {pieces : List (List α)}
    (h : ∀ piece ∈ pieces, piece.length = n) : pieces.flatten.length = pieces.length * n := by
  rw [List.length_flatten, List.map_congr_left h, List.map_const', List.sum_replicate_nat]

/-- **The values of the rows for one statement are not too many**, if those of a row are not. -/
theorem Insertion.length_mul_le_maxBound {ρ : Type} {width : Nat} (hwidth : width ≤ maxBound)
    {rs batch : List ρ} (hbatch : batch ∈ batches width rs) : batch.length * width ≤ maxBound := by
  have hpos : 0 < rowsPerStatement width := Nat.le_max_right _ _
  have hlength : batch.length ≤ rowsPerStatement width := length_le_of_mem_chunks hpos hbatch
  have hfull : rowsPerStatement width * width ≤ maxBound := by
    rcases Nat.le_total (maxBound / width) 1 with hone | hmany
    · rw [rowsPerStatement, Nat.max_eq_right hone, Nat.one_mul]
      exact hwidth
    · rw [rowsPerStatement, Nat.max_eq_left hmany]
      exact Nat.div_mul_le_self maxBound width
  exact Nat.le_trans (Nat.mul_le_mul_right width hlength) hfull

/-! ### Rows of any table -/

/-- Rows that are to be put into a table of the database, with the values of the columns in order. -/
structure Bulk where
  table : String
  columns : List String
  rows : List (List Cell)

namespace Bulk

open Statement

/-- How many columns have values. -/
def width (b : Bulk) : Nat := b.columns.length

/-- The statement that puts in some of the rows: a group of holes for each row. -/
def statement (b : Bulk) (batch : List (List Cell)) : Statement :=
  lit ("INSERT INTO " ++ b.table ++ " (" ++ ", ".intercalate b.columns ++ ") VALUES ") ++
    join ", " (batch.map fun row => lit "(" ++ holes row ++ lit ")")

/-- The statements that put in the rows. -/
def statements (b : Bulk) : List Statement :=
  (Insertion.batches b.width b.rows).map b.statement

example :
    (Bulk.mk "pending_request" ["subscription_id", "request_id"]
      [[.integer 1, .integer 2], [.integer 1, .integer 3]]).statements =
      [⟨"INSERT INTO pending_request (subscription_id, request_id) VALUES (?, ?), (?, ?)",
        [.integer 1, .integer 2, .integer 1, .integer 3]⟩] := by
  simp [statements, Insertion.batches, Insertion.rowsPerStatement, width, maxBound, chunks]
  rfl

section Execution

variable {σ : Type} (b : Bulk) (write : σ → List Cell → Except StorageError σ)

/-- What the store does with a statement: it takes the values apart into rows, writes these one after
the other, and tells how many they are. -/
def perform (s : σ) (statement : Statement) : Except StorageError (σ × Nat) := do
  checkBound statement.values.length
  let rows := chunks b.width statement.values
  let after ← rows.foldlM write s
  .ok (after, rows.length)

/-- Carries out one more statement, and adds the number of its rows to those before. -/
def performNext (done : σ × Nat) (statement : Statement) : Except StorageError (σ × Nat) :=
  (b.perform write done.1 statement).map fun next => (next.1, done.2 + next.2)

/-- Puts the rows in, statement by statement, and tells how many they are. -/
def execute (s : σ) : Except StorageError (σ × Nat) :=
  b.statements.foldlM (b.performNext write) (s, 0)

end Execution

variable {b : Bulk}

@[simp] theorem values_statement (b : Bulk) (batch : List (List Cell)) :
    (b.statement batch).values = batch.flatten := by
  simp [statement, join, List.flatMap_map, List.flatMap_id']

section Matching

variable (hmatch : ∀ row ∈ b.rows, row.length = b.width)
include hmatch

theorem length_of_mem_batch {batch : List (List Cell)}
    (hbatch : batch ∈ Insertion.batches b.width b.rows) : ∀ row ∈ batch, row.length = b.width :=
  fun row hrow => hmatch row (mem_of_mem_chunks hbatch hrow)

/-- **No statement binds too many values**, if the values of a row are not too many. -/
theorem length_values_le (hwidth : b.width ≤ maxBound) :
    ∀ st ∈ b.statements, st.values.length ≤ maxBound := by
  intro st hst
  obtain ⟨batch, hbatch, rfl⟩ := List.mem_map.1 hst
  rw [values_statement, length_flatten_of_forall (length_of_mem_batch hmatch hbatch)]
  exact Insertion.length_mul_le_maxBound hwidth hbatch

/-- A statement writes its rows one after the other. -/
theorem perform_statement (hpos : 1 ≤ b.width) (hwidth : b.width ≤ maxBound) {σ : Type}
    (write : σ → List Cell → Except StorageError σ) (s : σ) {batch : List (List Cell)}
    (hbatch : batch ∈ Insertion.batches b.width b.rows) :
    b.perform write s (b.statement batch) =
      (batch.foldlM write s).map fun after => (after, batch.length) := by
  have hrows : chunks b.width (b.statement batch).values = batch := by
    rw [values_statement, chunks_flatten hpos (length_of_mem_batch hmatch hbatch)]
  have hbound : checkBound (b.statement batch).values.length = .ok () :=
    checkBound_eq_ok_iff.2 (length_values_le hmatch hwidth _ (List.mem_map_of_mem hbatch))
  rw [perform, hbound, hrows]
  rfl

/-- **Rows in batches are written one after the other**, each of them once. -/
theorem execute_eq (hpos : 1 ≤ b.width) (hwidth : b.width ≤ maxBound) {σ : Type}
    (write : σ → List Cell → Except StorageError σ) (s : σ) :
    b.execute write s = (b.rows.foldlM write s).map fun after => (after, b.rows.length) := by
  -- `n` rows were written by the statements before
  have hall (pieces : List (List (List Cell))) (s : σ) (n : Nat)
      (hpieces : ∀ piece ∈ pieces, piece ∈ Insertion.batches b.width b.rows) :
      (pieces.map b.statement).foldlM (b.performNext write) (s, n) =
        (pieces.flatten.foldlM write s).map fun after => (after, n + pieces.flatten.length) := by
    induction pieces generalizing s n with
    | nil => rfl
    | cons piece pieces ih =>
      have hfirst := perform_statement hmatch hpos hwidth write s (hpieces piece List.mem_cons_self)
      rw [List.map_cons, List.foldlM_cons, performNext, hfirst, List.flatten_cons,
        List.foldlM_append]
      cases piece.foldlM write s with
      | error e => rfl
      | ok mid =>
        have hrest := ih mid (n + piece.length) fun p hp => hpieces p (List.mem_cons_of_mem _ hp)
        rw [List.length_append, ← Nat.add_assoc]
        exact hrest
  have hrows : (Insertion.batches b.width b.rows).flatten = b.rows := flatten_chunks _ _
  have hexecute := hall _ s 0 fun _ h => h
  rwa [hrows, Nat.zero_add] at hexecute

/-- Where the store takes every row, it has all of them in the end, behind those before. -/
theorem execute_append (hpos : 1 ≤ b.width) (hwidth : b.width ≤ maxBound)
    (before : List (List Cell)) :
    b.execute (fun rows row => .ok (rows ++ [row])) before =
      .ok (before ++ b.rows, b.rows.length) := by
  have hwritten (rows before : List (List Cell)) :
      rows.foldlM (fun rows row => (.ok (rows ++ [row]) : Except StorageError _)) before =
        .ok (before ++ rows) := by
    induction rows generalizing before with
    | nil => exact congrArg Except.ok (List.append_nil before).symm
    | cons row rows ih =>
      rw [List.foldlM_cons]
      exact (ih (before ++ [row])).trans (congrArg Except.ok (by simp))
  rw [execute_eq hmatch hpos hwidth, hwritten]
  rfl

end Matching

/-- The rows of a table of the store. -/
def ofRows (t : Table) (rs : List t.Row) : Bulk :=
  ⟨t.name, t.columns.map Column.name, rs.map t.cells⟩

theorem width_ofRows (t : Table) (rs : List t.Row) : (ofRows t rs).width = t.width :=
  List.length_map _

/-- The insertions into a table bind as many values as the statements that stand for them. -/
theorem map_bound_bulk (t : Table) (rs : List t.Row) :
    (Insertion.bulk t rs).map Insertion.bound =
      (ofRows t rs).statements.map fun st => st.values.length := by
  have hbatches : Insertion.batches (ofRows t rs).width (ofRows t rs).rows =
      (Insertion.batches t.width rs).map (List.map t.cells) := by
    rw [width_ofRows]
    exact chunks_map t.cells _ rs
  rw [Insertion.bulk, statements, hbatches, List.map_map, List.map_map, List.map_map]
  refine List.map_congr_left fun batch _ => ?_
  have hcells : ∀ row ∈ batch.map t.cells, row.length = t.width := by
    intro row hrow
    obtain ⟨r, -, rfl⟩ := List.mem_map.1 hrow
    exact t.length_cells r
  simp only [Function.comp_apply, values_statement, length_flatten_of_forall hcells,
    List.length_map]
  rfl

end Bulk

/-! ### Rows of the tables of the store -/

namespace Table

theorem width_le_maxBound (t : Table) : t.width ≤ maxBound := by
  cases t <;> decide

/-- No row refers to rows of its own table. -/
theorem ne_of_mem_references {t : Table} : ∀ ref ∈ t.references, ref.1 ≠ t := by
  cases t <;> simp [references]

end Table

/-- The insertions into a table do not bind too many values. -/
theorem Insertion.of_mem_bulk {t : Table} {rs : List t.Row} {i : Insertion} (h : i ∈ bulk t rs) :
    i.table = t ∧ i.bound ≤ maxBound := by
  obtain ⟨batch, hbatch, rfl⟩ := List.mem_map.1 h
  exact ⟨rfl, length_mul_le_maxBound t.width_le_maxBound hbatch⟩

namespace Store

variable {s after : Store} {t : Table}

theorem keys_append_self (s : Store) (t : Table) (rs : List t.Row) :
    (s.append t rs).keys t = s.keys t ++ rs.map t.key := by
  rw [keys, append, rows_setRows_self, List.map_append]
  rfl

theorem keys_append_of_ne (s : Store) {t u : Table} (h : t ≠ u) (rs : List t.Row) :
    (s.append t rs).keys u = s.keys u := by
  rw [keys, append, rows_setRows_of_ne s h]
  rfl

theorem append_append (s : Store) (t : Table) (as bs : List t.Row) :
    (s.append t as).append t bs = s.append t (as ++ bs) := by
  cases t <;> simp [append, setRows, rows]

theorem refuses_append (s : Store) (t : Table) (rs : List t.Row) (r : t.Row) :
    (s.append t rs).refuses t r = s.refuses t r := by
  rw [refuses, append, refusals_setRows]
  rfl

/-- What refers to other tables does not see what is added to its own. -/
theorem referencesHold_append {rs : List t.Row} (more : List t.Row) :
    (s.append t more).referencesHold t rs = true ↔ s.referencesHold t rs = true := by
  rw [referencesHold_iff, referencesHold_iff]
  refine forall₂_congr fun ref href => ?_
  rw [keys_append_of_ne s (Table.ne_of_mem_references ref href).symm]

/-- Keys are new, and so are more keys beside them, just if all of them are. -/
theorem nodup_append_fresh {κ : Type} {seen ks ls : List κ} :
    ((ks ++ ls).Nodup ∧ ∀ k ∈ ks ++ ls, k ∉ seen) ↔
      (ks.Nodup ∧ ∀ k ∈ ks, k ∉ seen) ∧ ls.Nodup ∧ ∀ l ∈ ls, l ∉ seen ++ ks := by
  simp only [List.nodup_append, List.mem_append, not_or]
  grind

theorem checkKeys_append {as bs : List t.Row} :
    s.checkKeys t (as ++ bs) = .ok () ↔
      s.checkKeys t as = .ok () ∧ (s.append t as).checkKeys t bs = .ok () := by
  have hrows : (s.append t as).rows t = s.rows t ++ as := rows_setRows_self _ _ _
  simp only [checkKeys_eq_ok_iff, keys_append_self, hrows, List.map_append, List.filterMap_append,
    nodup_append_fresh]
  grind

/-- Rows can be put in just if those in front can, and the others after them. -/
theorem insert_append_eq_ok_iff {as bs : List t.Row} :
    s.insert ⟨t, as ++ bs, 0⟩ = .ok after ↔
      ∃ mid, s.insert ⟨t, as, 0⟩ = .ok mid ∧ mid.insert ⟨t, bs, 0⟩ = .ok after := by
  simp only [insert_eq_ok_iff, Nat.zero_le, true_and, checkKeys_append]
  constructor
  · rintro ⟨hrefuse, ⟨has, hbs⟩, hrefs, rfl⟩
    rw [referencesHold_append] at hrefs
    have hrefs' := referencesHold_iff.1 hrefs
    refine ⟨s.append t as, ⟨fun r hr => hrefuse r (List.mem_append_left _ hr), has, ?_, rfl⟩,
      fun r hr => ?_, hbs, ?_, ?_⟩
    · rw [referencesHold_append, referencesHold_iff]
      exact fun ref href r hr => hrefs' ref href r (List.mem_append_left _ hr)
    · rw [refuses_append]
      exact hrefuse r (List.mem_append_right _ hr)
    · rw [referencesHold_append, referencesHold_iff]
      exact fun ref href r hr => hrefs' ref href r (List.mem_append_right _ hr)
    · exact (append_append s t as bs).symm
  · rintro ⟨_, ⟨hrefuseAs, has, hrefsAs, rfl⟩, hrefuseBs, hbs, hrefsBs, rfl⟩
    simp only [append_append, referencesHold_append, refuses_append] at hrefsAs hrefsBs hrefuseBs ⊢
    refine ⟨fun r hr => ?_, ⟨has, hbs⟩, referencesHold_iff.2 fun ref href r hr => ?_, trivial⟩
    · exact (List.mem_append.1 hr).elim (hrefuseAs r) (hrefuseBs r)
    · exact (List.mem_append.1 hr).elim (referencesHold_iff.1 hrefsAs ref href r)
        (referencesHold_iff.1 hrefsBs ref href r)

/-- **Rows in batches are put in just if they can be put in at once**, where no values are counted,
and with the same result. -/
theorem insertAll_bulk_eq_ok_iff {rs : List t.Row} :
    s.insertAll (Insertion.bulk t rs) = .ok after ↔ s.insert ⟨t, rs, 0⟩ = .ok after := by
  have hall (pieces : List (List t.Row)) (s : Store)
      (hpieces : ∀ piece ∈ pieces, piece.length * t.width ≤ maxBound) :
      s.insertAll (pieces.map (Insertion.ofRows t)) = .ok after ↔
        s.insert ⟨t, pieces.flatten, 0⟩ = .ok after := by
    induction pieces generalizing s with
    | nil =>
      have hsame : s.append t [] = s := by rw [append, List.append_nil, setRows_rows]
      have hkeys : s.checkKeys t [] = .ok () := checkKeys_eq_ok_iff.2 (by simp)
      have hinsert : s.insert ⟨t, [], 0⟩ = .ok s :=
        insert_eq_ok_iff.2 ⟨Nat.zero_le _, by simp, hkeys, referencesHold_iff.2 (by simp), hsame.symm⟩
      rw [List.flatten_nil, hinsert]
      rfl
    | cons piece pieces ih =>
      have hfirst (mid : Store) :
          s.insert (Insertion.ofRows t piece) = .ok mid ↔ s.insert ⟨t, piece, 0⟩ = .ok mid := by
        have hbound := hpieces piece List.mem_cons_self
        rw [insert_eq_ok_iff, insert_eq_ok_iff]
        exact and_congr_left fun _ => iff_of_true hbound (Nat.zero_le _)
      rw [List.map_cons, insertAll_cons_eq_ok_iff, List.flatten_cons, insert_append_eq_ok_iff]
      refine exists_congr fun mid => and_congr (hfirst mid) ?_
      exact ih mid fun p hp => hpieces p (List.mem_cons_of_mem _ hp)
  have hpieces := hall (Insertion.batches t.width rs) s fun piece hpiece =>
    Insertion.length_mul_le_maxBound t.width_le_maxBound hpiece
  rw [Insertion.bulk, hpieces, Insertion.batches, flatten_chunks]

end Store

end Provenance
