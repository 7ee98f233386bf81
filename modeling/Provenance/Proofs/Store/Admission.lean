import Provenance.Proofs.Store.Constraints

/-!
# Statements that succeed

The statements of a request are carried out one after the other, and each is checked against what is
there by then.  If the constraints hold once all of them have been carried out, and each statement
comes after those that fill what its rows refer to, then no check can fail on the way: keys that are
different in the end are different before, and a table that is referred to does not grow any more.
What remains is that the store refuses a row that it was told to refuse.

The statements of a request are of this kind, whatever the request is.

## Main definitions

* `Table.RefersTo` — rows of a table refer to rows of another one.
* `Store.appendAll` — the store after statements were carried out.
* `Store.Fits` — statements that no constraint stands against.
* `Captured.statements` — the statements of a request.

## Main results

* `Store.Fits.insert` — such a statement succeeds or is refused.
* `Captured.fits_statements` — the statements of a request are such.
* `Store.error_of_capture` — **why a capture can fail.**
-/

namespace Provenance

/-- Rows of a table refer to rows of another one. -/
def Table.RefersTo (t u : Table) : Prop := ∃ ref ∈ t.references, ref.1 = u

instance (t u : Table) : Decidable (t.RefersTo u) :=
  inferInstanceAs (Decidable (∃ ref ∈ t.references, ref.1 = u))

namespace Store

/-- The store after statements were carried out. -/
def appendAll (s : Store) (is : List Insertion) : Store :=
  is.foldl (fun s i => s.append i.table i.rows) s

theorem rows_appendAll (s : Store) (is : List Insertion) (t : Table) :
    (s.appendAll is).rows t = s.rows t ++ is.flatMap fun i => i.rowsOf t := by
  induction is generalizing s with
  | nil => exact (List.append_nil _).symm
  | cons i is ih =>
    rw [appendAll, List.foldl_cons]
    refine (ih _).trans ?_
    rw [rows_append, List.flatMap_cons, List.append_assoc]

/-- Statements that no constraint stands against: the constraints hold in the end, each statement
comes after those that fill what it refers to, and none binds too many values. -/
structure Fits (s : Store) (is : List Insertion) : Prop where
  bound : ∀ i ∈ is, i.bound ≤ maxBound
  constrained : (s.appendAll is).Constrained
  ordered : is.Pairwise fun i j => ¬i.table.RefersTo j.table

namespace Fits

variable {s mid : Store} {i : Insertion} {is done rest : List Insertion}

theorem tail (h : s.Fits (i :: is)) : (s.append i.table i.rows).Fits is where
  bound j hj := h.bound j (List.mem_cons_of_mem _ hj)
  constrained := h.constrained
  ordered := (List.pairwise_cons.1 h.ordered).2

/-- **A statement that fits succeeds or is refused.** -/
theorem insert (h : s.Fits (i :: is)) :
    s.insert i = .ok (s.append i.table i.rows) ∨ s.insert i = .error .refused := by
  have hbound : i.bound ≤ maxBound := h.bound i List.mem_cons_self
  have hfinal (t : Table) : (s.appendAll (i :: is)).rows t =
      (s.rows t ++ i.rowsOf t) ++ is.flatMap fun j => j.rowsOf t := by
    rw [rows_appendAll, List.flatMap_cons, List.append_assoc]
  by_cases hrefused : i.rows.any (s.refuses i.table) = true
  · refine .inr ?_
    rw [Store.insert, checkBound, if_pos hbound, checkRefusals, if_pos hrefused]
    rfl
  refine .inl (insert_eq_ok_iff.2 ⟨hbound, ?_, checkKeys_eq_ok_iff.2 ⟨?_, ?_⟩, ?_, rfl⟩)
  · simpa using hrefused
  · -- the keys are among those of the end
    have hkeys := h.constrained.keys i.table
    rw [keys, hfinal, Insertion.rowsOf_self, List.map_append, List.map_append] at hkeys
    obtain ⟨-, hnew, hold⟩ := List.nodup_append.1 (List.nodup_append.1 hkeys).1
    exact ⟨hnew, fun k hk hk' => hold k hk' k hk rfl⟩
  · have hnames := h.constrained.names i.table
    rw [hfinal, Insertion.rowsOf_self, List.filterMap_append, List.filterMap_append] at hnames
    obtain ⟨-, hnew, hold⟩ := List.nodup_append.1 (List.nodup_append.1 hnames).1
    exact ⟨hnew, fun k hk hk' => hold k hk' k hk rfl⟩
  · -- what is referred to is there in the end, and no other statement brings it
    refine referencesHold_iff.2 fun ref href r hr => ?_
    have hin : r ∈ (s.appendAll (i :: is)).rows i.table := by
      rw [hfinal, Insertion.rowsOf_self]
      exact List.mem_append_left _ (List.mem_append_right _ hr)
    have hthere := h.constrained.references i.table ref href r hin
    have hnone : (is.flatMap fun j => j.rowsOf ref.1) = [] := by
      rw [List.flatMap_eq_nil_iff]
      intro j hj
      refine Insertion.rowsOf_of_ne fun heq => ?_
      exact (List.pairwise_cons.1 h.ordered).1 j hj ⟨ref, href, heq.symm⟩
    rwa [keys, hfinal, hnone, List.append_nil, ← rows_append] at hthere

/-- Statements that fit succeed all together, or one of them is refused. -/
theorem insertAll (h : s.Fits is) :
    s.insertAll is = .ok (s.appendAll is) ∨ s.insertAll is = .error .refused := by
  induction is generalizing s with
  | nil => exact .inl rfl
  | cons i is ih =>
    rw [Store.insertAll, List.foldlM_cons]
    rcases h.insert with hi | hi
    · rw [hi]
      exact ih h.tail
    · rw [hi]
      exact .inr rfl

/-- What is left to carry out fits what has been carried out. -/
theorem of_insertAll (h : s.Fits (done ++ rest)) (hdone : s.insertAll done = .ok mid) :
    mid.Fits rest := by
  induction done generalizing s with
  | nil =>
    obtain rfl : s = mid := by simpa [Store.insertAll, pure, Except.pure] using hdone
    exact h
  | cons i done ih =>
    obtain ⟨next, hi, hdone⟩ := insertAll_cons_eq_ok_iff.1 hdone
    obtain rfl := insert_eq_append hi
    exact ih h.tail hdone

end Fits

end Store

/-! ### The statements of a request -/

/-- The statements that put a request in, and note it as pending. -/
def Captured.statements (c : Captured) (s : Store) : List Insertion :=
  c.request.insertions c.id c.user c.recordTime ++ [s.markPending c.id]

namespace Captured

variable (c : Captured) (s : Store)

open Insertion (bulk of_mem_bulk)

/-- They fill the captured tables, one after the other. -/
theorem insertions_eq : c.request.insertions c.id c.user c.recordTime =
    (Table.all.filter Table.isCaptured).flatMap fun t => bulk t (c.rows t) := by
  have hrequest : bulk .requests (c.rows .requests) = [.ofRows .requests (c.rows .requests)] := by
    simp [bulk, Insertion.batches, Captured.rows, chunks]
  have htables : Table.all.filter Table.isCaptured =
      [.requests, .headers, .contacts, .callbacks, .events, .epcs, .fields, .transactions, .parties,
        .declarations, .correctives, .elements, .attributes, .links] := by decide
  rw [htables]
  simp only [List.flatMap_cons, List.flatMap_nil, List.append_nil, hrequest]
  simp only [CaptureRequest.insertions, List.append_assoc, Captured.rows]

theorem rows_appendAll_statements (t : Table) :
    (s.appendAll (c.statements s)).rows t = (s.record c).rows t := by
  have hrows : (s.appendAll (c.statements s)).rows t =
      s.rows t ++ (c.rows t ++ (s.markPending c.id).rowsOf t) := by
    rw [Store.rows_appendAll, statements, List.flatMap_append, flatMap_rowsOf_insertions]
    simp
  -- the marks go into one table, and the request into the others
  cases t with
  | pending => exact hrows
  | subscriptions | parameters => exact hrows.trans (List.append_nil _)
  | _ => exact hrows.trans (congrArg _ (List.append_nil _))

theorem bound_statements : ∀ i ∈ c.statements s, i.bound ≤ maxBound := by
  intro i hi
  rcases List.mem_append.1 hi with hi | hi
  · rw [insertions_eq] at hi
    obtain ⟨t, -, hi⟩ := List.mem_flatMap.1 hi
    exact (of_mem_bulk hi).2
  · obtain rfl := List.mem_singleton.1 hi
    have hone : 1 ≤ maxBound := by decide
    exact hone

/-- What the rows of a statement refer to was brought by statements before it. -/
theorem statements_pairwise :
    (c.statements s).Pairwise fun i j => ¬i.table.RefersTo j.table := by
  have hself (t : Table) : ¬t.RefersTo t := by cases t <;> decide
  have htables : (Table.all.filter Table.isCaptured).Pairwise fun t u => ¬t.RefersTo u := by decide
  have hpending : ∀ t ∈ Table.all.filter Table.isCaptured, ¬t.RefersTo .pending := by decide
  rw [statements, insertions_eq, List.pairwise_append, List.pairwise_flatMap]
  refine ⟨⟨fun t _ => List.pairwise_of_forall_mem_list fun i hi j hj => ?_,
    htables.imp fun htu i hi j hj => ?_⟩, List.pairwise_singleton _ _, fun i hi j hj => ?_⟩
  · rw [(of_mem_bulk hi).1, (of_mem_bulk hj).1]
    exact hself t
  · rwa [(of_mem_bulk hi).1, (of_mem_bulk hj).1]
  · obtain ⟨t, ht, hi⟩ := List.mem_flatMap.1 hi
    obtain rfl := List.mem_singleton.1 hj
    rw [(of_mem_bulk hi).1]
    exact hpending t ht

/-- **No constraint stands against the statements of a request**, whatever it is. -/
theorem fits_statements {cs : List Captured} (h : s.Constrained) (ho : s.Orderly)
    (hj : s.Journal cs) (hc : s.lastRequest < c.id) : s.Fits (c.statements s) where
  bound := c.bound_statements s
  constrained := (h.record ho hj hc).congr fun t => c.rows_appendAll_statements s t
  ordered := c.statements_pairwise s

/-- The rows that its statements carry have all values that they need. -/
theorem isFilled_statements : ∀ i ∈ c.statements s, ∀ r ∈ i.rows, i.table.isFilled r = true := by
  intro i hi
  rcases List.mem_append.1 hi with hi | hi
  · rw [insertions_eq] at hi
    obtain ⟨t, -, hi⟩ := List.mem_flatMap.1 hi
    obtain ⟨piece, hpiece, rfl⟩ := List.mem_map.1 hi
    exact fun r hr => c.isFilled t r (mem_of_mem_chunks hpiece hr)
  · obtain rfl := List.mem_singleton.1 hi
    exact fun r _ => rfl

end Captured

namespace Store

/-- A number is refused, or there is none left. -/
theorem error_of_nextNumber {s : Store} {t : Table} {taken : List Int} {last : Int}
    {row : Int → t.Row} {e : StorageError} (h : s.nextNumber t taken last row = .error e) :
    e = .refused ∨ e = .full := by
  simp only [nextNumber] at h
  split at h
  · exact absurd h (by simp)
  · rw [checkRefusals] at h
    split at h
    · exact .inl (Except.error.inj h).symm
    · exact .inr (Except.error.inj h).symm

/-- A capture carries out the statements of the request, once the request has a number. -/
theorem capture_eq {s : Store} {r : CaptureRequest} {user : Option String} {recordTime : Instant}
    {id : Int} (h : s.nextNumber .requests (s.requests.map RequestRow.id) s.lastRequest
      (fun id => r.row id user recordTime) = .ok id) :
    s.capture r user recordTime =
      (s.insertAll ((Captured.mk id r user recordTime).statements s)).map fun after =>
        ({ after with lastRequest := id }, id) := by
  rw [capture, h]
  simp only [bind, Except.bind, Captured.statements]
  cases s.insertAll (r.insertions id user recordTime ++ [s.markPending id]) <;> rfl

/-- **Why a capture can fail**: a row is to be refused, or there is no number left. -/
theorem error_of_capture {s : Store} (hs : s.Reachable) {r : CaptureRequest} {user : Option String}
    {recordTime : Instant} {e : StorageError} (h : s.capture r user recordTime = .error e) :
    e = .refused ∨ e = .full := by
  obtain ⟨cs, ho, hj⟩ := hs.exists_journal
  cases hnumber : s.nextNumber .requests (s.requests.map RequestRow.id) s.lastRequest
      (fun id => r.row id user recordTime) with
  | error f =>
    rw [capture, hnumber] at h
    obtain rfl : f = e := Except.error.inj h
    exact error_of_nextNumber hnumber
  | ok id =>
    have hlast := (lt_nextNumber hnumber).2.1
    have hfits := (Captured.mk id r user recordTime).fits_statements s hs.constrained ho hj hlast
    rw [capture_eq hnumber] at h
    rcases hfits.insertAll with hok | hrefused
    · rw [hok] at h
      exact absurd h nofun
    · rw [hrefused] at h
      exact .inl (Except.error.inj h).symm

end Store

end Provenance
