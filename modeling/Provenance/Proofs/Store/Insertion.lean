import Provenance.Store.Basic

/-!
# What insertions add

An insertion that succeeds appends its rows to its table and leaves everything else alone, so a list
of insertions that succeeds appends, table by table, the rows that it carries for that table.

Whether an insertion succeeds is decided with sets of keys, which do not unfold.  `Store.admits`
asks the same of lists, so that it can be evaluated.

## Main results

* `Store.rows_insertAll` — what a list of insertions adds to a table.
* `Store.insertAll_of_admitsAll` — insertions that are admitted one after the other succeed.
-/

namespace Provenance

/-- A computation in two parts succeeds exactly if both parts do. -/
theorem bind_eq_ok_iff {ε α β : Type} {x : Except ε α} {f : α → Except ε β} {b : β} :
    (x >>= f) = .ok b ↔ ∃ a, x = .ok a ∧ f a = .ok b := by
  cases x with
  | error e => simp [bind, Except.bind]
  | ok a => simp [bind, Except.bind]

theorem map_eq_ok_iff {ε α β : Type} {f : α → β} {x : Except ε α} {b : β} :
    Except.map f x = .ok b ↔ ∃ a, x = .ok a ∧ f a = b := by
  cases x <;> simp [Except.map]

theorem mapError_eq_ok_iff {ε ε' α : Type} {f : ε → ε'} {x : Except ε α} {a : α} :
    x.mapError f = .ok a ↔ x = .ok a := by
  cases x with
  | error e => exact ⟨nofun, nofun⟩
  | ok b =>
    have hok {δ : Type} : (Except.ok b : Except δ α) = .ok a ↔ b = a :=
      ⟨Except.ok.inj, congrArg Except.ok⟩
    exact hok.trans hok.symm

theorem checkBound_eq_ok_iff {n : Nat} : checkBound n = .ok () ↔ n ≤ maxBound := by
  unfold checkBound
  split <;> simp [*]

namespace Insertion

/-- The rows that an insertion carries for a table. -/
def rowsOf (i : Insertion) (t : Table) : List t.Row :=
  if h : i.table = t then h ▸ i.rows else []

@[simp] theorem rowsOf_self (i : Insertion) : i.rowsOf i.table = i.rows := by
  simp [rowsOf]

theorem rowsOf_of_ne {i : Insertion} {t : Table} (h : i.table ≠ t) : i.rowsOf t = [] := by
  simp [rowsOf, h]

@[simp] theorem rowsOf_ofRows_self (t : Table) (rs : List t.Row) : (ofRows t rs).rowsOf t = rs :=
  rowsOf_self (ofRows t rs)

theorem rowsOf_ofRows_of_ne {t u : Table} (h : t ≠ u) (rs : List t.Row) :
    (ofRows t rs).rowsOf u = [] :=
  rowsOf_of_ne h

/-- Rows cut into statements are carried as if by one. -/
theorem flatMap_rowsOf_bulk (t u : Table) (rs : List t.Row) :
    (bulk t rs).flatMap (fun i => i.rowsOf u) = (ofRows t rs).rowsOf u := by
  by_cases h : t = u
  · subst h
    have hmap : (batches t.width rs).flatMap (fun b => (ofRows t b).rowsOf t) =
        (batches t.width rs).flatten := by
      simp [List.flatMap_def]
    rw [bulk, List.flatMap_map, hmap, batches, flatten_chunks, rowsOf_ofRows_self]
  · rw [bulk, List.flatMap_map, rowsOf_ofRows_of_ne h]
    simp [rowsOf_ofRows_of_ne h]

end Insertion

namespace Store

/-! ### Rows -/

theorem rows_append (s : Store) (i : Insertion) (t : Table) :
    (s.append i.table i.rows).rows t = s.rows t ++ i.rowsOf t := by
  by_cases h : i.table = t
  · subst h
    simp [append]
  · rw [append, rows_setRows_of_ne s h, Insertion.rowsOf_of_ne h, List.append_nil]

theorem insert_eq_append {s after : Store} {i : Insertion} (h : s.insert i = .ok after) :
    after = s.append i.table i.rows :=
  (insert_eq_ok_iff.1 h).2.2.2.2

theorem insertAll_cons_eq_ok_iff {s after : Store} {i : Insertion} {is : List Insertion} :
    s.insertAll (i :: is) = .ok after ↔
      ∃ mid, s.insert i = .ok mid ∧ mid.insertAll is = .ok after := by
  rw [insertAll, List.foldlM_cons, bind_eq_ok_iff]
  rfl

theorem insertAll_append_eq_ok_iff {s after : Store} {is js : List Insertion} :
    s.insertAll (is ++ js) = .ok after ↔
      ∃ mid, s.insertAll is = .ok mid ∧ mid.insertAll js = .ok after := by
  rw [insertAll, List.foldlM_append, bind_eq_ok_iff]
  rfl

/-- **Insertions append what they carry.** -/
theorem rows_insertAll {s after : Store} {is : List Insertion} (h : s.insertAll is = .ok after)
    (t : Table) : after.rows t = s.rows t ++ is.flatMap fun i => i.rowsOf t := by
  induction is generalizing s with
  | nil =>
    obtain rfl : s = after := by simpa [insertAll, pure, Except.pure] using h
    simp
  | cons i is ih =>
    obtain ⟨mid, hmid, hrest⟩ := insertAll_cons_eq_ok_iff.1 h
    rw [ih hrest, insert_eq_append hmid, rows_append, List.flatMap_cons, List.append_assoc]

/-- What is not a row does not change when insertions succeed. -/
theorem frame_insertAll {s after : Store} {is : List Insertion} (h : s.insertAll is = .ok after) :
    after.lastRequest = s.lastRequest ∧ after.lastSubscription = s.lastSubscription ∧
      after.refusals = s.refusals := by
  induction is generalizing s with
  | nil =>
    obtain rfl : s = after := by simpa [insertAll, pure, Except.pure] using h
    exact ⟨rfl, rfl, rfl⟩
  | cons i is ih =>
    obtain ⟨mid, hmid, hrest⟩ := insertAll_cons_eq_ok_iff.1 h
    obtain ⟨hreq, hsub, href⟩ := ih hrest
    rw [insert_eq_append hmid] at hreq hsub href
    simp only [append, lastRequest_setRows, lastSubscription_setRows, refusals_setRows]
      at hreq hsub href
    exact ⟨hreq, hsub, href⟩

/-! ### Admission -/

/-- Whether an insertion succeeds, decided on lists. -/
def admits (s : Store) (i : Insertion) : Bool :=
  decide (i.bound ≤ maxBound) && !i.rows.any (s.refuses i.table) &&
    decide ((i.rows.map i.table.key).Nodup ∧ ∀ k ∈ i.rows.map i.table.key, k ∉ s.keys i.table) &&
    decide ((i.rows.filterMap i.table.uniqueName).Nodup ∧
      ∀ n ∈ i.rows.filterMap i.table.uniqueName,
        n ∉ (s.rows i.table).filterMap i.table.uniqueName) &&
    i.table.references.all fun (parent, key) =>
      i.rows.all fun r => ((s.append i.table i.rows).keys parent).contains (key r)

theorem insert_of_admits {s : Store} {i : Insertion} (h : s.admits i = true) :
    s.insert i = .ok (s.append i.table i.rows) := by
  simp only [admits, Bool.and_eq_true, decide_eq_true_eq, Bool.not_eq_true', List.all_eq_true,
    List.any_eq_false, List.contains_iff_mem] at h
  obtain ⟨⟨⟨⟨hbound, hrefuse⟩, hkeys⟩, hnames⟩, hrefs⟩ := h
  refine insert_eq_ok_iff.2 ⟨hbound, ?_, checkKeys_eq_ok_iff.2 ⟨hkeys, hnames⟩, ?_, rfl⟩
  · intro r hr
    simpa using hrefuse r hr
  · exact referencesHold_iff.2 hrefs

/-- Whether insertions succeed one after the other. -/
def admitsAll : Store → List Insertion → Bool
  | _, [] => true
  | s, i :: is => s.admits i && (s.append i.table i.rows).admitsAll is

theorem insertAll_of_admitsAll {s : Store} {is : List Insertion} (h : s.admitsAll is = true) :
    s.insertAll is = .ok (is.foldl (fun s i => s.append i.table i.rows) s) := by
  induction is generalizing s with
  | nil => rfl
  | cons i is ih =>
    rw [admitsAll, Bool.and_eq_true] at h
    exact insertAll_cons_eq_ok_iff.2 ⟨_, insert_of_admits h.1, ih h.2⟩

/-! ### Numbers -/

theorem foldl_max_ge (ns : List Int) (n : Int) :
    n ≤ ns.foldl max n ∧ ∀ m ∈ ns, m ≤ ns.foldl max n := by
  induction ns generalizing n with
  | nil => simp
  | cons k ns ih =>
    obtain ⟨hstart, hrest⟩ := ih (max n k)
    simp only [List.foldl_cons, List.mem_cons, forall_eq_or_imp]
    exact ⟨by omega, by omega, hrest⟩

/-- A new number is greater than all that were given, and a word holds it. -/
theorem lt_nextNumber {s : Store} {t : Table} {taken : List Int} {last n : Int} {row : Int → t.Row}
    (h : s.nextNumber t taken last row = .ok n) :
    (∀ m ∈ taken, m < n) ∧ last < n ∧ n ≤ maxNumber := by
  obtain ⟨hlast, htaken⟩ := foldl_max_ge taken last
  simp only [nextNumber] at h
  split at h
  · next hroom =>
    obtain rfl := Except.ok.inj h
    exact ⟨fun m hm => by have := htaken m hm; omega, by omega, by omega⟩
  · -- there is no number left
    obtain ⟨_, -, hfull⟩ := bind_eq_ok_iff.1 h
    exact absurd hfull (by simp)

/-- Where no number given is greater than the last one, the next one follows it. -/
theorem nextNumber_of_le {s : Store} {t : Table} {taken : List Int} {last : Int} {row : Int → t.Row}
    (htaken : ∀ m ∈ taken, m ≤ last) (hlast : last < maxNumber) :
    s.nextNumber t taken last row = .ok (last + 1) := by
  have hmax : taken.foldl max last = last := by
    induction taken with
    | nil => rfl
    | cons m taken ih =>
      have hm : max last m = last := by have := htaken m List.mem_cons_self; omega
      rw [List.foldl_cons, hm]
      exact ih fun k hk => htaken k (List.mem_cons_of_mem _ hk)
  simp [nextNumber, hmax, hlast]

end Store

end Provenance
