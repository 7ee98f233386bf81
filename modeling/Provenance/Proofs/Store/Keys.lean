import Provenance.Proofs.Event.Reassembly

/-!
# The keys of captured rows

The key of a captured row is made of counters: the number of its request, the place of its event or
element in the request, and its place among the rows of its kind there.  Each counter starts anew
with each owner.  So the rows of a table that belong to one owner are numbered from zero without a
gap, in the order in which they were put in, and no two rows of a table have the same key.

Custom fields are numbered in one run, fields inside of fields along with the others.  A field that
is inside of another one comes after it, and the other one is inside of none.

## Main definitions

* `Dense` — the keys of each owner are numbered from zero without a gap.
* `Table.isIndexed` — whether the last part of the key of a table is such a number.
* `places` — the members of all captured requests, by request and place.
* `FieldRow.IsInside` — a row of a custom field names the row of another as its parent.

## Main results

* `Store.Journal.dense` — **captured rows are numbered without gaps.**
* `Store.Journal.keys_nodup` — no two captured rows have the same key.
* `Store.Journal.isInside` — the parents of custom fields are there.
-/

namespace Provenance

/-! ### Numbering without gaps -/

/-- The keys of each owner, which are told apart by their last cell, are numbered from zero without
a gap. -/
def Dense (keys : List (List Cell)) : Prop :=
  ∀ owner : List Cell, ∃ n : Nat, keys.filter (fun k => k.dropLast == owner) =
    (List.range n).map fun i => owner ++ [.integer i]

theorem Dense.nodup {keys : List (List Cell)} (h : Dense keys) : keys.Nodup := by
  rw [List.nodup_iff_count_le_one]
  intro k
  -- all keys that are equal to one have its owner
  obtain ⟨n, hn⟩ := h k.dropLast
  have hcount : (keys.filter fun k' => k'.dropLast == k.dropLast).count k = keys.count k :=
    List.count_filter (by simp)
  rw [← hcount, hn]
  refine List.nodup_iff_count_le_one.1 (List.nodup_range.map fun i j hij => ?_) k
  have hcast : (i : Int) = j := by simpa using hij
  exact Int.ofNat_inj.1 hcast

/-- What belongs to owners with different labels, each numbered from zero, is dense. -/
theorem dense_flatMap {α : Type} {xs : List α} {part : α → List (List Cell)} {label : α → List Cell}
    (hlabels : (xs.map label).Nodup)
    (hpart : ∀ x ∈ xs, ∃ n : Nat, part x = (List.range n).map fun i => label x ++ [.integer i]) :
    Dense (xs.flatMap part) := by
  have howner : ∀ x ∈ xs, ∀ k ∈ part x, k.dropLast = label x := by
    intro x hx k hk
    obtain ⟨n, hn⟩ := hpart x hx
    rw [hn] at hk
    obtain ⟨i, -, rfl⟩ := List.mem_map.1 hk
    exact List.dropLast_concat
  intro owner
  by_cases hfound : ∃ x ∈ xs, label x = owner
  · obtain ⟨x, hx, rfl⟩ := hfound
    obtain ⟨n, hn⟩ := hpart x hx
    exact ⟨n, (filter_owner_eq howner hlabels hx).trans hn⟩
  · refine ⟨0, List.filter_eq_nil_iff.2 fun k hk heq => hfound ?_⟩
    obtain ⟨x, hx, hk⟩ := List.mem_flatMap.1 hk
    exact ⟨x, hx, (howner x hx k hk).symm.trans (beq_iff_eq.1 heq)⟩

/-- What belongs to owners with different labels has different keys if each owner has its label as a
key once, or has none. -/
theorem nodup_flatMap_label {α κ : Type} {xs : List α} {part : α → List κ} {label : α → κ}
    (hlabels : (xs.map label).Nodup) (hpart : ∀ x ∈ xs, (part x).Sublist [label x]) :
    (xs.flatMap part).Nodup := by
  refine hlabels.sublist ?_
  clear hlabels
  induction xs with
  | nil => exact .slnil
  | cons x xs ih =>
    rw [List.flatMap_cons, List.map_cons]
    exact (hpart x List.mem_cons_self).append (ih fun y hy => hpart y (List.mem_cons_of_mem _ hy))

theorem map_fst_numbered {α : Type} (start : Nat) (as : List α) :
    (numbered start as).map Prod.fst = List.range' start as.length := by
  induction as generalizing start with
  | nil => rfl
  | cons a as ih => rw [numbered_cons, List.map_cons, ih, List.length_cons, List.range'_succ]

/-- Rows that were made of a numbered list have its numbers in their keys. -/
theorem keys_of_numbered {α : Type} {t : Table} {row : Nat × α → t.Row} (label : List Cell)
    (hkey : ∀ p, t.key (row p) = label ++ [.integer p.1]) (start : Nat) (as : List α) :
    ((numbered start as).map row).map t.key =
      (List.range' start as.length).map fun i => label ++ [.integer i] := by
  rw [← map_fst_numbered, List.map_map, List.map_map]
  exact List.map_congr_left fun p _ => hkey p

/-- So they are numbered from zero. -/
theorem exists_keys_of_numbered {α : Type} {t : Table} {row : Nat × α → t.Row} (label : List Cell)
    (hkey : ∀ p, t.key (row p) = label ++ [.integer p.1]) (as : List α) :
    ∃ n : Nat, ((numbered 0 as).map row).map t.key =
      (List.range n).map fun i => label ++ [.integer i] :=
  ⟨as.length, (keys_of_numbered label hkey 0 as).trans (by rw [List.range_eq_range'])⟩

/-! ### Custom fields -/

/-- The run of numbers of custom fields has no gap. -/
theorem Event.exists_keys_fieldRowsFrom (request : Int) (event start : Nat)
    (fs : List CustomField) :
    ∃ n : Nat, (fieldRowsFrom request event start fs).map Table.fields.key =
      (List.range' start n).map fun i => [.integer request, .integer event, .integer i] := by
  induction fs generalizing start with
  | nil => exact ⟨0, rfl⟩
  | cons f fs ih =>
    obtain ⟨n, hn⟩ := ih (start + 1 + f.children.length)
    have hinside : ((numbered (start + 1) f.children).map fun p =>
        fieldRow request event p.1 (some start) p.2.content).map Table.fields.key =
        (List.range' (start + 1) f.children.length).map fun i =>
          [.integer request, .integer event, .integer i] :=
      keys_of_numbered (t := .fields) [.integer request, .integer event]
        (fun _ => rfl) (start + 1) f.children
    refine ⟨f.children.length + n + 1, ?_⟩
    rw [fieldRowsFrom, List.map_append, List.map_cons, hn, List.range'_succ, ← List.range'_append_1,
      List.map_cons, List.map_append]
    exact congrArg (_ :: · ++ _) hinside

/-- The row of a custom field names the row of an earlier one of the same event as its parent, and
that one names none. -/
def FieldRow.IsInside (r p : FieldRow) : Prop :=
  p.owner = r.owner ∧ p.index = r.parent ∧ p.parent = .null ∧
    ∃ i j : Nat, p.index = .integer i ∧ r.index = .integer j ∧ i < j

/-- A custom field stands by itself, or inside of one whose row comes before its own. -/
theorem Event.isInside_fieldRowsFrom (request : Int) (event start : Nat) (fs : List CustomField) :
    ∀ r ∈ fieldRowsFrom request event start fs, r.parent = .null ∨
      ∃ p ∈ fieldRowsFrom request event start fs, r.IsInside p := by
  induction fs generalizing start with
  | nil =>
    intro r hr
    exact absurd hr List.not_mem_nil
  | cons f fs ih =>
    intro r hr
    rw [fieldRowsFrom] at hr ⊢
    rcases List.mem_append.1 hr with hr | hr
    · rcases List.mem_cons.1 hr with rfl | hr
      · exact .inl rfl
      · obtain ⟨q, hq, rfl⟩ := List.mem_map.1 hr
        refine .inr ⟨_, List.mem_append_left _ List.mem_cons_self, rfl, rfl, rfl, start, q.1, rfl,
          rfl, ?_⟩
        exact le_of_mem_numbered hq
    · rcases ih _ r hr with hnone | ⟨p, hp, hinside⟩
      · exact .inl hnone
      · exact .inr ⟨p, List.mem_append_right _ hp, hinside⟩

/-! ### Members of requests -/

/-- The members of one kind of all captured requests, by request and place. -/
def places {α : Type} (items : CaptureRequest → List α) (cs : List Captured) :
    List (Int × Nat × α) :=
  cs.flatMap fun c => (numbered 0 (items c.request)).map fun p => (c.id, p)

/-- What the keys of the rows of a member begin with. -/
def placeKey {α : Type} (q : Int × Nat × α) : List Cell := [.integer q.1, .integer q.2.1]

theorem placeKey_inj {α : Type} {q q' : Int × Nat × α} :
    placeKey q = placeKey q' ↔ q.1 = q'.1 ∧ q.2.1 = q'.2.1 := by
  simp only [placeKey, List.cons.injEq, Cell.integer.injEq, Int.ofNat_inj, and_true]

/-- Whether the last part of the key of a table is a place among the rows of one owner. -/
def Table.isIndexed : Table → Bool
  | contacts | events | epcs | fields | transactions | parties | correctives | elements
  | attributes | links => true
  | _ => false

namespace Store.Journal

variable {s : Store} {cs : List Captured} {α : Type}

/-- No two members have the same request and place. -/
theorem places_nodup (h : s.Journal cs) (items : CaptureRequest → List α) :
    ((places items cs).map placeKey).Nodup := by
  rw [List.Nodup, List.pairwise_map, places, List.pairwise_flatMap]
  constructor
  · intro c _
    rw [List.pairwise_map]
    refine (numbered_pairwise 0 (items c.request)).imp fun hlt heq => ?_
    exact Nat.ne_of_lt hlt (placeKey_inj.1 heq).2
  · have hids := h.ascending
    rw [List.pairwise_map] at hids
    refine hids.imp fun hlt q hq q' hq' heq => ?_
    obtain ⟨_, -, rfl⟩ := List.mem_map.1 hq
    obtain ⟨_, -, rfl⟩ := List.mem_map.1 hq'
    exact Int.ne_of_lt hlt (placeKey_inj.1 heq).1

/-- The keys of captured rows, request by request. -/
theorem keys_eq (h : s.Journal cs) {t : Table} (ht : t.isCaptured = true) :
    s.keys t = cs.flatMap fun c => (c.rows t).map t.key := by
  rw [keys, h.rows_eq t ht, List.map_flatMap]

/-- The keys of the rows of members, member by member. -/
theorem keys_eq_places (h : s.Journal cs) {t : Table} (ht : t.isCaptured = true)
    (items : CaptureRequest → List α) (part : Int → Nat → α → List t.Row)
    (hrows : ∀ c : Captured, c.rows t =
      (numbered 0 (items c.request)).flatMap fun p => part c.id p.1 p.2) :
    s.keys t = (places items cs).flatMap fun q => (part q.1 q.2.1 q.2.2).map t.key := by
  rw [h.keys_eq ht, places, List.flatMap_assoc]
  refine congrArg (List.flatMap · cs) (funext fun c => ?_)
  rw [hrows, List.map_flatMap, List.flatMap_map]

/-- No two requests have the same key. -/
theorem requestKeys_nodup (h : s.Journal cs) :
    (cs.map fun c => ([.integer c.id] : List Cell)).Nodup := by
  have hids := h.ascending
  rw [List.pairwise_map] at hids
  rw [List.Nodup, List.pairwise_map]
  exact hids.imp fun hlt heq => Int.ne_of_lt hlt (Cell.integer.inj (List.cons.inj heq).1)

/-- The keys of rows that are made for whole requests. -/
theorem dense_of_requests (h : s.Journal cs) {t : Table} (ht : t.isCaptured = true)
    (hkeys : ∀ c : Captured, ∃ n : Nat, (c.rows t).map t.key =
      (List.range n).map fun i => [.integer c.id, .integer i]) : Dense (s.keys t) := by
  rw [h.keys_eq ht]
  exact dense_flatMap h.requestKeys_nodup fun c _ => hkeys c

/-- The keys of rows that are made for members of requests. -/
theorem dense_of_places (h : s.Journal cs) {t : Table} (ht : t.isCaptured = true)
    (items : CaptureRequest → List α) (part : Int → Nat → α → List t.Row)
    (hrows : ∀ c : Captured, c.rows t =
      (numbered 0 (items c.request)).flatMap fun p => part c.id p.1 p.2)
    (hkeys : ∀ id i a, ∃ n : Nat, (part id i a).map t.key =
      (List.range n).map fun j => [.integer id, .integer i, .integer j]) : Dense (s.keys t) := by
  rw [h.keys_eq_places ht items part hrows]
  exact dense_flatMap (h.places_nodup items) fun q _ => hkeys q.1 q.2.1 q.2.2

/-- **Captured rows are numbered without gaps.** -/
theorem dense (h : s.Journal cs) {t : Table} (ht : t.isIndexed = true) : Dense (s.keys t) := by
  cases t with
  | contacts =>
    refine h.dense_of_requests rfl fun c => ?_
    simp only [Captured.rows, CaptureRequest.contactRows]
    cases c.request.header with
    | none => exact ⟨0, rfl⟩
    | some header =>
      rw [Option.toList_some, List.flatMap_cons, List.flatMap_nil, List.append_nil]
      exact exists_keys_of_numbered [.integer c.id] (fun _ => rfl) header.contacts
  | events =>
    refine h.dense_of_requests rfl fun c => ?_
    simp only [Captured.rows, CaptureRequest.eventParts]
    rw [← List.map_eq_flatMap]
    exact exists_keys_of_numbered [.integer c.id] (fun _ => rfl) c.request.events
  | elements =>
    refine h.dense_of_requests rfl fun c => ?_
    simp only [Captured.rows, CaptureRequest.elementParts]
    rw [← List.map_eq_flatMap]
    exact exists_keys_of_numbered [.integer c.id] (fun _ => rfl) c.request.masterData
  | epcs =>
    refine h.dense_of_places rfl CaptureRequest.events (fun id i e => e.epcRows id i)
      (fun _ => rfl) fun id i e => ?_
    exact exists_keys_of_numbered [.integer id, .integer i] (fun _ => rfl) e.epcs
  | fields =>
    refine h.dense_of_places rfl CaptureRequest.events (fun id i e => e.fieldRows id i)
      (fun _ => rfl) fun id i e => ?_
    obtain ⟨n, hn⟩ := Event.exists_keys_fieldRowsFrom id i 0 e.customFields
    exact ⟨n, hn.trans (by rw [List.range_eq_range'])⟩
  | transactions =>
    refine h.dense_of_places rfl CaptureRequest.events (fun id i e => e.transactionRows id i)
      (fun _ => rfl) fun id i e => ?_
    exact exists_keys_of_numbered [.integer id, .integer i] (fun _ => rfl)
      e.businessTransactions
  | parties =>
    refine h.dense_of_places rfl CaptureRequest.events (fun id i e => e.partyRows id i)
      (fun _ => rfl) fun id i e => ?_
    exact exists_keys_of_numbered [.integer id, .integer i] (fun _ => rfl) e.parties
  | correctives =>
    refine h.dense_of_places rfl CaptureRequest.events (fun id i e => e.correctiveRows id i)
      (fun _ => rfl) fun id i e => ?_
    rw [Event.correctiveRows]
    cases e.errorDeclaration with
    | none => exact ⟨0, rfl⟩
    | some d =>
      rw [Option.toList_some, List.flatMap_cons, List.flatMap_nil, List.append_nil]
      exact exists_keys_of_numbered [.integer id, .integer i] (fun _ => rfl)
        d.correctiveIds
  | attributes =>
    refine h.dense_of_places rfl CaptureRequest.masterData (fun id i m => m.attributeRows id i)
      (fun _ => rfl) fun id i m => ?_
    exact exists_keys_of_numbered [.integer id, .integer i] (fun _ => rfl) m.attributes
  | links =>
    refine h.dense_of_places rfl CaptureRequest.masterData (fun id i m => m.linkRows id i)
      (fun _ => rfl) fun id i m => ?_
    exact exists_keys_of_numbered [.integer id, .integer i] (fun _ => rfl) m.children
  | _ => exact absurd ht (by decide)

/-- **No two captured rows have the same key.** -/
theorem keys_nodup (h : s.Journal cs) {t : Table} (ht : t.isCaptured = true) :
    (s.keys t).Nodup := by
  by_cases hindexed : t.isIndexed = true
  · exact (h.dense hindexed).nodup
  · -- the other tables have one row at most for each owner
    cases t with
    | requests =>
      rw [h.keys_eq rfl]
      exact nodup_flatMap_label h.requestKeys_nodup fun c _ => .refl _
    | headers =>
      rw [h.keys_eq rfl]
      refine nodup_flatMap_label h.requestKeys_nodup fun c _ => ?_
      simp only [Captured.rows, CaptureRequest.headerRows]
      cases c.request.header with
      | none => exact List.nil_sublist _
      | some header => exact .refl _
    | callbacks =>
      rw [h.keys_eq rfl]
      refine nodup_flatMap_label h.requestKeys_nodup fun c _ => ?_
      simp only [Captured.rows, CaptureRequest.callbackRows]
      cases c.request.callback with
      | none => exact List.nil_sublist _
      | some callback => exact .refl _
    | declarations =>
      rw [h.keys_eq_places (t := .declarations) rfl CaptureRequest.events
        (fun id i e => e.declarationRows id i) fun _ => rfl]
      refine nodup_flatMap_label (h.places_nodup CaptureRequest.events) fun q _ => ?_
      rw [Event.declarationRows]
      cases q.2.2.errorDeclaration with
      | none => exact List.nil_sublist _
      | some d => exact .refl _
    | subscriptions => exact absurd ht (by decide)
    | parameters => exact absurd ht (by decide)
    | pending => exact absurd ht (by decide)
    | _ => exact absurd rfl hindexed

/-- **The parents of custom fields are there**: each comes before the fields inside of it, and is
inside of none. -/
theorem isInside (h : s.Journal cs) :
    ∀ r ∈ s.fields, r.parent = .null ∨ ∃ p ∈ s.fields, r.IsInside p := by
  have hrows : s.fields = (recorded cs).flatMap fun x => x.rows .fields :=
    h.rows_eq_flatMap (t := .fields) rfl
  intro r hr
  rw [hrows] at hr ⊢
  obtain ⟨x, hx, hr⟩ := List.mem_flatMap.1 hr
  rcases Event.isInside_fieldRowsFrom x.captured.id x.index 0 x.event.customFields r hr with
    hnone | ⟨p, hp, hinside⟩
  · exact .inl hnone
  · exact .inr ⟨p, List.mem_flatMap.2 ⟨x, hx, hp⟩, hinside⟩

end Store.Journal

end Provenance
