import Provenance.Proofs.Store.Keys

/-!
# The constraints of the tables

The tables have constraints: no two rows of a table have the same key, no two subscriptions have the
same name, what a row refers to is there, and columns that cannot do without a value have one.

Whatever comes in is checked, so a subscription that was put in has left the constraints as they
were.  A captured request has rows that keep them whatever the request is, checked or not: the rows
refer to each other and to nothing else, and their keys begin with a number that no request had
before.  A subscription takes along what refers to it when it goes.

## Main definitions

* `Table.isFilled` — a row has the values that its columns ask for.
* `Store.Constrained` — the constraints hold.

## Main results

* `Captured.references_hold` — what the rows of a request refer to is among them.
* `Store.Constrained.insert` — what is put in keeps the constraints.
* `Store.Constrained.record` — **a request keeps the constraints**, whatever it is.
* `Store.Reachable.constrained` — the constraints hold in every reachable store.
-/

namespace Provenance

/-- Whether a row has a value in each column that cannot do without one. -/
def Table.isFilled (t : Table) (r : t.Row) : Bool :=
  (t.columns.zip (t.cells r)).all fun (column, cell) => column.optional || cell != .null

namespace Store

/-- The constraints of the tables hold. -/
structure Constrained (s : Store) : Prop where
  keys : ∀ t, (s.keys t).Nodup
  names : ∀ t : Table, ((s.rows t).filterMap t.uniqueName).Nodup
  references : ∀ t : Table, ∀ ref ∈ t.references, ∀ r ∈ s.rows t, ref.2 r ∈ s.keys ref.1
  filled : ∀ t, ∀ r ∈ s.rows t, t.isFilled r = true

theorem Constrained.congr {s after : Store} (h : s.Constrained)
    (hrows : ∀ t, after.rows t = s.rows t) : after.Constrained where
  keys t := by
    rw [Store.keys, hrows]
    exact h.keys t
  names t := by
    rw [hrows]
    exact h.names t
  references t ref href r hr := by
    rw [Store.keys, hrows]
    exact h.references t ref href r (hrows t ▸ hr)
  filled t r hr := h.filled t r (hrows t ▸ hr)

end Store

/-! ### The rows of a request -/

namespace Captured

variable (c : Captured)

/-- The rows of a request have all values that they need, and their keys begin with its number. -/
theorem row_shape (t : Table) :
    ∀ r ∈ c.rows t, t.isFilled r = true ∧ (t.key r).head? = some (.integer c.id) := by
  intro r hr
  cases t with
  | requests =>
    obtain rfl := List.mem_singleton.1 hr
    exact ⟨rfl, rfl⟩
  | headers | callbacks =>
    obtain ⟨_, -, rfl⟩ := List.mem_map.1 hr
    exact ⟨rfl, rfl⟩
  | contacts =>
    obtain ⟨_, -, hr⟩ := List.mem_flatMap.1 hr
    obtain ⟨_, -, rfl⟩ := List.mem_map.1 hr
    exact ⟨rfl, rfl⟩
  | events | elements =>
    obtain ⟨_, -, hr⟩ := List.mem_flatMap.1 hr
    obtain rfl := List.mem_singleton.1 hr
    exact ⟨rfl, rfl⟩
  | epcs | transactions | parties | declarations | attributes | links =>
    obtain ⟨_, -, hr⟩ := List.mem_flatMap.1 hr
    obtain ⟨_, -, rfl⟩ := List.mem_map.1 hr
    exact ⟨rfl, rfl⟩
  | fields =>
    obtain ⟨_, -, hr⟩ := List.mem_flatMap.1 hr
    obtain ⟨_, _, _, rfl⟩ := Event.exists_fieldRow_of_mem hr
    exact ⟨rfl, rfl⟩
  | correctives =>
    obtain ⟨_, -, hr⟩ := List.mem_flatMap.1 hr
    obtain ⟨_, -, hr⟩ := List.mem_flatMap.1 hr
    obtain ⟨_, -, rfl⟩ := List.mem_map.1 hr
    exact ⟨rfl, rfl⟩
  | subscriptions | parameters | pending => exact absurd hr List.not_mem_nil

theorem isFilled (t : Table) : ∀ r ∈ c.rows t, t.isFilled r = true := fun r hr =>
  (c.row_shape t r hr).1

/-- The key of an event or an element of a request. -/
theorem mem_keys_of_member {α : Type} {t : Table} {row : Nat × α → t.Row} {items : List α}
    (hkey : ∀ p, t.key (row p) = [.integer c.id, .integer p.1])
    (hrows : c.rows t = (numbered 0 items).flatMap fun p => [row p]) {p : Nat × α}
    (hp : p ∈ numbered 0 items) : [.integer c.id, .integer p.1] ∈ (c.rows t).map t.key := by
  rw [← hkey p, hrows]
  exact List.mem_map_of_mem (List.mem_flatMap.2 ⟨p, hp, List.mem_singleton.2 rfl⟩)

/-- **What the rows of a request refer to is among them.** -/
theorem references_hold {t : Table} (ht : t.isCaptured = true) :
    ∀ ref ∈ t.references, ∀ r ∈ c.rows t, ref.2 r ∈ (c.rows ref.1).map ref.1.key := by
  have hrequest : [Cell.integer c.id] ∈ (c.rows .requests).map Table.requests.key :=
    List.mem_singleton.2 rfl
  have hevent {p : Nat × Event} (hp : p ∈ numbered 0 c.request.events) :
      [Cell.integer c.id, .integer p.1] ∈ (c.rows .events).map Table.events.key :=
    c.mem_keys_of_member (t := .events) (fun _ => rfl) rfl hp
  have helement {p : Nat × MasterData} (hp : p ∈ numbered 0 c.request.masterData) :
      [Cell.integer c.id, .integer p.1] ∈ (c.rows .elements).map Table.elements.key :=
    c.mem_keys_of_member (t := .elements) (fun _ => rfl) rfl hp
  intro ref href r hr
  cases t with
  | requests => exact absurd href List.not_mem_nil
  | headers | callbacks =>
    obtain rfl := List.mem_singleton.1 href
    obtain ⟨_, -, rfl⟩ := List.mem_map.1 hr
    exact hrequest
  | contacts =>
    obtain rfl := List.mem_singleton.1 href
    obtain ⟨_, -, hr⟩ := List.mem_flatMap.1 hr
    obtain ⟨_, -, rfl⟩ := List.mem_map.1 hr
    exact hrequest
  | events | elements =>
    obtain rfl := List.mem_singleton.1 href
    obtain ⟨_, -, hr⟩ := List.mem_flatMap.1 hr
    obtain rfl := List.mem_singleton.1 hr
    exact hrequest
  | epcs | transactions | parties | declarations =>
    obtain rfl := List.mem_singleton.1 href
    obtain ⟨p, hp, hr⟩ := List.mem_flatMap.1 hr
    obtain ⟨_, -, rfl⟩ := List.mem_map.1 hr
    exact hevent hp
  | fields =>
    obtain rfl := List.mem_singleton.1 href
    obtain ⟨p, hp, hr⟩ := List.mem_flatMap.1 hr
    obtain ⟨_, _, _, rfl⟩ := Event.exists_fieldRow_of_mem hr
    exact hevent hp
  | correctives =>
    obtain rfl := List.mem_singleton.1 href
    obtain ⟨p, hp, hr⟩ := List.mem_flatMap.1 hr
    obtain ⟨d, hd, hr⟩ := List.mem_flatMap.1 hr
    obtain ⟨_, -, rfl⟩ := List.mem_map.1 hr
    -- an event that is corrected has a declaration
    exact List.mem_map.2 ⟨_, List.mem_flatMap.2 ⟨p, hp, List.mem_map_of_mem hd⟩, rfl⟩
  | attributes | links =>
    obtain rfl := List.mem_singleton.1 href
    obtain ⟨p, hp, hr⟩ := List.mem_flatMap.1 hr
    obtain ⟨_, -, rfl⟩ := List.mem_map.1 hr
    exact helement hp
  | subscriptions | parameters | pending => exact absurd ht (by decide)

end Captured

/-- What holds of the rows of an insertion holds of those that it carries for a table. -/
theorem Insertion.forall_rowsOf {i : Insertion} {P : (t : Table) → t.Row → Prop}
    (h : ∀ r ∈ i.rows, P i.table r) (t : Table) : ∀ r ∈ i.rowsOf t, P t r := by
  by_cases ht : i.table = t
  · subst ht
    rwa [rowsOf_self]
  · rw [rowsOf_of_ne ht]
    exact fun r hr => absurd hr List.not_mem_nil

/-- Only subscriptions have names that tell them apart. -/
theorem Table.filterMap_uniqueName {t : Table} (ht : t ≠ .subscriptions) (rs : List t.Row) :
    rs.filterMap t.uniqueName = [] := by
  rw [List.filterMap_eq_nil_iff]
  intro r _
  cases t with
  | subscriptions => exact absurd rfl ht
  | _ => rfl

/-- Rows refer to captured ones; only what belongs to a subscription refers to the subscription. -/
theorem Table.referred (t : Table) : ∀ ref ∈ t.references,
    ref.1.isCaptured = true ∨ ref.1 = .subscriptions ∧ t.isCaptured = false := by
  cases t <;> simp [references, isCaptured]

theorem Table.key_pending_injective : Function.Injective Table.pending.key := by
  intro p q hpq
  obtain ⟨hsubscription, hpq⟩ := List.cons.inj hpq
  obtain ⟨hrequest, -⟩ := List.cons.inj hpq
  obtain ⟨⟩ := p
  obtain ⟨⟩ := q
  exact congrArg₂ PendingRow.mk (Cell.integer.inj hsubscription) (Cell.integer.inj hrequest)

namespace Store

variable {s after : Store} {cs : List Captured}

namespace Journal

/-- What captured rows refer to is there. -/
theorem references_hold (h : s.Journal cs) {t : Table} (ht : t.isCaptured = true) :
    ∀ ref ∈ t.references, ∀ r ∈ s.rows t, ref.2 r ∈ s.keys ref.1 := by
  intro ref href r hr
  rw [h.rows_eq t ht] at hr
  obtain ⟨c, hc, hr⟩ := List.mem_flatMap.1 hr
  rcases t.referred ref href with hcaptured | ⟨-, hother⟩
  · rw [h.keys_eq hcaptured]
    exact List.mem_flatMap.2 ⟨c, hc, c.references_hold ht ref href r hr⟩
  · exact absurd ht (Bool.eq_false_iff.1 hother)

theorem isFilled (h : s.Journal cs) {t : Table} (ht : t.isCaptured = true) :
    ∀ r ∈ s.rows t, t.isFilled r = true := by
  intro r hr
  rw [h.rows_eq t ht] at hr
  obtain ⟨c, -, hr⟩ := List.mem_flatMap.1 hr
  exact c.isFilled t r hr

end Journal

namespace Constrained

theorem empty : Store.empty.Constrained where
  keys t := by cases t <;> exact .nil
  names t := by cases t <;> exact .nil
  references t _ _ r hr := by cases t <;> exact absurd hr List.not_mem_nil
  filled t r hr := by cases t <;> exact absurd hr List.not_mem_nil

/-- **What is put in keeps the constraints**, since they are checked. -/
theorem insert (h : s.Constrained) {i : Insertion} (hok : s.insert i = .ok after)
    (hfilled : ∀ r ∈ i.rows, i.table.isFilled r = true) : after.Constrained := by
  obtain ⟨-, -, hcheck, hrefs, rfl⟩ := insert_eq_ok_iff.1 hok
  obtain ⟨⟨hkeys, hnewKeys⟩, hnames, hnewNames⟩ := checkKeys_eq_ok_iff.1 hcheck
  have hgrown (t : Table) : (s.append i.table i.rows).keys t =
      s.keys t ++ (i.rowsOf t).map t.key := by
    rw [Store.keys, rows_append, List.map_append]
    rfl
  refine ⟨fun t => ?_, fun t => ?_, fun t ref href r hr => ?_, fun t r hr => ?_⟩
  · rw [hgrown]
    by_cases ht : i.table = t
    · subst ht
      rw [Insertion.rowsOf_self, List.nodup_append]
      exact ⟨h.keys _, hkeys, fun a ha b hb heq => hnewKeys b hb (heq ▸ ha)⟩
    · rw [Insertion.rowsOf_of_ne ht, List.map_nil, List.append_nil]
      exact h.keys t
  · rw [rows_append, List.filterMap_append]
    by_cases ht : i.table = t
    · subst ht
      rw [Insertion.rowsOf_self, List.nodup_append]
      exact ⟨h.names _, hnames, fun a ha b hb heq => hnewNames b hb (heq ▸ ha)⟩
    · rw [Insertion.rowsOf_of_ne ht, List.filterMap_nil, List.append_nil]
      exact h.names t
  · rw [rows_append] at hr
    rcases List.mem_append.1 hr with hr | hr
    · rw [hgrown]
      exact List.mem_append_left _ (h.references t ref href r hr)
    · exact Insertion.forall_rowsOf (P := fun t r => ∀ ref ∈ t.references,
        ref.2 r ∈ (s.append i.table i.rows).keys ref.1)
        (fun r hr ref href => referencesHold_iff.1 hrefs ref href r hr) t r hr ref href
  · rw [rows_append] at hr
    rcases List.mem_append.1 hr with hr | hr
    · exact h.filled t r hr
    · exact Insertion.forall_rowsOf (P := fun t r => t.isFilled r = true) hfilled t r hr

theorem insertAll (h : s.Constrained) {is : List Insertion} (hok : s.insertAll is = .ok after)
    (hfilled : ∀ i ∈ is, ∀ r ∈ i.rows, i.table.isFilled r = true) : after.Constrained := by
  induction is generalizing s with
  | nil =>
    obtain rfl : s = after := by simpa [Store.insertAll, pure, Except.pure] using hok
    exact h
  | cons i is ih =>
    obtain ⟨mid, hmid, hrest⟩ := insertAll_cons_eq_ok_iff.1 hok
    exact ih (h.insert hmid (hfilled i List.mem_cons_self)) hrest
      fun j hj => hfilled j (List.mem_cons_of_mem _ hj)

/-- **A request keeps the constraints**, whatever it is. -/
theorem record (h : s.Constrained) (ho : s.Orderly) (hj : s.Journal cs) {c : Captured}
    (hc : s.lastRequest < c.id) : (s.record c).Constrained := by
  have hrecorded := hj.record hc
  have hgrown (t : Table) (ht : t.isCaptured = true) : s.keys t ⊆ (s.record c).keys t := by
    rw [Store.keys, Store.keys, rows_record s c ht, List.map_append]
    exact List.subset_append_left _ _
  refine ⟨fun t => ?_, fun t => ?_, fun t ref href r hr => ?_, fun t r hr => ?_⟩
  · cases t with
    | subscriptions => exact h.keys .subscriptions
    | parameters => exact h.keys .parameters
    | pending => exact (ho.record hj hc).pending_nodup.map Table.key_pending_injective
    | _ => exact hrecorded.keys_nodup rfl
  · by_cases ht : t = .subscriptions
    · subst ht
      exact h.names .subscriptions
    · rw [Table.filterMap_uniqueName ht]
      exact .nil
  · cases t with
    | subscriptions => exact absurd href List.not_mem_nil
    | parameters =>
      have hold := h.references .parameters ref href r hr
      obtain rfl := List.mem_singleton.1 href
      exact hold
    | pending =>
      rcases List.mem_append.1 hr with hr | hr
      · have hold := h.references .pending ref href r hr
        rcases List.mem_cons.1 href with rfl | href
        · exact hold
        · obtain rfl := List.mem_singleton.1 href
          exact hgrown .requests rfl hold
      · -- every subscription is told of the request
        obtain ⟨sub, hsub, rfl⟩ := List.mem_map.1 hr
        rcases List.mem_cons.1 href with rfl | href
        · exact List.mem_map.2 ⟨sub, hsub, rfl⟩
        · obtain rfl := List.mem_singleton.1 href
          exact List.mem_map.2 ⟨_, List.mem_append_right _ (List.mem_singleton.2 rfl), rfl⟩
    | _ => exact hrecorded.references_hold rfl ref href r hr
  · cases t with
    | subscriptions => exact h.filled .subscriptions r hr
    | parameters => exact h.filled .parameters r hr
    | pending => rfl
    | _ => exact hrecorded.isFilled rfl r hr

/-- The rows of a subscription have all values that they need. -/
theorem isFilled_subscriptionInsertions (s : Store) (sub : Subscription) (id : Int) :
    ∀ i ∈ s.subscriptionInsertions sub id, ∀ r ∈ i.rows, i.table.isFilled r = true := by
  intro i hi
  rcases List.mem_append.1 hi with hi | hi
  · rcases List.mem_append.1 hi with hi | hi
    · obtain rfl := List.mem_singleton.1 hi
      exact List.forall_mem_singleton.2 rfl
    · obtain ⟨q, hq, rfl⟩ := List.mem_map.1 hi
      obtain ⟨_, -, hq⟩ := List.mem_flatMap.1 hq
      obtain ⟨_, -, rfl⟩ := List.mem_map.1 hq
      exact List.forall_mem_singleton.2 rfl
  · obtain ⟨_, -, rfl⟩ := List.mem_map.1 hi
    exact fun r _ => rfl

/-- A subscription that was put in has passed the checks. -/
theorem addSubscription (h : s.Constrained) {sub : Subscription} {id : Int}
    (hok : s.addSubscription sub = .ok (after, id)) : after.Constrained := by
  obtain ⟨n, -, hrest⟩ := bind_eq_ok_iff.1 hok
  obtain ⟨mid, hmid, hend⟩ := bind_eq_ok_iff.1 hrest
  obtain ⟨rfl, -⟩ := Prod.mk.inj (Except.ok.inj hend)
  exact (h.insertAll hmid (isFilled_subscriptionInsertions s sub n)).congr
    fun t => by cases t <;> rfl

/-- What takes rows away keeps the constraints if it takes along what refers to them. -/
theorem of_sublist (h : s.Constrained) (hrows : ∀ t, (after.rows t).Sublist (s.rows t))
    (hrefs : ∀ t : Table, ∀ ref ∈ t.references, ∀ r ∈ after.rows t,
      ref.2 r ∈ s.keys ref.1 → ref.2 r ∈ after.keys ref.1) : after.Constrained where
  keys t := (h.keys t).sublist ((hrows t).map _)
  names t := (h.names t).sublist ((hrows t).filterMap _)
  references t ref href r hr :=
    hrefs t ref href r hr (h.references t ref href r ((hrows t).subset hr))
  filled t r hr := h.filled t r ((hrows t).subset hr)

/-- What refers to a subscription goes with it. -/
theorem removeSubscription (h : s.Constrained) (name : String) :
    (s.removeSubscription name).Constrained := by
  have hkept {n : Int} (hn : [.integer n] ∈ s.keys .subscriptions)
      (hstay : (!((s.subscriptions.filter fun r => r.name == name).map
        SubscriptionRow.id).contains n) = true) :
      [.integer n] ∈ (s.removeSubscription name).keys .subscriptions := by
    obtain ⟨r, hr, hkey⟩ := List.mem_map.1 hn
    obtain rfl := Cell.integer.inj (List.cons.inj hkey).1
    refine List.mem_map.2 ⟨r, List.mem_filter.2 ⟨hr, ?_⟩, rfl⟩
    rw [bne_iff_ne]
    intro hname
    have hgone : r.id ∈ (s.subscriptions.filter fun r => r.name == name).map SubscriptionRow.id :=
      List.mem_map_of_mem (List.mem_filter.2 ⟨hr, beq_iff_eq.2 hname⟩)
    rw [List.contains_iff_mem.2 hgone] at hstay
    exact absurd hstay (by decide)
  refine h.of_sublist (fun t => ?_) fun t ref href r hr hold => ?_
  · cases t with
    | subscriptions | parameters | pending => exact List.filter_sublist
    | _ => exact .refl _
  · rcases t.referred ref href with hcaptured | ⟨hsubscriptions, hother⟩
    · rwa [Store.keys, rows_removeSubscription s name hcaptured]
    · cases t with
      | parameters =>
        obtain rfl := List.mem_singleton.1 href
        exact hkept hold (List.mem_filter.1 hr).2
      | pending =>
        rcases List.mem_cons.1 href with rfl | href
        · exact hkept hold (List.mem_filter.1 hr).2
        · obtain rfl := List.mem_singleton.1 href
          exact absurd hsubscriptions (by decide)
      | subscriptions => exact absurd href List.not_mem_nil
      | _ => exact absurd hother (by decide)

/-- Nothing refers to what is pending. -/
theorem acknowledge (h : s.Constrained) (scope : Scope) : (s.acknowledge scope).1.Constrained := by
  refine h.of_sublist (fun t => ?_) fun t ref href r _ hold => ?_
  · unfold Store.acknowledge
    split
    · exact .refl _
    · cases t with
      | pending => exact List.filter_sublist
      | _ => exact .refl _
  · rcases t.referred ref href with hcaptured | ⟨hsubscriptions, -⟩
    · rwa [Store.keys, rows_acknowledge s scope hcaptured]
    · have hrows : (s.acknowledge scope).1.rows .subscriptions = s.rows .subscriptions := by
        unfold Store.acknowledge
        split <;> rfl
      rw [hsubscriptions] at hold ⊢
      rwa [Store.keys, hrows]

end Constrained

/-- **The constraints hold in every reachable store.** -/
theorem Reachable.constrained (h : s.Reachable) : s.Constrained := by
  induction h with
  | empty => exact .empty
  | @step s after hs hstep ih =>
    obtain ⟨cs, ho, hj⟩ := hs.exists_journal
    cases hstep with
    | capture h =>
      obtain ⟨rfl, -, hlast, -⟩ := capture_eq_record h
      exact ih.record ho hj hlast
    | subscribe h => exact ih.addSubscription h
    | unsubscribe name => exact ih.removeSubscription name
    | acknowledge scope => exact ih.acknowledge scope
    | refuse fs => exact ih.congr fun t => by cases t <;> rfl

end Store

end Provenance
