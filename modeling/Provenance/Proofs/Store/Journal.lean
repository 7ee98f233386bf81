import Provenance.Proofs.Store.Insertion
import Provenance.Store.Subscription
import Provenance.Store.Capture

/-!
# The store as a journal

Nothing that was captured is ever changed or taken away, so the tables of requests, events and
master data are a journal: the rows of the captured requests, one request after the other, in the
order of their numbers.  The tables of subscriptions change in other ways, but their numbers too are
given in order and never again, and what is pending names a subscription and a request that are
there.

`Store.Reachable` holds of the stores that captures, subscriptions, their ends and acknowledgements
lead to, whatever the store refuses on the way.

## Main definitions

* `Captured`, `Captured.rows` — a captured request and its rows.
* `Store.record`, `Store.enroll` — the store after a request or a subscription came in.
* `Store.Step`, `Store.Reachable` — what happens to a store.
* `Store.Journal`, `Store.Orderly` — the invariants.

## Main results

* `Store.capture_eq_record`, `Store.addSubscription_eq_enroll` — what a success changes.
* `Store.Step.journal`, `Store.Reachable.exists_journal` — the invariants hold.
-/

namespace Provenance

/-! ### Captured requests -/

/-- A request as it was captured. -/
structure Captured where
  id : Int
  request : CaptureRequest
  user : Option String
  recordTime : Instant

/-- The rows of a captured request. -/
def Captured.rows (c : Captured) : (t : Table) → List t.Row
  | .requests => [c.request.row c.id c.user c.recordTime]
  | .headers => c.request.headerRows c.id
  | .contacts => c.request.contactRows c.id
  | .callbacks => c.request.callbackRows c.id
  | .events => c.request.eventParts fun i e => [e.row c.id i c.recordTime]
  | .epcs => c.request.eventParts fun i e => e.epcRows c.id i
  | .fields => c.request.eventParts fun i e => e.fieldRows c.id i
  | .transactions => c.request.eventParts fun i e => e.transactionRows c.id i
  | .parties => c.request.eventParts fun i e => e.partyRows c.id i
  | .declarations => c.request.eventParts fun i e => e.declarationRows c.id i
  | .correctives => c.request.eventParts fun i e => e.correctiveRows c.id i
  | .elements => c.request.elementParts fun i m => [m.row c.id i]
  | .attributes => c.request.elementParts fun i m => m.attributeRows c.id i
  | .links => c.request.elementParts fun i m => m.linkRows c.id i
  | .subscriptions | .parameters | .pending => []

/-- Whether a table holds what was captured. -/
def Table.isCaptured : Table → Bool
  | .subscriptions | .parameters | .pending => false
  | _ => true

open Insertion (rowsOf_of_ne flatMap_rowsOf_bulk)

/-- The statements of a request carry its rows. -/
theorem flatMap_rowsOf_insertions (c : Captured) (t : Table) :
    (c.request.insertions c.id c.user c.recordTime).flatMap (fun i => i.rowsOf t) = c.rows t := by
  simp only [CaptureRequest.insertions, List.flatMap_append, List.flatMap_cons, List.flatMap_nil,
    flatMap_rowsOf_bulk]
  cases t <;> simp [Insertion.rowsOf, Insertion.ofRows, Captured.rows]

namespace Store

/-- Stores with the same rows and the same numbers and refusals are the same. -/
theorem eq_of_rows {s s' : Store} (hrows : ∀ t, s.rows t = s'.rows t)
    (hreq : s.lastRequest = s'.lastRequest) (hsub : s.lastSubscription = s'.lastSubscription)
    (href : s.refusals = s'.refusals) : s = s' := by
  obtain ⟨⟩ := s
  obtain ⟨⟩ := s'
  simp only [mk.injEq]
  exact ⟨hrows .requests, hrows .headers, hrows .contacts, hrows .callbacks, hrows .events,
    hrows .epcs, hrows .fields, hrows .transactions, hrows .parties, hrows .declarations,
    hrows .correctives, hrows .elements, hrows .attributes, hrows .links, hrows .subscriptions,
    hrows .parameters, hrows .pending, hreq, hsub, href⟩

/-! ### What a success changes -/

/-- The store after a request was captured. -/
def record (s : Store) (c : Captured) : Store where
  requests := s.requests ++ c.rows .requests
  headers := s.headers ++ c.rows .headers
  contacts := s.contacts ++ c.rows .contacts
  callbacks := s.callbacks ++ c.rows .callbacks
  events := s.events ++ c.rows .events
  epcs := s.epcs ++ c.rows .epcs
  fields := s.fields ++ c.rows .fields
  transactions := s.transactions ++ c.rows .transactions
  parties := s.parties ++ c.rows .parties
  declarations := s.declarations ++ c.rows .declarations
  correctives := s.correctives ++ c.rows .correctives
  elements := s.elements ++ c.rows .elements
  attributes := s.attributes ++ c.rows .attributes
  links := s.links ++ c.rows .links
  subscriptions := s.subscriptions
  parameters := s.parameters
  pending := s.pending ++ s.subscriptions.map fun sub => ⟨sub.id, c.id⟩
  lastRequest := c.id
  lastSubscription := s.lastSubscription
  refusals := s.refusals

theorem rows_record (s : Store) (c : Captured) {t : Table} (h : t.isCaptured = true) :
    (s.record c).rows t = s.rows t ++ c.rows t := by
  cases t <;> first | rfl | exact absurd h (by decide)

/-- **A capture records the request** under a number greater than all others. -/
theorem capture_eq_record {s after : Store} {r : CaptureRequest} {user : Option String}
    {recordTime : Instant} {id : Int} (h : s.capture r user recordTime = .ok (after, id)) :
    after = s.record ⟨id, r, user, recordTime⟩ ∧
      (∀ q ∈ s.requests, q.id < id) ∧ s.lastRequest < id ∧ id ≤ maxNumber := by
  obtain ⟨n, hn, hrest⟩ := bind_eq_ok_iff.1 h
  obtain ⟨mid, hmid, hend⟩ := bind_eq_ok_iff.1 hrest
  obtain ⟨rfl, rfl⟩ := Prod.mk.inj (Except.ok.inj hend)
  obtain ⟨hlt, hlast, hmax⟩ := lt_nextNumber hn
  obtain ⟨-, hsub, href⟩ := frame_insertAll hmid
  refine ⟨?_, fun q hq => hlt _ (List.mem_map_of_mem hq), hlast, hmax⟩
  have hrows (t : Table) : mid.rows t =
      s.rows t ++ ((Captured.mk n r user recordTime).rows t ++ (s.markPending n).rowsOf t) := by
    rw [rows_insertAll hmid, List.flatMap_append, ← flatMap_rowsOf_insertions]
    simp
  refine eq_of_rows (fun t => ?_) rfl hsub href
  have ht := hrows t
  -- the marks go into one table, and the request into the others
  cases t with
  | pending => exact ht
  | subscriptions | parameters => exact ht.trans (List.append_nil _)
  | _ => exact ht.trans (congrArg _ (List.append_nil _))

/-- A capture whose statements are all admitted succeeds. -/
theorem capture_of_admitsAll {s : Store} {r : CaptureRequest} {user : Option String}
    {recordTime : Instant} (htaken : ∀ q ∈ s.requests, q.id ≤ s.lastRequest)
    (hlast : s.lastRequest < maxNumber)
    (h : s.admitsAll (r.insertions (s.lastRequest + 1) user recordTime ++
      [s.markPending (s.lastRequest + 1)]) = true) :
    s.capture r user recordTime =
      .ok (s.record ⟨s.lastRequest + 1, r, user, recordTime⟩, s.lastRequest + 1) := by
  have hnumber : s.nextNumber .requests (s.requests.map RequestRow.id) s.lastRequest
      (fun id => r.row id user recordTime) = .ok (s.lastRequest + 1) := by
    refine nextNumber_of_le (fun m hm => ?_) hlast
    obtain ⟨q, hq, rfl⟩ := List.mem_map.1 hm
    exact htaken q hq
  have hok : s.capture r user recordTime = .ok (_, s.lastRequest + 1) :=
    bind_eq_ok_iff.2 ⟨_, hnumber, bind_eq_ok_iff.2 ⟨_, insertAll_of_admitsAll h, rfl⟩⟩
  rw [hok, (capture_eq_record hok).1]

/-- The requests recorded since a time. -/
def recordedSince (s : Store) (since : Instant) : List RequestRow :=
  s.requests.filter fun r => r.recordTime.sortOrder (.integer since.millis) != .lt

/-- What is pending for a new subscription from the start. -/
def backfill (s : Store) (sub : Subscription) (id : Int) : List PendingRow :=
  sub.initialRecordTime.toList.flatMap fun since =>
    (s.recordedSince since).map fun r => ⟨id, r.id⟩

/-- The store after a subscription was put in. -/
def enroll (s : Store) (sub : Subscription) (id : Int) : Store :=
  { s with
    subscriptions := s.subscriptions ++ [sub.row id]
    parameters := s.parameters ++ sub.parameterRows id
    pending := s.pending ++ s.backfill sub id
    lastSubscription := id }

/-- The statements of a subscription carry its rows. -/
theorem flatMap_rowsOf_subscriptionInsertions (s : Store) (sub : Subscription) (id : Int)
    (t : Table) :
    s.rows t ++ (s.subscriptionInsertions sub id).flatMap (fun i => i.rowsOf t) =
      (s.enroll sub id).rows t := by
  cases t <;>
    simp [subscriptionInsertions, enroll, backfill, recordedSince, markSince, rows,
      Insertion.rowsOf, Insertion.ofRows, List.flatMap_map]

/-- **A subscription is enrolled** under a number greater than all others. -/
theorem addSubscription_eq_enroll {s after : Store} {sub : Subscription} {id : Int}
    (h : s.addSubscription sub = .ok (after, id)) :
    after = s.enroll sub id ∧
      (∀ r ∈ s.subscriptions, r.id < id) ∧ s.lastSubscription < id ∧ id ≤ maxNumber := by
  obtain ⟨n, hn, hrest⟩ := bind_eq_ok_iff.1 h
  obtain ⟨mid, hmid, hend⟩ := bind_eq_ok_iff.1 hrest
  obtain ⟨rfl, rfl⟩ := Prod.mk.inj (Except.ok.inj hend)
  obtain ⟨hlt, hlast, hmax⟩ := lt_nextNumber hn
  obtain ⟨hreq, -, href⟩ := frame_insertAll hmid
  refine ⟨?_, fun r hr => hlt _ (List.mem_map_of_mem hr), hlast, hmax⟩
  refine eq_of_rows (fun t => ?_) hreq rfl href
  rw [← flatMap_rowsOf_subscriptionInsertions, ← rows_insertAll hmid]
  cases t <;> rfl

/-- A subscription whose statements are all admitted is enrolled. -/
theorem addSubscription_of_admitsAll {s : Store} {sub : Subscription}
    (htaken : ∀ r ∈ s.subscriptions, r.id ≤ s.lastSubscription)
    (hlast : s.lastSubscription < maxNumber)
    (h : s.admitsAll (s.subscriptionInsertions sub (s.lastSubscription + 1)) = true) :
    s.addSubscription sub =
      .ok (s.enroll sub (s.lastSubscription + 1), s.lastSubscription + 1) := by
  have hnumber : s.nextNumber .subscriptions (s.subscriptions.map SubscriptionRow.id)
      s.lastSubscription sub.row = .ok (s.lastSubscription + 1) := by
    refine nextNumber_of_le (fun m hm => ?_) hlast
    obtain ⟨r, hr, rfl⟩ := List.mem_map.1 hm
    exact htaken r hr
  have hok : s.addSubscription sub = .ok (_, s.lastSubscription + 1) :=
    bind_eq_ok_iff.2 ⟨_, hnumber, bind_eq_ok_iff.2 ⟨_, insertAll_of_admitsAll h, rfl⟩⟩
  rw [hok, (addSubscription_eq_enroll hok).1]

/-! ### What leaves captured rows alone -/

theorem rows_enroll (s : Store) (sub : Subscription) (id : Int) {t : Table}
    (ht : t.isCaptured = true) : (s.enroll sub id).rows t = s.rows t := by
  cases t with
  | subscriptions | parameters | pending => exact absurd ht (by decide)
  | _ => rfl

theorem rows_removeSubscription (s : Store) (name : String) {t : Table}
    (ht : t.isCaptured = true) : (s.removeSubscription name).rows t = s.rows t := by
  cases t with
  | subscriptions | parameters | pending => exact absurd ht (by decide)
  | _ => rfl

theorem rows_acknowledge (s : Store) (c : Scope) {t : Table} (ht : t.isCaptured = true) :
    (s.acknowledge c).1.rows t = s.rows t := by
  unfold acknowledge
  split
  · rfl
  · cases t with
    | pending => exact absurd ht (by decide)
    | _ => rfl

/-! ### Requests -/

/-- The captured tables hold the rows of some captured requests, which came in the order of their
numbers. -/
structure Journal (s : Store) (cs : List Captured) : Prop where
  rows_eq : ∀ t : Table, t.isCaptured = true → s.rows t = cs.flatMap fun c => c.rows t
  ascending : (cs.map Captured.id).Pairwise (· < ·)
  bounds : ∀ c ∈ cs, 0 < c.id ∧ c.id ≤ s.lastRequest
  lastRequest_nonneg : 0 ≤ s.lastRequest

namespace Journal

variable {s after : Store} {cs : List Captured}

theorem nil : empty.Journal [] where
  rows_eq t _ := by cases t <;> rfl
  ascending := .nil
  bounds := by simp
  lastRequest_nonneg := Int.le_refl 0

theorem record (h : s.Journal cs) {c : Captured} (hc : s.lastRequest < c.id) :
    (s.record c).Journal (cs ++ [c]) where
  rows_eq t ht := by
    rw [rows_record s c ht, h.rows_eq t ht, List.flatMap_append, List.flatMap_cons,
      List.flatMap_nil, List.append_nil]
  ascending := by
    rw [List.map_append, List.pairwise_append]
    refine ⟨h.ascending, List.pairwise_singleton _ _, ?_⟩
    intro m hm n hn
    obtain ⟨d, hd, rfl⟩ := List.mem_map.1 hm
    obtain rfl : n = c.id := by simpa using hn
    have := h.bounds d hd
    omega
  bounds := by
    have hnonneg := h.lastRequest_nonneg
    intro d hd
    rcases List.mem_append.1 hd with hd | hd
    · have := h.bounds d hd
      exact ⟨this.1, by simp only [Store.record]; omega⟩
    · obtain rfl : d = c := by simpa using hd
      exact ⟨by omega, Int.le_refl _⟩
  lastRequest_nonneg := by
    have hnonneg := h.lastRequest_nonneg
    simp only [Store.record]
    omega

/-- What leaves the captured tables alone leaves the journal alone. -/
theorem congr (h : s.Journal cs)
    (hrows : ∀ t : Table, t.isCaptured = true → after.rows t = s.rows t)
    (hlast : after.lastRequest = s.lastRequest) : after.Journal cs where
  rows_eq t ht := (hrows t ht).trans (h.rows_eq t ht)
  ascending := h.ascending
  bounds := hlast ▸ h.bounds
  lastRequest_nonneg := hlast ▸ h.lastRequest_nonneg

theorem enroll (h : s.Journal cs) (sub : Subscription) (id : Int) : (s.enroll sub id).Journal cs :=
  h.congr (fun _ => rows_enroll s sub id) rfl

theorem removeSubscription (h : s.Journal cs) (name : String) :
    (s.removeSubscription name).Journal cs :=
  h.congr (fun _ => rows_removeSubscription s name) rfl

theorem acknowledge (h : s.Journal cs) (c : Scope) : (s.acknowledge c).1.Journal cs := by
  refine h.congr (fun _ => rows_acknowledge s c) ?_
  unfold Store.acknowledge
  split <;> rfl

theorem refuse (h : s.Journal cs) (fs : List Refusal) : { s with refusals := fs }.Journal cs :=
  h.congr (fun t _ => by cases t <;> rfl) rfl

/-- The rows of the requests, one for each. -/
theorem requests_eq (h : s.Journal cs) :
    s.requests = cs.map fun c => c.request.row c.id c.user c.recordTime := by
  have hrows : s.requests = cs.flatMap fun c => c.rows .requests := h.rows_eq .requests rfl
  rw [hrows, List.map_eq_flatMap]
  rfl

end Journal

/-! ### Subscriptions and what is pending -/

/-- Subscriptions came in the order of their numbers, and what is pending names one of them and a
number that was given to a request. -/
structure Orderly (s : Store) : Prop where
  ascending : (s.subscriptions.map SubscriptionRow.id).Pairwise (· < ·)
  subscription_le : ∀ r ∈ s.subscriptions, r.id ≤ s.lastSubscription
  pending_nodup : s.pending.Nodup
  pending_subscription : ∀ p ∈ s.pending, ∃ r ∈ s.subscriptions, r.id = p.subscription
  pending_request : ∀ p ∈ s.pending, 0 < p.request ∧ p.request ≤ s.lastRequest

namespace Orderly

variable {s : Store} {cs : List Captured}

theorem nil : empty.Orderly where
  ascending := .nil
  subscription_le := by simp [empty]
  pending_nodup := .nil
  pending_subscription := by simp [empty]
  pending_request := by simp [empty]

theorem ids_nodup (h : s.Orderly) : (s.subscriptions.map SubscriptionRow.id).Nodup :=
  h.ascending.imp fun hlt => by omega

theorem record (h : s.Orderly) (hj : s.Journal cs) {c : Captured} (hc : s.lastRequest < c.id) :
    (s.record c).Orderly where
  ascending := h.ascending
  subscription_le := h.subscription_le
  pending_nodup := by
    refine List.nodup_append.2 ⟨h.pending_nodup, ?_, ?_⟩
    · have hids := h.ids_nodup
      rw [List.Nodup, List.pairwise_map] at hids ⊢
      exact hids.imp fun hne heq => hne (congrArg PendingRow.subscription heq)
    · -- nothing is pending yet for a request with a new number
      rintro p hp _ hq rfl
      obtain ⟨r, -, hr⟩ := List.mem_map.1 hq
      have hle := (h.pending_request p hp).2
      rw [← hr] at hle
      simp only at hle
      omega
  pending_subscription := by
    intro p hp
    rcases List.mem_append.1 hp with hp | hp
    · exact h.pending_subscription p hp
    · obtain ⟨r, hr, rfl⟩ := List.mem_map.1 hp
      exact ⟨r, hr, rfl⟩
  pending_request := by
    have hnonneg := hj.lastRequest_nonneg
    intro p hp
    simp only [Store.record]
    rcases List.mem_append.1 hp with hp | hp
    · have := h.pending_request p hp
      omega
    · obtain ⟨r, -, rfl⟩ := List.mem_map.1 hp
      simp only
      omega

/-- The requests recorded since a time have numbers that were given to requests. -/
theorem backfill_bounds (hj : s.Journal cs) {sub : Subscription} {id : Int} {p : PendingRow}
    (hp : p ∈ s.backfill sub id) :
    p.subscription = id ∧ 0 < p.request ∧ p.request ≤ s.lastRequest := by
  obtain ⟨since, -, hp⟩ := List.mem_flatMap.1 hp
  obtain ⟨q, hq, rfl⟩ := List.mem_map.1 hp
  have hq := (List.mem_filter.1 hq).1
  rw [hj.requests_eq] at hq
  obtain ⟨c, hc, rfl⟩ := List.mem_map.1 hq
  exact ⟨rfl, hj.bounds c hc⟩

theorem backfill_nodup (hj : s.Journal cs) (sub : Subscription) (id : Int) :
    (s.backfill sub id).Nodup := by
  have hids : (s.requests.map RequestRow.id).Nodup := by
    rw [hj.requests_eq, List.map_map]
    exact hj.ascending.imp fun hlt => by omega
  unfold backfill
  cases sub.initialRecordTime with
  | none => exact .nil
  | some since =>
    rw [Option.toList_some, List.flatMap_cons, List.flatMap_nil, List.append_nil, List.Nodup,
      List.pairwise_map]
    rw [List.Nodup, List.pairwise_map] at hids
    refine (hids.sublist List.filter_sublist).imp fun hne heq => ?_
    exact hne (congrArg PendingRow.request heq)

theorem enroll (h : s.Orderly) (hj : s.Journal cs) {sub : Subscription} {id : Int}
    (hid : s.lastSubscription < id) : (s.enroll sub id).Orderly where
  ascending := by
    simp only [Store.enroll, List.map_append, List.map_cons, List.map_nil]
    refine List.pairwise_append.2 ⟨h.ascending, List.pairwise_singleton _ _, ?_⟩
    intro m hm n hn
    obtain ⟨r, hr, rfl⟩ := List.mem_map.1 hm
    obtain rfl : n = id := by simpa [Subscription.row] using hn
    have := h.subscription_le r hr
    omega
  subscription_le := by
    intro r hr
    rcases List.mem_append.1 hr with hr | hr
    · have := h.subscription_le r hr
      simp only [Store.enroll]
      omega
    · obtain rfl : r = sub.row id := by simpa using hr
      exact Int.le_refl _
  pending_nodup := by
    refine List.nodup_append.2 ⟨h.pending_nodup, backfill_nodup hj sub id, ?_⟩
    -- nor for a subscription with a new number
    rintro p hp _ hq rfl
    obtain ⟨r, hr, hrp⟩ := h.pending_subscription p hp
    have hle := h.subscription_le r hr
    have hp := (backfill_bounds hj hq).1
    omega
  pending_subscription := by
    intro p hp
    rcases List.mem_append.1 hp with hp | hp
    · obtain ⟨r, hr, hrp⟩ := h.pending_subscription p hp
      exact ⟨r, List.mem_append_left _ hr, hrp⟩
    · refine ⟨sub.row id, List.mem_append_right _ (List.mem_singleton.2 rfl), ?_⟩
      exact (backfill_bounds hj hp).1.symm
  pending_request := by
    intro p hp
    rcases List.mem_append.1 hp with hp | hp
    · exact h.pending_request p hp
    · exact (backfill_bounds hj hp).2

theorem removeSubscription (h : s.Orderly) (name : String) :
    (s.removeSubscription name).Orderly where
  ascending := h.ascending.sublist (List.filter_sublist.map _)
  subscription_le r hr := h.subscription_le r (List.mem_filter.1 hr).1
  pending_nodup := h.pending_nodup.sublist List.filter_sublist
  pending_subscription := by
    intro p hp
    obtain ⟨hp, hkept⟩ := List.mem_filter.1 hp
    obtain ⟨r, hr, hrp⟩ := h.pending_subscription p hp
    refine ⟨r, List.mem_filter.2 ⟨hr, ?_⟩, hrp⟩
    rw [bne_iff_ne]
    intro hname
    -- a subscription of that name would be among those that go
    have hgone : p.subscription ∈
        (s.subscriptions.filter fun r => r.name == name).map SubscriptionRow.id :=
      List.mem_map.2 ⟨r, List.mem_filter.2 ⟨hr, beq_iff_eq.2 hname⟩, hrp⟩
    rw [List.contains_iff_mem.2 hgone] at hkept
    exact absurd hkept (by decide)
  pending_request p hp := h.pending_request p (List.mem_filter.1 hp).1

theorem acknowledge (h : s.Orderly) (c : Scope) : (s.acknowledge c).1.Orderly := by
  unfold Store.acknowledge
  split
  · exact h
  · exact {
      ascending := h.ascending
      subscription_le := h.subscription_le
      pending_nodup := h.pending_nodup.sublist List.filter_sublist
      pending_subscription := fun p hp => h.pending_subscription p (List.mem_filter.1 hp).1
      pending_request := fun p hp => h.pending_request p (List.mem_filter.1 hp).1 }

theorem refuse (h : s.Orderly) (fs : List Refusal) : { s with refusals := fs }.Orderly :=
  ⟨h.ascending, h.subscription_le, h.pending_nodup, h.pending_subscription, h.pending_request⟩

end Orderly

/-! ### Reachable stores -/

/-- What happens to a store, where it succeeds.  What fails changes nothing. -/
inductive Step (s : Store) : Store → Prop
  | capture {r : CaptureRequest} {user : Option String} {recordTime : Instant} {after : Store}
      {id : Int} (h : s.capture r user recordTime = .ok (after, id)) : Step s after
  | subscribe {sub : Subscription} {after : Store} {id : Int}
      (h : s.addSubscription sub = .ok (after, id)) : Step s after
  | unsubscribe (name : String) : Step s (s.removeSubscription name)
  | acknowledge (c : Scope) : Step s (s.acknowledge c).1
  /-- From now on the store refuses some rows. -/
  | refuse (fs : List Refusal) : Step s { s with refusals := fs }

/-- The stores that steps lead to. -/
inductive Reachable : Store → Prop
  | empty : Reachable empty
  | step {s after : Store} (hs : Reachable s) (h : s.Step after) : Reachable after

/-- A step adds at most one request to the journal. -/
theorem Step.journal {s after : Store} {cs : List Captured} (h : s.Step after)
    (hs : s.Orderly ∧ s.Journal cs) : ∃ more, after.Orderly ∧ after.Journal (cs ++ more) := by
  obtain ⟨ho, hj⟩ := hs
  cases h with
  | @capture r user recordTime _ id h =>
    obtain ⟨rfl, -, hlast, -⟩ := capture_eq_record h
    exact ⟨[⟨id, r, user, recordTime⟩], ho.record hj hlast, hj.record hlast⟩
  | @subscribe sub _ id h =>
    obtain ⟨rfl, -, hlast, -⟩ := addSubscription_eq_enroll h
    exact ⟨[], ho.enroll hj hlast, by simpa using hj.enroll sub id⟩
  | unsubscribe name =>
    exact ⟨[], ho.removeSubscription name, by simpa using hj.removeSubscription name⟩
  | acknowledge c => exact ⟨[], ho.acknowledge c, by simpa using hj.acknowledge c⟩
  | refuse fs => exact ⟨[], ho.refuse fs, by simpa using hj.refuse fs⟩

/-- **A reachable store is orderly and holds a journal.** -/
theorem Reachable.exists_journal {s : Store} (h : s.Reachable) :
    ∃ cs, s.Orderly ∧ s.Journal cs := by
  induction h with
  | empty => exact ⟨[], .nil, .nil⟩
  | step _ hstep ih =>
    obtain ⟨cs, hs⟩ := ih
    obtain ⟨more, hafter⟩ := hstep.journal hs
    exact ⟨cs ++ more, hafter⟩

end Store

end Provenance
