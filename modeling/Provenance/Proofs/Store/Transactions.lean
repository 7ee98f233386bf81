import Provenance.Proofs.Store.Admission

/-!
# Transactions

A request or a subscription is put in by a transaction: its statements are carried out one after the
other on a copy of the store, which takes the place of the store when it is committed.  A
transaction can fail at any time, before, between and after its statements, and then the copy is
gone.  There is one transaction at a time; to take a subscription out and to acknowledge are single
statements, for which there is none.

So the store that is committed only ever changes by a whole request or subscription, or by one of
these statements.  It is well formed all the time, and what was captured stays as it is.

## Main definitions

* `Errand`, `Transaction`, `Database` — a committed store and the transaction that is open on it.
* `Database.Step`, `Database.Reached`, `Database.Later` — what happens to it.
* `Store.WellFormed` — the constraints hold, and captured rows are numbered without gaps.
* `Store.HasNone` — there is nothing of a request.

## Main results

* `Database.Sound.step` — what a transaction sees follows from what is committed.
* `Database.later_of_capture`, `Database.later_of_addSubscription` — a call that succeeds is a run
  of its transaction.
* `Database.wellFormed_of_reached` — **the store stays well formed**, and what was captured stays.
-/

namespace Provenance

/-! ### Well-formed stores -/

namespace Store

/-- The constraints hold, the rows of each owner are numbered from zero without a gap, and the
parents of custom fields are earlier ones of the same event that have none. -/
structure WellFormed (s : Store) : Prop where
  constrained : s.Constrained
  dense : ∀ t : Table, t.isIndexed = true → Dense (s.keys t)
  inside : ∀ r ∈ s.fields, r.parent = .null ∨ ∃ p ∈ s.fields, r.IsInside p

/-- **A reachable store is well formed.** -/
theorem Reachable.wellFormed {s : Store} (h : s.Reachable) : s.WellFormed := by
  obtain ⟨cs, -, hj⟩ := h.exists_journal
  exact ⟨h.constrained, fun t ht => hj.dense ht, hj.isInside⟩

/-- There is nothing of a request in a store. -/
structure HasNone (s : Store) (request : Int) : Prop where
  captured : ∀ t : Table, t.isCaptured = true →
    ∀ r ∈ s.rows t, (t.key r).head? ≠ some (.integer request)
  pending : ∀ p ∈ s.pending, p.request ≠ request

/-- There is nothing of a request that has yet to come. -/
theorem Reachable.hasNone {s : Store} (h : s.Reachable) {request : Int}
    (hnew : s.lastRequest < request) : s.HasNone request := by
  obtain ⟨cs, ho, hj⟩ := h.exists_journal
  refine ⟨fun t ht r hr heq => ?_, fun p hp heq => ?_⟩
  · rw [hj.rows_eq t ht] at hr
    obtain ⟨c, hc, hr⟩ := List.mem_flatMap.1 hr
    have hid := Cell.integer.inj (Option.some.inj ((c.row_shape t r hr).2.symm.trans heq))
    have := (hj.bounds c hc).2
    omega
  · have := (ho.pending_request p hp).2
    omega

/-- Captured rows stay, in their order. -/
theorem Step.rows_prefix {s after : Store} (h : s.Step after) (hs : s.Reachable) {t : Table}
    (ht : t.isCaptured = true) : s.rows t <+: after.rows t := by
  obtain ⟨cs, ho, hj⟩ := hs.exists_journal
  obtain ⟨more, -, hafter⟩ := h.journal ⟨ho, hj⟩
  rw [hj.rows_eq t ht, hafter.rows_eq t ht, List.flatMap_append]
  exact List.prefix_append _ _

end Store

/-! ### Transactions -/

/-- What a transaction is to put in. -/
inductive Errand
  | capture (c : Captured)
  | subscribe (sub : Subscription) (id : Int)

namespace Errand

/-- The number is the next one that the store gives. -/
def Begins (s : Store) : Errand → Prop
  | capture c => s.nextNumber .requests (s.requests.map RequestRow.id) s.lastRequest
      (fun id => c.request.row id c.user c.recordTime) = .ok c.id
  | subscribe sub id => s.nextNumber .subscriptions (s.subscriptions.map SubscriptionRow.id)
      s.lastSubscription sub.row = .ok id

/-- The statements to carry out. -/
def statements (s : Store) : Errand → List Insertion
  | capture c => c.statements s
  | subscribe sub id => s.subscriptionInsertions sub id

/-- The store that takes the place of the other one, once all statements have been carried out. -/
def close (work : Store) : Errand → Store
  | capture c => { work with lastRequest := c.id }
  | subscribe _ id => { work with lastSubscription := id }

/-- The store with what was to be put in. -/
def result (s : Store) : Errand → Store
  | capture c => s.record c
  | subscribe sub id => s.enroll sub id

variable {s work : Store} {e : Errand}

/-- What is committed is the whole of what was to be put in, and a step of the store. -/
theorem close_eq_result (he : e.Begins s) (hall : s.insertAll (e.statements s) = .ok work) :
    e.close work = e.result s ∧ s.Step (e.close work) := by
  cases e with
  | capture c =>
    have hok : s.capture c.request c.user c.recordTime =
        .ok ({ work with lastRequest := c.id }, c.id) :=
      bind_eq_ok_iff.2 ⟨_, he, bind_eq_ok_iff.2 ⟨_, hall, rfl⟩⟩
    exact ⟨(Store.capture_eq_record hok).1, .capture hok⟩
  | subscribe sub id =>
    have hok : s.addSubscription sub = .ok ({ work with lastSubscription := id }, id) :=
      bind_eq_ok_iff.2 ⟨_, he, bind_eq_ok_iff.2 ⟨_, hall, rfl⟩⟩
    exact ⟨(Store.addSubscription_eq_enroll hok).1, .subscribe hok⟩

end Errand

/-- A transaction: the copy of the store on which it works, and the statements that have still to be
carried out. -/
structure Transaction where
  errand : Errand
  work : Store
  rest : List Insertion

/-- The store that is committed, and the transaction that is open on it. -/
structure Database where
  committed : Store
  transaction : Option Transaction

namespace Database

/-- What happens to a database. -/
inductive Step (d : Database) : Database → Prop
  | begin {e : Errand} (h : d.transaction = none) (he : e.Begins d.committed) :
      Step d ⟨d.committed, some ⟨e, d.committed, e.statements d.committed⟩⟩
  | statement {e : Errand} {work after : Store} {i : Insertion} {rest : List Insertion}
      (h : d.transaction = some ⟨e, work, i :: rest⟩) (hi : work.insert i = .ok after) :
      Step d ⟨d.committed, some ⟨e, after, rest⟩⟩
  /-- For whatever reason, also when a statement would have succeeded. -/
  | fail {t : Transaction} (h : d.transaction = some t) : Step d ⟨d.committed, none⟩
  | commit {e : Errand} {work : Store} (h : d.transaction = some ⟨e, work, []⟩) :
      Step d ⟨e.close work, none⟩
  | unsubscribe (h : d.transaction = none) (name : String) :
      Step d ⟨d.committed.removeSubscription name, none⟩
  | acknowledge (h : d.transaction = none) (scope : Scope) :
      Step d ⟨(d.committed.acknowledge scope).1, none⟩
  /-- From now on the store refuses some rows. -/
  | refuse (h : d.transaction = none) (fs : List Refusal) :
      Step d ⟨{ d.committed with refusals := fs }, none⟩

/-- The databases that steps lead to from an empty store. -/
inductive Reached : Database → Prop
  | empty : Reached ⟨.empty, none⟩
  | step {d d' : Database} (hd : Reached d) (h : d.Step d') : Reached d'

/-- A database after some more steps. -/
inductive Later (d : Database) : Database → Prop
  | refl : Later d d
  | step {mid after : Database} (hmid : Later d mid) (h : mid.Step after) : Later d after

/-- What is committed is reachable by whole calls, and the open transaction has carried out the
first of its statements on a copy of it. -/
structure Sound (d : Database) : Prop where
  reachable : d.committed.Reachable
  opened : ∀ t, d.transaction = some t → t.errand.Begins d.committed ∧
    ∃ done, t.errand.statements d.committed = done ++ t.rest ∧
      d.committed.insertAll done = .ok t.work

namespace Sound

variable {d d' : Database}

theorem of_reachable {s : Store} (h : s.Reachable) : Sound ⟨s, none⟩ :=
  ⟨h, fun _ ht => absurd ht nofun⟩

/-- A transaction that has carried out all its statements has them carried out one after the
other. -/
theorem insertAll (h : d.Sound) {e : Errand} {work : Store}
    (ht : d.transaction = some ⟨e, work, []⟩) :
    e.Begins d.committed ∧ d.committed.insertAll (e.statements d.committed) = .ok work := by
  obtain ⟨hbegins, done, hdone, hall⟩ := h.opened _ ht
  rw [List.append_nil] at hdone
  exact ⟨hbegins, hdone ▸ hall⟩

/-- What a step can do to what is committed. -/
theorem committed_step (h : d.Sound) (hstep : d.Step d') :
    d'.committed = d.committed ∨ d.committed.Step d'.committed := by
  cases hstep with
  | begin | statement | fail => exact .inl rfl
  | commit ht =>
    obtain ⟨hbegins, hall⟩ := h.insertAll ht
    exact .inr (Errand.close_eq_result hbegins hall).2
  | unsubscribe _ name => exact .inr (.unsubscribe name)
  | acknowledge _ scope => exact .inr (.acknowledge scope)
  | refuse _ fs => exact .inr (.refuse fs)

/-- **What a transaction sees follows from what is committed.** -/
theorem step (h : d.Sound) (hstep : d.Step d') : d'.Sound := by
  have hreachable : d'.committed.Reachable := by
    rcases h.committed_step hstep with heq | hstore
    · exact heq ▸ h.reachable
    · exact h.reachable.step hstore
  cases hstep with
  | begin ht he =>
    refine ⟨hreachable, fun t heq => ?_⟩
    obtain rfl := Option.some.inj heq
    exact ⟨he, [], rfl, rfl⟩
  | @statement e work after i rest ht hi =>
    obtain ⟨hbegins, done, hdone, hall⟩ := h.opened _ ht
    refine ⟨hreachable, fun t heq => ?_⟩
    obtain rfl := Option.some.inj heq
    refine ⟨hbegins, done ++ [i], by rw [hdone, List.append_assoc]; rfl, ?_⟩
    exact Store.insertAll_append_eq_ok_iff.2
      ⟨work, hall, Store.insertAll_cons_eq_ok_iff.2 ⟨after, hi, rfl⟩⟩
  | _ => exact ⟨hreachable, fun _ ht => absurd ht nofun⟩

end Sound

variable {d d' : Database}

theorem Reached.sound (h : d.Reached) : d.Sound := by
  induction h with
  | empty => exact .of_reachable .empty
  | step _ hstep ih => exact ih.step hstep

theorem Later.sound (h : d.Later d') (hd : d.Sound) : d'.Sound := by
  induction h with
  | refl => exact hd
  | step _ hstep ih => exact ih.step hstep

theorem Reached.later (hd : d.Reached) (h : d.Later d') : d'.Reached := by
  induction h with
  | refl => exact hd
  | step _ hstep ih => exact ih.step hstep

/-- What was captured stays as it is. -/
theorem Later.rows_prefix (h : d.Later d') (hd : d.Sound) {t : Table} (ht : t.isCaptured = true) :
    d.committed.rows t <+: d'.committed.rows t := by
  induction h with
  | refl => exact List.prefix_refl _
  | step hmid hstep ih =>
    have hsound := hmid.sound hd
    rcases hsound.committed_step hstep with heq | hstore
    · rw [heq]
      exact ih
    · exact ih.trans (hstore.rows_prefix hsound.reachable ht)

/-! ### Calls that succeed -/

/-- Statements are carried out one after the other. -/
theorem Later.statements {s work after : Store} {e : Errand} {is : List Insertion}
    (h : d.Later ⟨s, some ⟨e, work, is⟩⟩) (hall : work.insertAll is = .ok after) :
    d.Later ⟨s, some ⟨e, after, []⟩⟩ := by
  induction is generalizing work with
  | nil =>
    obtain rfl : work = after := by simpa [Store.insertAll, pure, Except.pure] using hall
    exact h
  | cons i is ih =>
    obtain ⟨mid, hi, hrest⟩ := Store.insertAll_cons_eq_ok_iff.1 hall
    exact ih (h.step (.statement rfl hi)) hrest

/-- A transaction whose statements all succeed can be committed. -/
theorem later_of_insertAll {s work : Store} {e : Errand} (he : e.Begins s)
    (hall : s.insertAll (e.statements s) = .ok work) :
    Later ⟨s, none⟩ ⟨e.close work, none⟩ :=
  (Later.statements (Later.refl.step (.begin rfl he)) hall).step (.commit rfl)

/-- **A capture that succeeds is a run** of its transaction. -/
theorem later_of_capture {s after : Store} {r : CaptureRequest} {user : Option String}
    {recordTime : Instant} {id : Int} (h : s.capture r user recordTime = .ok (after, id)) :
    Later ⟨s, none⟩ ⟨after, none⟩ := by
  obtain ⟨n, hn, hrest⟩ := bind_eq_ok_iff.1 h
  obtain ⟨work, hall, hend⟩ := bind_eq_ok_iff.1 hrest
  obtain ⟨rfl, -⟩ := Prod.mk.inj (Except.ok.inj hend)
  exact later_of_insertAll (e := .capture ⟨n, r, user, recordTime⟩) hn hall

/-- **So is a subscription.** -/
theorem later_of_addSubscription {s after : Store} {sub : Subscription} {id : Int}
    (h : s.addSubscription sub = .ok (after, id)) : Later ⟨s, none⟩ ⟨after, none⟩ := by
  obtain ⟨n, hn, hrest⟩ := bind_eq_ok_iff.1 h
  obtain ⟨work, hall, hend⟩ := bind_eq_ok_iff.1 hrest
  obtain ⟨rfl, -⟩ := Prod.mk.inj (Except.ok.inj hend)
  exact later_of_insertAll (e := .subscribe sub n) hn hall

/-! ### Databases -/

/-- What a step of an open transaction leads to: it fails, carries out a statement, or commits. -/
theorem Sound.step_cases (h : d.Sound) {t : Transaction} (ht : d.transaction = some t)
    (hstep : d.Step d') :
    d' = ⟨d.committed, none⟩ ∨
      (∃ i rest work, t.rest = i :: rest ∧ t.work.insert i = .ok work ∧
        d' = ⟨d.committed, some ⟨t.errand, work, rest⟩⟩) ∨
      t.rest = [] ∧ d' = ⟨t.errand.result d.committed, none⟩ := by
  cases hstep with
  | fail => exact .inl rfl
  | @statement e work after i rest ht' hi =>
    obtain rfl := Option.some.inj (ht.symm.trans ht')
    exact .inr (.inl ⟨i, rest, after, rfl, hi, rfl⟩)
  | commit ht' =>
    obtain rfl := Option.some.inj (ht.symm.trans ht')
    obtain ⟨hbegins, hall⟩ := h.insertAll ht'
    exact .inr (.inr ⟨rfl, by rw [(Errand.close_eq_result hbegins hall).1]⟩)
  | begin hnone | unsubscribe hnone | acknowledge hnone | refuse hnone =>
    exact absurd (ht.symm.trans hnone) nofun

/-- No constraint stands against the next statement of a request. -/
theorem Sound.insert_of_capture (h : d.Sound) {c : Captured} {work : Store} {i : Insertion}
    {rest : List Insertion} (ht : d.transaction = some ⟨.capture c, work, i :: rest⟩) :
    (∀ r ∈ i.rows, i.table.isFilled r = true) ∧
      (work.insert i = .ok (work.append i.table i.rows) ∨ work.insert i = .error .refused) := by
  obtain ⟨cs, ho, hj⟩ := h.reachable.exists_journal
  obtain ⟨hbegins, done, hdone, hall⟩ := h.opened _ ht
  have hlast := (Store.lt_nextNumber hbegins).2.1
  have hfits := c.fits_statements d.committed h.reachable.constrained ho hj hlast
  have hstatements : c.statements d.committed = done ++ i :: rest := hdone
  refine ⟨c.isFilled_statements d.committed i ?_, ?_⟩
  · rw [hstatements]
    exact List.mem_append_right _ List.mem_cons_self
  · rw [hstatements] at hfits
    exact (hfits.of_insertAll hall).insert

/-- **The store stays well formed**, and what was captured stays.  In every database that is reached
the constraints hold, the rows of each owner are numbered from zero without a gap, and the parents
of custom fields are there; and whatever happens later, the captured rows stay as they are, and
others only come after them.

A capture fails only if a row is to be refused or there is no number left.  More closely, while a
transaction is open, it has carried out the first of its statements, on a copy of what is committed.
It may fail, and then what is committed is as it was when the transaction began; or go on; or, after
the last statement, commit all that was to be put in.  Of a request whose transaction is open
nothing is committed, and whatever the request is, its next statement carries all values that its
columns need and succeeds, if the store does not refuse it. -/
theorem wellFormed_of_reached (h : d.Reached) :
    d.committed.WellFormed ∧
      (∀ d', d.Later d' → ∀ t : Table, t.isCaptured = true →
        d.committed.rows t <+: d'.committed.rows t) ∧
      (∀ r user recordTime e, d.committed.capture r user recordTime = .error e →
        e = .refused ∨ e = .full) ∧
      ∀ t, d.transaction = some t →
        (∃ done, t.errand.statements d.committed = done ++ t.rest ∧
          d.committed.insertAll done = .ok t.work) ∧
        (∀ d', d.Step d' → d' = ⟨d.committed, none⟩ ∨
          (∃ i rest work, t.rest = i :: rest ∧ t.work.insert i = .ok work ∧
            d' = ⟨d.committed, some ⟨t.errand, work, rest⟩⟩) ∨
          t.rest = [] ∧ d' = ⟨t.errand.result d.committed, none⟩) ∧
        ∀ c, t.errand = .capture c →
          d.committed.HasNone c.id ∧
          ∀ i rest, t.rest = i :: rest →
            (∀ r ∈ i.rows, i.table.isFilled r = true) ∧
            (t.work.insert i = .ok (t.work.append i.table i.rows) ∨
              t.work.insert i = .error .refused) := by
  have hsound := h.sound
  refine ⟨hsound.reachable.wellFormed, fun d' hlater t ht => hlater.rows_prefix hsound ht,
    fun r user recordTime e he => Store.error_of_capture hsound.reachable he, fun t ht => ?_⟩
  obtain ⟨hbegins, hdone⟩ := hsound.opened t ht
  refine ⟨hdone, fun d' hstep => hsound.step_cases ht hstep,
    fun c hc => ⟨?_, fun i rest hrest => ?_⟩⟩
  · rw [hc] at hbegins
    exact hsound.reachable.hasNone (Store.lt_nextNumber hbegins).2.1
  · obtain ⟨errand, work, rest'⟩ := t
    obtain rfl : errand = .capture c := hc
    obtain rfl : rest' = i :: rest := hrest
    exact hsound.insert_of_capture ht

/-- An event with a custom field inside of another one. -/
def nestedEvent : Event where
  id := none
  kind := .object
  time := .epoch
  recordTime := none
  timezoneOffset := "+00:00"
  action := some .observe
  businessStep := none
  disposition := none
  readPoint := none
  businessLocation := none
  name := none
  transformation := none
  errorDeclaration := none
  epcs := []
  customFields :=
    [.node ⟨.extension, "urn:x", "a", none, none, none⟩
      [.node ⟨.extension, "urn:x", "b", none, none, none⟩ []]]
  businessTransactions := []
  parties := []

/-- A request with the event. -/
def nestedRequest : CaptureRequest where
  documentTime := .epoch
  schemaVersion := "1.2"
  header := none
  callback := none
  events := [nestedEvent]
  masterData := []

/-- The store with the request. -/
def nestedStore : Store := Store.empty.record ⟨1, nestedRequest, none, .epoch⟩

/-- The request once more. -/
def nestedAgain : Captured := ⟨2, nestedRequest, none, .epoch⟩

/-- The store, when the request comes once more and nothing has been carried out yet. -/
def nestedDatabase : Database :=
  ⟨nestedStore, some ⟨.capture nestedAgain, nestedStore, nestedAgain.statements nestedStore⟩⟩

/-- The store is well formed, with a field inside of another one, and has nothing yet of the request
that comes again. -/
theorem wellFormed_nestedDatabase :
    nestedDatabase.Reached ∧ nestedStore.WellFormed ∧
      (nestedStore.fields.map fun r => (r.index, r.parent)) =
        [(.integer 0, .null), (.integer 1, .integer 0)] ∧
      nestedStore.HasNone 2 := by
  have hcapture : Store.empty.capture nestedRequest none .epoch = .ok (nestedStore, 1) :=
    Store.capture_of_admitsAll (by simp [Store.empty]) (by decide) (by decide +kernel)
  have hbegins : (Errand.capture nestedAgain).Begins nestedStore :=
    Store.nextNumber_of_le (by decide) (by decide)
  have hreached : nestedDatabase.Reached :=
    (Reached.empty.later (later_of_capture hcapture)).step (.begin rfl hbegins)
  obtain ⟨hwellFormed, -, -, hopen⟩ := wellFormed_of_reached hreached
  obtain ⟨-, -, hcaptures⟩ := hopen _ rfl
  exact ⟨hreached, hwellFormed, by decide, (hcaptures nestedAgain rfl).1⟩

end Database

end Provenance
