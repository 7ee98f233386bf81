import Provenance.Proofs.Event.RoundTrip
import Provenance.Proofs.Query.Normalization
import Provenance.Proofs.Repository.FailedCalls
import Provenance.Proofs.Subscription.RoundTrip

/-!
# Restarts

When a repository starts, its scheduler is filled with the subscriptions that are read from the
store.  They are those that were taken and not dropped, in the order in which they were taken, and
as they were registered when they were taken.  Only an initial record time comes back from
milliseconds.

This rests on three things.  Before a subscription is put into the store it is brought into normal
form, in which every parameter has values and a schedule can be read again.  In the store the rows
of a subscription are found by its number, which no other one has.  And what else happens to a
repository leaves what is stored and registered alone.

## Main definitions

* `Repository.Serves` — the subscriptions that a repository took and did not drop.
* `Store.Keeps` — a store holds the rows of some subscriptions.

## Main results

* `Store.Keeps.listSubscriptions` — what a store holds is read again.
* `Repository.Serves.keeps` — the invariant of a run.
* `Repository.list_of_serves` — **what runs after a restart is what ran before.**
-/

namespace Provenance

/-! ### Normal forms can be stored -/

theorem Trigger.isReadable_of_prepare {t t' : Trigger} (h : t.prepare = .ok t') :
    t'.IsReadable := by
  cases t with
  | schedule s =>
    rw [prepare] at h
    split at h
    · next hread =>
      obtain rfl := Except.ok.inj h
      exact Schedule.reread_of_read hread
    · exact absurd h (by simp)
  | capture uri =>
    rw [prepare] at h
    split at h
    · exact absurd h (by simp)
    · obtain rfl := Except.ok.inj h
      trivial

/-- A subscription in normal form can be stored, once it has a number. -/
theorem Subscription.Prepared.storable {sub prepared : Subscription} (h : sub.Prepared prepared)
    (id : Int) : ({ prepared with id := some id } : Subscription).Storable where
  id_eq := rfl
  values_ne_nil := by
    intro p hp
    rw [h.parameters] at hp
    exact (mem_normalize_iff.1 hp).1
  trigger := Trigger.isReadable_of_prepare h.trigger

/-! ### What a store holds -/

namespace Store

/-- A store holds the rows of some subscriptions, one after the other in the order of their
numbers. -/
structure Keeps (s : Store) (subs : List Subscription) : Prop where
  rows : s.subscriptions = subs.map fun sub => sub.row sub.number
  values : s.parameters = subs.flatMap fun sub => sub.parameterRows sub.number
  ascending : (subs.map Subscription.number).Pairwise (· < ·)
  number_le : ∀ sub ∈ subs, sub.number ≤ s.lastSubscription
  storable : ∀ sub ∈ subs, sub.Storable
  names_nodup : (subs.map Subscription.name).Nodup

namespace Keeps

variable {s after : Store} {subs : List Subscription}

theorem nil : empty.Keeps [] :=
  ⟨rfl, rfl, .nil, by simp, by simp, .nil⟩

theorem numbers_nodup (h : s.Keeps subs) : (subs.map Subscription.number).Nodup :=
  h.ascending.imp fun hlt => by omega

/-- **What a store holds is read again.** -/
theorem listSubscriptions (h : s.Keeps subs) :
    s.listSubscriptions = .ok (subs.map Subscription.restored) :=
  listSubscriptions_eq_ok h.rows h.values h.numbers_nodup h.storable

theorem names_eq (h : s.Keeps subs) :
    s.subscriptions.map SubscriptionRow.name = subs.map Subscription.name := by
  rw [h.rows, List.map_map]
  rfl

/-- What leaves the tables of subscriptions alone leaves what a store holds alone. -/
theorem congr (h : s.Keeps subs) (hrows : after.subscriptions = s.subscriptions)
    (hvalues : after.parameters = s.parameters)
    (hlast : after.lastSubscription = s.lastSubscription) : after.Keeps subs :=
  ⟨hrows.trans h.rows, hvalues.trans h.values, h.ascending, hlast ▸ h.number_le, h.storable,
    h.names_nodup⟩

theorem enroll (h : s.Keeps subs) {sub : Subscription} {id : Int} (hid : s.lastSubscription < id)
    (hname : sub.name ∉ subs.map Subscription.name)
    (hsub : ({ sub with id := some id } : Subscription).Storable) :
    (s.enroll sub id).Keeps (subs ++ [{ sub with id := some id }]) where
  rows := by
    rw [Store.enroll, h.rows, List.map_append]
    rfl
  values := by
    rw [Store.enroll, h.values, List.flatMap_append, List.flatMap_cons, List.flatMap_nil,
      List.append_nil]
    rfl
  ascending := by
    rw [List.map_append]
    refine List.pairwise_append.2 ⟨h.ascending, List.pairwise_singleton _ _, ?_⟩
    intro m hm n hn
    obtain ⟨old, hold, rfl⟩ := List.mem_map.1 hm
    obtain rfl : n = id := by simpa [Subscription.number] using hn
    have := h.number_le old hold
    omega
  number_le := by
    intro old hold
    simp only [Store.enroll]
    rcases List.mem_append.1 hold with hold | hold
    · have := h.number_le old hold
      omega
    · obtain rfl := List.mem_singleton.1 hold
      exact Int.le_refl _
  storable := by
    intro old hold
    rcases List.mem_append.1 hold with hold | hold
    · exact h.storable old hold
    · obtain rfl := List.mem_singleton.1 hold
      exact hsub
  names_nodup := by
    rw [List.map_append, List.nodup_append]
    refine ⟨h.names_nodup, List.nodup_singleton _, ?_⟩
    rintro _ hn _ hm rfl
    obtain rfl := List.mem_singleton.1 hm
    exact hname hn

/-- The rows of a subscription that is dropped are found by its number. -/
theorem removeSubscription (h : s.Keeps subs) (name : String) :
    (s.removeSubscription name).Keeps (subs.filter fun sub => sub.name != name) where
  rows := by
    rw [Store.removeSubscription, h.rows, List.filter_map]
    rfl
  values := by
    have hgone : ∀ sub ∈ subs,
        (!((s.subscriptions.filter fun r => r.name == name).map SubscriptionRow.id).contains
          sub.number) = (sub.name != name) := by
      intro sub hsub
      rw [h.rows, List.filter_map, List.map_map, bne, Bool.not_inj_iff, Bool.eq_iff_iff,
        List.contains_iff_mem, List.mem_map, beq_iff_eq]
      constructor
      · rintro ⟨other, hother, hnumber⟩
        obtain ⟨hother, hname⟩ := List.mem_filter.1 hother
        obtain rfl := List.inj_on_of_nodup_map h.numbers_nodup hother hsub hnumber
        exact beq_iff_eq.1 hname
      · intro hname
        exact ⟨sub, List.mem_filter.2 ⟨hsub, beq_iff_eq.2 hname⟩, rfl⟩
    have howner : ∀ sub ∈ subs, ∀ r ∈ sub.parameterRows sub.number,
        r.subscription = sub.number := by
      intro sub _ r hr
      obtain ⟨q, -, hr⟩ := List.mem_flatMap.1 hr
      obtain ⟨_, -, rfl⟩ := List.mem_map.1 hr
      rfl
    rw [Store.removeSubscription, ← List.filter_congr hgone, ← filter_flatMap_owner howner fun n =>
      !((s.subscriptions.filter fun r => r.name == name).map SubscriptionRow.id).contains n,
      ← h.values]
  ascending := h.ascending.sublist (List.filter_sublist.map _)
  number_le sub hsub := h.number_le sub (List.mem_filter.1 hsub).1
  storable sub hsub := h.storable sub (List.mem_filter.1 hsub).1
  names_nodup := h.names_nodup.sublist (List.filter_sublist.map _)

end Keeps

end Store

/-! ### What is registered -/

namespace Scheduler

/-- A subscription of a new name comes last. -/
theorem subscriptions_register {s : Scheduler} {sub : Subscription}
    (h : sub.name ∉ s.subscriptions.map Subscription.name) :
    (s.register sub).subscriptions = s.subscriptions ++ [sub] := by
  -- no entry of the name has to go
  have hkept : (s.subscriptions.filter fun other => other.name != sub.name) =
      s.subscriptions := by
    rw [List.filter_eq_self]
    intro other hother
    rw [bne_iff_ne]
    exact fun heq => h (heq ▸ List.mem_map_of_mem hother)
  conv_rhs => rw [← hkept]
  rw [register, subscriptions, subscriptions, List.map_append, List.filter_map]
  rfl

theorem subscriptions_remove (s : Scheduler) (name : String) :
    (s.remove name).subscriptions = s.subscriptions.filter fun sub => sub.name != name := by
  rw [remove, subscriptions, subscriptions, List.filter_map]
  rfl

/-- Subscriptions of different names are registered one after the other. -/
theorem subscriptions_ofSubscriptions (settings : SchedulerSettings) {subs : List Subscription}
    (hnames : (subs.map Subscription.name).Nodup) :
    (ofSubscriptions settings subs).subscriptions = subs := by
  have hfold (s : Scheduler) (h : ((s.subscriptions ++ subs).map Subscription.name).Nodup) :
      (subs.foldl register s).subscriptions = s.subscriptions ++ subs := by
    clear hnames
    induction subs generalizing s with
    | nil => exact (List.append_nil _).symm
    | cons sub subs ih =>
      have hnew : sub.name ∉ s.subscriptions.map Subscription.name := by
        rw [List.map_append, List.nodup_append] at h
        exact fun hin => h.2.2 _ hin _ List.mem_cons_self rfl
      have hregister : (s.register sub).subscriptions ++ subs = s.subscriptions ++ sub :: subs := by
        rw [subscriptions_register hnew, List.append_assoc, List.singleton_append]
      rw [List.foldl_cons, ih _ (hregister ▸ h), hregister]
  exact hfold (empty settings) hnames

end Scheduler

theorem Loop.subscriptions_next {l : Loop} {st : LoopStep} (hst : st.keepsNames = true) :
    (l.next st).1.scheduler.subscriptions = l.scheduler.subscriptions := by
  rcases l.next_cases st with hnone | ⟨-, hchange⟩
  · rw [hnone]
  · exact hchange.subscriptions hst

/-! ### Runs -/

namespace Repository

/-- The subscriptions that a repository took and did not drop, as they were registered, after calls
that succeeded and whatever else happened before, between and after them. -/
inductive Serves : Repository → List Subscription → Prop
  | start (settings : SchedulerSettings) : Serves ⟨.empty, .start settings []⟩ []
  | subscribe {r : Repository} {subs : List Subscription} {sub stored : Subscription}
      {after : Store} {replies : List Reply} (h : Serves r subs)
      (hserve : r.store.serve (.subscribe sub) = .ok (after, .register stored))
      (hcall : (r.call (.subscribe sub)).2 = .ok replies) :
      Serves (r.call (.subscribe sub)).1 (subs ++ [stored])
  | unsubscribe {r : Repository} {subs : List Subscription} {name : String} {replies : List Reply}
      (h : Serves r subs) (hcall : (r.call (.unsubscribe name)).2 = .ok replies) :
      Serves (r.call (.unsubscribe name)).1 (subs.filter fun sub => sub.name != name)
  | capture {r : Repository} {subs : List Subscription} (h : Serves r subs)
      (request : CaptureRequest) (user : Option String) (recordTime : Instant) (notify : Bool) :
      Serves (r.capture request user recordTime notify).1 subs
  | acknowledge {r : Repository} {subs : List Subscription} (h : Serves r subs) (scope : Scope) :
      Serves { r with store := (r.store.acknowledge scope).1 } subs
  | refuse {r : Repository} {subs : List Subscription} (h : Serves r subs) (fs : List Refusal) :
      Serves { r with store := { r.store with refusals := fs } } subs
  /-- The loop takes another step. -/
  | schedule {r : Repository} {subs : List Subscription} (h : Serves r subs) {st : LoopStep}
      (hst : st.keepsNames = true) : Serves { r with loop := (r.loop.next st).1 } subs
  | restart {r : Repository} {subs listed : List Subscription} (h : Serves r subs)
      (hlisted : r.store.listSubscriptions = .ok listed) (settings : SchedulerSettings) :
      Serves ⟨r.store, .start settings listed⟩ subs

variable {r : Repository} {subs : List Subscription}

/-- The store holds the subscriptions, and they are registered as they were or as a store gives them
back. -/
structure Mirrors (r : Repository) (subs : List Subscription) : Prop where
  store : r.store.Keeps subs
  registered : r.loop.scheduler.subscriptions.map Subscription.restored =
    subs.map Subscription.restored

theorem loop_ask (r : Repository) (caller : Nat) (c : Command) :
    (r.ask caller c).1 = { r with loop := (r.loop.next (.command caller c)).1 } := by
  rw [ask, Loop.next]
  cases r.loop.step (.command caller c) <;> rfl

/-- A call that succeeds takes its step on the store, and the loop carries out its message. -/
theorem call_of_ok {c : Call} {after : Store} {m : Command} {replies : List Reply}
    (hserve : r.store.serve c = .ok (after, m)) (hcall : (r.call c).2 = .ok replies) :
    (r.call c).1 = ⟨after, (r.loop.command 0 m).1⟩ := by
  by_cases hphase : r.loop.phase = .accepting
  · rw [call_of_accepting hserve hphase]
  · rw [call_of_not_accepting hserve hphase] at hcall
    exact absurd hcall (by simp)

namespace Mirrors

theorem start (settings : SchedulerSettings) : Mirrors ⟨.empty, .start settings []⟩ [] :=
  ⟨.nil, rfl⟩

theorem names_registered (h : r.Mirrors subs) :
    r.loop.scheduler.subscriptions.map Subscription.name = subs.map Subscription.name := by
  have hnames := congrArg (List.map Subscription.name) h.registered
  rwa [List.map_map, List.map_map] at hnames

/-- A step that registers and removes nothing leaves the registered subscriptions alone. -/
theorem schedule (h : r.Mirrors subs) {st : LoopStep} (hst : st.keepsNames = true) :
    Mirrors { r with loop := (r.loop.next st).1 } subs :=
  ⟨h.store, by rw [Loop.subscriptions_next hst]; exact h.registered⟩

theorem congr (h : r.Mirrors subs) {after : Store}
    (hrows : after.subscriptions = r.store.subscriptions)
    (hvalues : after.parameters = r.store.parameters)
    (hlast : after.lastSubscription = r.store.lastSubscription) :
    Mirrors { r with store := after } subs :=
  ⟨h.store.congr hrows hvalues hlast, h.registered⟩

theorem subscribe (h : r.Mirrors subs) {sub stored : Subscription} {after : Store}
    {replies : List Reply}
    (hserve : r.store.serve (.subscribe sub) = .ok (after, .register stored))
    (hcall : (r.call (.subscribe sub)).2 = .ok replies) :
    Mirrors (r.call (.subscribe sub)).1 (subs ++ [stored]) := by
  obtain ⟨prepared, stored', hprepare, hsubscribe, hstored⟩ :=
    Store.serve_subscribe_eq_ok_iff.1 hserve
  obtain rfl := Command.register.inj hstored
  obtain ⟨hfree, id, hadd, rfl⟩ := Store.subscribe_eq_ok_iff.1 hsubscribe
  obtain ⟨rfl, -, hlast, -⟩ := Store.addSubscription_eq_enroll hadd
  rw [call_of_ok hserve hcall]
  have hname : prepared.name ∉ subs.map Subscription.name := by
    rw [← h.store.names_eq]
    rwa [Store.isSome_findSubscription, Bool.eq_false_iff, ne_eq, List.contains_iff_mem] at hfree
  refine ⟨h.store.enroll hlast hname
    ((Subscription.prepared_of_prepare hprepare).storable id), ?_⟩
  have hnew : ({ prepared with id := some id } : Subscription).name ∉
      r.loop.scheduler.subscriptions.map Subscription.name := by
    rwa [h.names_registered]
  rw [Loop.scheduler_command, Scheduler.obey, Scheduler.subscriptions_register hnew,
    List.map_append, List.map_append, h.registered]

theorem unsubscribe (h : r.Mirrors subs) {name : String} {replies : List Reply}
    (hcall : (r.call (.unsubscribe name)).2 = .ok replies) :
    Mirrors (r.call (.unsubscribe name)).1 (subs.filter fun sub => sub.name != name) := by
  have hserve : r.store.serve (.unsubscribe name) =
      .ok (r.store.removeSubscription name, .remove name) := by
    cases hserve : r.store.serve (.unsubscribe name) with
    | error f =>
      rw [call_of_serve_error hserve] at hcall
      exact absurd hcall (by simp)
    | ok served =>
      obtain ⟨-, hafter, hm⟩ := Store.serve_unsubscribe_eq_ok_iff.1 hserve
      rw [← hafter, ← hm]
  rw [call_of_ok hserve hcall]
  refine ⟨h.store.removeSubscription name, ?_⟩
  have hfilter (l : List Subscription) :
      (l.filter fun sub => sub.name != name).map Subscription.restored =
        (l.map Subscription.restored).filter fun sub => sub.name != name := by
    rw [List.filter_map]
    rfl
  rw [Loop.scheduler_command, Scheduler.obey, Scheduler.subscriptions_remove, hfilter, hfilter,
    h.registered]

theorem capture (h : r.Mirrors subs) (request : CaptureRequest) (user : Option String)
    (recordTime : Instant) (notify : Bool) :
    Mirrors (r.capture request user recordTime notify).1 subs := by
  rw [Repository.capture]
  split
  · exact h
  · next after id hok =>
    obtain ⟨_, -, hcapture⟩ := bind_eq_ok_iff.1 hok
    obtain ⟨rfl, -⟩ := Store.capture_eq_record (mapError_eq_ok_iff.1 hcapture)
    have hafter : Mirrors { r with store := r.store.record ⟨id, request, user, recordTime⟩ } subs :=
      h.congr rfl rfl rfl
    cases notify with
    | false => exact hafter
    | true =>
      have hkeeps : (LoopStep.command 0 .captured).keepsNames = true := rfl
      have hasked := hafter.schedule hkeeps
      rw [← loop_ask] at hasked
      exact hasked

theorem restart (h : r.Mirrors subs) {listed : List Subscription}
    (hlisted : r.store.listSubscriptions = .ok listed) (settings : SchedulerSettings) :
    Mirrors ⟨r.store, .start settings listed⟩ subs := by
  obtain rfl := Except.ok.inj (h.store.listSubscriptions.symm.trans hlisted)
  refine ⟨h.store, ?_⟩
  have hnames : ((subs.map Subscription.restored).map Subscription.name).Nodup := by
    rw [List.map_map]
    exact h.store.names_nodup
  have hstart : (Loop.start settings (subs.map Subscription.restored)).scheduler.subscriptions =
      subs.map Subscription.restored := Scheduler.subscriptions_ofSubscriptions settings hnames
  rw [hstart, List.map_map]
  exact List.map_congr_left fun sub _ => sub.restored_restored

end Mirrors

/-- **What is stored and registered goes together** in every run. -/
theorem Serves.mirrors (h : r.Serves subs) : r.Mirrors subs := by
  induction h with
  | start settings => exact .start settings
  | subscribe _ hserve hcall ih => exact ih.subscribe hserve hcall
  | unsubscribe _ hcall ih => exact ih.unsubscribe hcall
  | capture _ request user recordTime notify ih => exact ih.capture request user recordTime notify
  | @acknowledge r subs _ scope ih =>
    obtain ⟨-, hlast, hrows⟩ := r.store.acknowledge_frame scope
    refine ih.congr hrows ?_ hlast
    unfold Store.acknowledge
    split <;> rfl
  | refuse _ fs ih => exact ih.congr rfl rfl rfl
  | schedule _ hst ih => exact ih.schedule hst
  | restart _ hlisted settings ih => exact ih.restart hlisted settings

/-- **What runs after a restart is what ran before.**  The store can always be read.  It gives back
the subscriptions that were taken and not dropped, in the order in which they were taken, as they
were registered then, except that an initial record time comes back from its milliseconds; these
are the same if and only if they lie in the calendar.  A scheduler that is filled with what was read
has exactly these subscriptions registered, and the one that runs has the same, up to initial record
times. -/
theorem list_of_serves (h : r.Serves subs) :
    r.store.listSubscriptions = .ok (subs.map Subscription.restored) ∧
      (∀ sub ∈ subs, sub.id = some sub.number) ∧
      (subs.map Subscription.number).Pairwise (· < ·) ∧
      r.loop.scheduler.subscriptions.map Subscription.restored =
        subs.map Subscription.restored ∧
      (∀ settings, (Loop.start settings (subs.map Subscription.restored)).scheduler.subscriptions =
        subs.map Subscription.restored) ∧
      ∀ sub ∈ subs, ∀ t, sub.initialRecordTime = some t →
        sub.restored.initialRecordTime = some t.kept ∧
          (t.SameMillis t.kept ↔ t.isStorable = true) := by
  have hmirrors := h.mirrors
  have hkeeps := hmirrors.store
  refine ⟨hkeeps.listSubscriptions, fun sub hsub => (hkeeps.storable sub hsub).id_eq,
    hkeeps.ascending, hmirrors.registered, fun settings => ?_, fun sub _ t ht => ⟨?_, ?_⟩⟩
  · refine Scheduler.subscriptions_ofSubscriptions settings ?_
    rw [List.map_map]
    exact hkeeps.names_nodup
  · rw [Subscription.restored, ht]
    rfl
  · exact t.sameMillis_kept_iff

/-- A subscription to what was recorded since the leap second after the last second of the
calendar. -/
def lateSubscription : Subscription :=
  { Loop.promptSubscription with initialRecordTime := some Store.lateEvent.time }

/-- A repository that has taken it. -/
def lateRepository : Repository :=
  ⟨Store.empty.enroll lateSubscription 1,
    (Loop.start Loop.strictSettings []).run [.command 0 (.register lateSubscription)]⟩

/-- An initial record time after the last second of the calendar does not come back. -/
theorem list_lateRepository :
    lateRepository.Serves [lateSubscription] ∧
      lateRepository.store.listSubscriptions =
        .ok [{ lateSubscription with initialRecordTime := some .epoch }] ∧
      ¬Store.lateEvent.time.SameMillis .epoch := by
  have hprepare : lateSubscription.prepare = .ok lateSubscription := by
    decide +kernel
  have hadd : Store.empty.addSubscription lateSubscription =
      .ok (Store.empty.enroll lateSubscription 1, 1) :=
    Store.addSubscription_of_admitsAll (by simp [Store.empty]) (by decide) (by decide +kernel)
  have hsubscribe : Store.empty.subscribe lateSubscription =
      .ok (Store.empty.enroll lateSubscription 1, lateSubscription) :=
    Store.subscribe_eq_ok_iff.2 ⟨by decide, 1, hadd, rfl⟩
  have hserve : Store.empty.serve (.subscribe lateSubscription) =
      .ok (Store.empty.enroll lateSubscription 1, .register lateSubscription) :=
    Store.serve_subscribe_eq_ok_iff.2 ⟨_, _, hprepare, hsubscribe, rfl⟩
  have hserves : lateRepository.Serves [lateSubscription] := by
    have hcall := call_of_accepting (r := ⟨.empty, .start Loop.strictSettings []⟩) hserve rfl
    have h := (Serves.start Loop.strictSettings).subscribe hserve (congrArg Prod.snd hcall)
    rw [hcall] at h
    exact h
  obtain ⟨hlist, -, -, -, -, htimes⟩ := list_of_serves hserves
  have hkept : Store.lateEvent.time.kept = .epoch := by decide
  obtain ⟨-, hmillis⟩ := htimes _ (List.mem_singleton.2 rfl) _ rfl
  rw [hkept] at hmillis
  refine ⟨hserves, hlist, fun h => absurd (hmillis.1 h) (by decide)⟩

end Repository

end Provenance
