import Mathlib.Data.List.Perm.Subperm
import Provenance.Proofs.Delivery.Conservation
import Provenance.Proofs.Event.Reassembly
import Provenance.Proofs.Query.Plan

/-!
# What is delivered

An acknowledgement takes whole requests off the list, and a query answers with events.  The two go
together by the scope: the query is confined to what is pending up to a number, and so is the
acknowledgement.  What is pending up to there only shrinks from the query to the acknowledgement, so
every event of a request that is taken off and that the filters accept was among those that the
query had to choose from.

Of these the destination gets as many as the answer has room for, in the order of the answer.  A
limit on the number of events leaves the rest out, and the acknowledgement takes their requests off
all the same.

## Main definitions

* `Store.wanted` — the events that an evaluation has to deliver.
* `Attempt.delivered` — the events that the destination took.
* `Attempt.Grounded` — what holds of a query that was answered.

## Main results

* `Attempt.Scoped.map_key_execute` — an answer holds the wanted events, as many as there is room
  for.
* `Session.delivered_of_settling` — **what is delivered before requests are taken off the list.**
-/

namespace Provenance

/-- The events that an evaluation has to deliver: those that satisfy all filters and belong to a
request that its scope covers. -/
def Store.wanted (s : Store) (ps : List Parameter) (c : Scope) : List EventRow :=
  s.events.filter fun e =>
    Parameter.wants ps s e && s.pending.any fun p => covered c p && p.request == e.request

/-! ### Answers -/

theorem Predicate.holds_pendingFor (s : Store) (e : EventRow) (c : Scope) :
    Predicate.holds s e (.pendingFor c.subscription c.through) =
      s.pending.any fun p => Store.covered c p && p.request == e.request := by
  simp only [Predicate.holds, Predicate.demand, Demand.isMet, List.any_filter]
  rfl

/-- What a confined query matches is what is wanted. -/
theorem EventPlan.matching_confine {ps : List Parameter} {plan : EventPlan}
    (h : EventPlan.ofParameters ps = .ok plan) (s : Store) (c : Scope) :
    (plan.query.confine c).matching s = s.wanted ps c := by
  rw [EventQuery.matching_eq, Store.wanted]
  refine List.filter_congr fun e _ => ?_
  rw [EventQuery.confine, List.all_append, EventPlan.all_predicates h, List.all_cons, List.all_nil,
    Bool.and_true, Predicate.holds_pendingFor]

/-- An answer about an empty scope is empty, and so is what is wanted. -/
theorem Store.wanted_eq_nil {s : Store} {c : Scope} {a : Attempt} (ha : a.Scoped s c)
    (hc : c.isEmpty = true) (ps : List Parameter) : s.wanted ps c = [] := by
  refine List.filter_eq_nil_iff.2 fun e _ he => ?_
  obtain ⟨-, hany⟩ := Bool.and_eq_true_iff.1 he
  obtain ⟨p, hp, hcov⟩ := List.any_eq_true.1 hany
  obtain ⟨hcov, -⟩ := Bool.and_eq_true_iff.1 hcov
  have hseen := ha.within.forall_covered p hp hcov
  rw [ha.isEmpty_iff.1 hc] at hseen
  exact absurd hseen List.not_mem_nil

/-- **The answer about a scope holds the wanted events in order, as many as there is room for.** -/
theorem Attempt.Scoped.map_key_execute {s : Store} {c : Scope} {a : Attempt} (ha : a.Scoped s c)
    {ps : List Parameter} {plan : EventPlan} (hplan : EventPlan.ofParameters ps = .ok plan)
    {es : List Event} (h : plan.execute s (some c) = .ok es) :
    es.map Event.key =
      (((s.wanted ps c).mergeSort fun x y => plan.query.compareRows x y != .gt).take
        (Parameter.room ps)).map EventRow.key := by
  simp only [EventPlan.execute] at h
  split at h
  · next hc =>
    -- the query is not asked at all
    obtain rfl := Except.ok.inj h
    rw [Store.wanted_eq_nil ha hc, List.mergeSort_nil, List.take_nil]
    rfl
  · have hrun := EventPlan.map_key_run hplan (q := plan.query.confine c) rfl h
    rw [EventPlan.matching_confine hplan] at hrun
    exact hrun

/-! ### Evaluations -/

namespace Attempt

/-- The keys of the events that the destination took. -/
def delivered (a : Attempt) : List PairKey :=
  match a.taken with
  | some ⟨_, _, .events es⟩ => es.map Event.key
  | _ => []

/-- What holds of an answer about a scope: what the scope covers was pending when the query was
asked. -/
structure Answered (s : Store) (a : Attempt) (c : Scope) (asked : Store) (r : Results) : Prop where
  reachable : asked.Reachable
  scope_eq : a.Scoped asked c
  execute_eq : ∃ q, StandingQuery.ofName a.subscription.query = some q ∧
    q.execute asked a.subscription.parameters (some c) = .ok r
  within : s.Within c fun p => p ∈ asked.pending

/-- What an evaluation does rests on its scope and on the answer to its query. -/
structure Grounded (s : Store) (a : Attempt) : Prop where
  sound : a.Sound s
  ready : a.stage = .ready → a.asked = none
  confined : ∀ q c, a.stage = .confined q c →
    a.asked = none ∧ StandingQuery.ofName a.subscription.query = some q
  answered : ∀ c, a.stage.scope? = some c → ∀ st r, a.asked = some (st, r) → a.Answered s c st r

variable {s after : Store} {a b : Attempt}

theorem Grounded.start (s : Store) (sub : Subscription) : (start sub).Grounded s where
  sound := .start s sub
  ready _ := rfl
  confined q c h := by simp [Attempt.start] at h
  answered c h := by simp [Attempt.start, Stage.scope?] at h

theorem Grounded.mono (h : a.Grounded s) (hg : s.Grows after) : a.Grounded after where
  sound := h.sound.mono hg
  ready := h.ready
  confined := h.confined
  answered c hc st r hasked := by
    obtain ⟨hreach, hscoped, hexecute, hwithin⟩ := h.answered c hc st r hasked
    exact ⟨hreach, hscoped, hexecute, hwithin.mono hg⟩

theorem Scoped.congr {c : Scope} (h : a.Scoped s c) (hsub : b.subscription = a.subscription)
    (hseen : b.seen = a.seen) : b.Scoped s c := by
  obtain ⟨heq, hempty, hle, hwithin⟩ := h
  exact ⟨hsub ▸ heq, hseen ▸ hempty, hseen ▸ hle, by rw [hseen]; exact hwithin⟩

/-- A step after the answer keeps what the evaluation rests on. -/
theorem Grounded.congr (h : a.Grounded s) (hb : b.Sound s) (hsub : b.subscription = a.subscription)
    (hseen : b.seen = a.seen) (hasked : b.asked = a.asked)
    (hlate : b.stage ≠ .ready ∧ ∀ q c, b.stage ≠ .confined q c)
    (hscope : ∀ c, b.stage.scope? = some c → a.stage.scope? = some c) : b.Grounded s where
  sound := hb
  ready hready := absurd hready hlate.1
  confined q c hconfined := absurd hconfined (hlate.2 q c)
  answered c hc st r hst := by
    obtain ⟨hreach, hscoped, hexecute, hwithin⟩ := h.answered c (hscope c hc) st r (hasked ▸ hst)
    exact ⟨hreach, hscoped.congr hsub hseen, hsub ▸ hexecute, hwithin⟩

theorem Grounded.step (hs : s.Reachable) (hstep : a.Step s b) (h : a.Grounded s) :
    b.Grounded s := by
  have hsound := h.sound.step hs hstep
  cases hstep with
  | read hstage hread =>
    -- there is no answer to a scope that has just been read
    have hnone := h.ready hstage
    obtain ⟨id, -, hname, rfl⟩ := readScope_eq_ok hread
    refine ⟨hsound, fun hready => absurd hready (by simp), ?_, ?_⟩
    · intro q c hconfined
      obtain ⟨rfl, rfl⟩ := Stage.confined.inj hconfined
      exact ⟨hnone, hname⟩
    · intro c _ st r hasked
      exact absurd (hnone.symm.trans hasked) (by simp)
  | @answer q c r hstage hexecute =>
    refine ⟨hsound, fun hready => absurd hready (by simp), fun _ _ h => absurd h (by simp), ?_⟩
    intro c' hc st r' hasked
    obtain rfl : c = c' := Option.some.inj hc
    obtain ⟨rfl, rfl⟩ := Prod.mk.inj (Option.some.inj hasked)
    -- the store that is asked is the one of the step
    have hscoped := h.sound.confined c (by rw [hstage]; rfl)
    refine ⟨hs, hscoped.congr rfl rfl, ⟨q, (h.confined q c hstage).2, hexecute⟩, ?_⟩
    exact ⟨hscoped.within.through_le, hscoped.within.known, fun p hp _ => hp⟩
  | send hstage | pass hstage | take hstage =>
    exact h.congr hsound rfl rfl rfl (by simp) fun c hc => by rw [hstage]; exact hc
  | acknowledge | finish =>
    exact h.congr hsound rfl rfl rfl (by simp) fun c hc => by simp [Stage.scope?] at hc

end Attempt

/-! ### Acknowledged requests -/

namespace Session

theorem grounded_run (moves : List Move) :
    ∀ a ∈ (run moves).attempts, a.Grounded (run moves).store :=
  forall_attempts Attempt.Grounded.start (fun _ _ _ hg h => h.mono hg)
    (fun _ _ _ hs hstep h => h.step hs hstep) moves

/-- As many things as there is room for are all of them exactly if there are no more. -/
theorem forall_mem_take_iff {α κ : Type} [DecidableEq κ] {key : α → κ} {wanted sorted : List α}
    (hperm : sorted.Perm wanted) (hkeys : (wanted.map key).Nodup) (n : Nat) :
    (∀ x ∈ wanted, key x ∈ (sorted.take n).map key) ↔ wanted.length ≤ n := by
  constructor
  · -- different things have different keys, so there are no more things than places
    intro hall
    have hsub : wanted.map key ⊆ (sorted.take n).map key := by
      intro k hk
      obtain ⟨x, hx, rfl⟩ := List.mem_map.1 hk
      exact hall x hx
    have hle := (List.subperm_of_subset hkeys hsub).length_le
    rw [List.length_map, List.length_map, List.length_take] at hle
    omega
  · intro hle x hx
    rw [List.take_of_length_le (hperm.length_eq ▸ hle)]
    exact List.mem_map_of_mem (hperm.mem_iff.2 hx)

/-- The answer that an evaluation of the event query has come to acknowledge. -/
theorem exists_answer {moves : List Move} {a : Attempt} (ha : a ∈ (run moves).attempts) {c : Scope}
    {d : Option Nat} (hstage : a.stage = .settling c d)
    (hquery : a.subscription.query = StandingQuery.simpleEvent.name) :
    ∃ st es plan, a.asked = some (st, .events es) ∧
      EventPlan.ofParameters a.subscription.parameters = .ok plan ∧
      plan.execute st (some c) = .ok es ∧ a.delivered = es.map Event.key ∧
      a.Answered (run moves).store c st (.events es) := by
  have hcons := consistent_run moves a ha
  simp only [Attempt.Consistent, hstage] at hcons
  obtain ⟨-, st, r, hasked, hsent⟩ := hcons
  have hanswered := (grounded_run moves a ha).answered c (by rw [hstage]; rfl) st r hasked
  obtain ⟨q, hq, hexecute⟩ := hanswered.execute_eq
  rw [hquery] at hq
  obtain rfl : StandingQuery.simpleEvent = q := Option.some.inj hq
  obtain ⟨plan, hplan, hexecute⟩ := bind_eq_ok_iff.1 hexecute
  obtain ⟨es, hes, rfl⟩ := map_eq_ok_iff.1 hexecute
  refine ⟨st, es, plan, hasked, mapError_eq_ok_iff.1 hplan, hes, ?_, hanswered⟩
  rcases hsent with htaken | ⟨htaken, hempty, -⟩
  · simp only [Attempt.delivered, htaken]
  · -- what was not sent had no events in it
    obtain rfl := List.isEmpty_iff.1 hempty
    simp only [Attempt.delivered, htaken, List.map_nil]

/-- An acknowledgement takes off what its evaluation had seen. -/
theorem mem_pendingRequests_settling {moves : List Move} {i : Nat} {a : Attempt} {c : Scope}
    {d : Option Nat} {r : Int} (ha : (run moves).attempts[i]? = some a)
    (hstage : a.stage = .settling c d) (refusal : Option Int) :
    r ∈ ((run moves).step (.advance i refusal)).store.pendingRequests c.subscription ↔
      r ∈ (run moves).store.pendingRequests c.subscription ∧ r ∉ a.seen := by
  have hmem := List.mem_of_getElem? ha
  have hscoped := (sound_run moves a hmem).confined c (by rw [hstage]; rfl)
  have hstore : ((run moves).step (.advance i refusal)).store =
      ((run moves).store.acknowledge c).1 := by
    simp only [step, ha, Attempt.next_store_of_settling hstage]
  rw [Store.mem_pendingRequests, Store.mem_pendingRequests, hstore,
    mem_acknowledge_iff (sound_run moves) hmem hstage, not_and]
  exact and_congr_right fun _ => ⟨fun h => h hscoped.subscription_eq, fun h _ => h⟩

/-- **What is delivered before requests are taken off the list.**  When an evaluation of the event
query is about to acknowledge, the destination has taken the wanted events in the order of the
answer, as many as there is room for.  The acknowledgement takes off only requests whose matching
events were all wanted, and the requests of all wanted events; and all of the wanted events were
delivered exactly if there was room for them. -/
theorem delivered_of_settling {moves : List Move} {i : Nat} {a : Attempt} {c : Scope}
    {d : Option Nat} (ha : (run moves).attempts[i]? = some a) (hstage : a.stage = .settling c d)
    (hquery : a.subscription.query = StandingQuery.simpleEvent.name) (refusal : Option Int) :
    ∃ st es plan, a.asked = some (st, .events es) ∧
      EventPlan.ofParameters a.subscription.parameters = .ok plan ∧
      a.delivered = (((st.wanted a.subscription.parameters c).mergeSort fun x y =>
        plan.query.compareRows x y != .gt).take (Parameter.room a.subscription.parameters)).map
          EventRow.key ∧
      (∀ r ∈ (run moves).store.pendingRequests c.subscription,
        r ∉ ((run moves).step (.advance i refusal)).store.pendingRequests c.subscription →
        ∀ e ∈ st.events, e.request = r → Parameter.wants a.subscription.parameters st e = true →
          e ∈ st.wanted a.subscription.parameters c) ∧
      (∀ e ∈ st.wanted a.subscription.parameters c, e.request ∉
        ((run moves).step (.advance i refusal)).store.pendingRequests c.subscription) ∧
      ((∀ e ∈ st.wanted a.subscription.parameters c, e.key ∈ a.delivered) ↔
        (st.wanted a.subscription.parameters c).length ≤
          Parameter.room a.subscription.parameters) := by
  have hmem := List.mem_of_getElem? ha
  obtain ⟨st, es, plan, hasked, hplan, hexecute, hdelivered, hanswered⟩ :=
    exists_answer hmem hstage hquery
  rw [hanswered.scope_eq.map_key_execute hplan hexecute] at hdelivered
  have hscoped := (sound_run moves a hmem).confined c (by rw [hstage]; rfl)
  have hafter (r : Int) := mem_pendingRequests_settling (r := r) ha hstage refusal
  refine ⟨st, es, plan, hasked, hplan, hdelivered, ?_, ?_, ?_⟩
  · intro r hr hgone e he hrequest hwants
    have hseen : r ∈ a.seen := by
      by_contra hunseen
      exact hgone ((hafter r).2 ⟨hr, hunseen⟩)
    -- what was seen is covered by the scope, and was still pending when the query was asked
    have hcov : Store.covered c ⟨c.subscription, r⟩ = true :=
      Store.covered_iff.2 ⟨rfl, hscoped.seen_le r hseen⟩
    have hpending :=
      hanswered.within.forall_covered _ (Store.mem_pendingRequests.1 hr) hcov
    refine List.mem_filter.2 ⟨he, Bool.and_eq_true_iff.2 ⟨hwants, ?_⟩⟩
    exact List.any_eq_true.2
      ⟨_, hpending, Bool.and_eq_true_iff.2 ⟨hcov, beq_iff_eq.2 hrequest.symm⟩⟩
  · -- a wanted event is of a request that the scope covers, hence of one that was seen
    intro e he hpending
    obtain ⟨-, he⟩ := List.mem_filter.1 he
    obtain ⟨p, hp, hcov⟩ := List.any_eq_true.1 (Bool.and_eq_true_iff.1 he).2
    obtain ⟨hcov, hrequest⟩ := Bool.and_eq_true_iff.1 hcov
    have hseen := hanswered.scope_eq.within.forall_covered p hp hcov
    rw [beq_iff_eq.1 hrequest] at hseen
    exact ((hafter e.request).1 hpending).2 hseen
  · obtain ⟨cs, -, hj⟩ := hanswered.reachable.exists_journal
    have hkeys : ((st.wanted a.subscription.parameters c).map EventRow.key).Nodup :=
      hj.events_keys_nodup.sublist (List.filter_sublist.map _)
    rw [hdelivered]
    exact forall_mem_take_iff (List.mergeSort_perm _ _) hkeys _

/-! ### An answer with no room for all events -/

/-- An event about nothing in particular. -/
def plainEvent : Event where
  id := none
  kind := .object
  time := .epoch
  recordTime := none
  timezoneOffset := "+00:00"
  action := some .observe
  businessStep := none
  disposition := none
  readPoint := none
  businessLocation := none
  name := none
  transformation := none
  errorDeclaration := none
  epcs := []
  customFields := []
  businessTransactions := []
  parties := []

/-- A request with two events. -/
def pairRequest : CaptureRequest where
  documentTime := .epoch
  schemaVersion := "1.2"
  header := none
  callback := none
  events := [plainEvent, plainEvent]
  masterData := []

/-- A subscription that takes one event at a time. -/
def narrowSubscription : Subscription where
  id := some 1
  name := "s1"
  query := "SimpleEventQuery"
  parameters := [⟨"eventCountLimit", ["1"]⟩]
  destination := "http://localhost/"
  active := true
  reportIfEmpty := true
  initialRecordTime := none
  trigger := .capture "urn:trigger"

/-- The store with the subscription and the request. -/
def narrowStore : Store :=
  (Store.empty.enroll narrowSubscription 1).record ⟨1, pairRequest, none, .epoch⟩

/-- The request is captured, and an evaluation comes to where it acknowledges. -/
def narrowMoves : List Move :=
  [.subscribe narrowSubscription, .capture pairRequest none .epoch, .begin narrowSubscription] ++
    List.replicate 4 (.advance 0 none)

/-- A query with no conditions is answered for whatever is pending. -/
theorem execute_narrow {s : Store} {cs : List Captured} (hj : s.Journal cs) {c : Scope}
    (hc : c.isEmpty = false)
    (hcheck : (EventQuery.confine ⟨[], none, some 1⟩ c).checkStatement = .ok ()) :
    ∃ es, StandingQuery.simpleEvent.execute s narrowSubscription.parameters (some c) =
      .ok (.events es) := by
  have hplan : EventPlan.ofParameters narrowSubscription.parameters =
      .ok ⟨⟨[], none, some 1⟩, none⟩ := by decide +kernel
  obtain ⟨xs, -, -, hfetch⟩ := hj.fetch_eq_ok hcheck
  have hrun : EventPlan.execute ⟨⟨[], none, some 1⟩, none⟩ s (some c) =
      .ok (xs.map Recorded.answer) := by
    simp only [EventPlan.execute, hc]
    exact bind_eq_ok_iff.2 ⟨_, mapError_eq_ok_iff.2 hfetch, rfl⟩
  exact ⟨_, bind_eq_ok_iff.2 ⟨_, mapError_eq_ok_iff.2 hplan, map_eq_ok_iff.2 ⟨_, hrun, rfl⟩⟩⟩

/-- An answer is sent, with or without events in it. -/
theorem dispose_narrow (c : Scope) (hc : c.isEmpty = false) (es : List Event) :
    narrowSubscription.dispose c (.events es) =
      .sending c ⟨narrowSubscription.query, some narrowSubscription.name, .events es⟩ := by
  simp [Subscription.dispose, hc, narrowSubscription]

theorem run_narrow : ∃ seen es taken,
    run narrowMoves = ⟨narrowStore,
      [⟨narrowSubscription, .settling ⟨1, 1, 1⟩ (some es.length), seen,
        some (narrowStore, .events es), some taken, false⟩],
      [⟨1, pairRequest, none, .epoch⟩], [⟨1, 1⟩]⟩ := by
  have hsubscribe : Store.empty.addSubscription narrowSubscription =
      .ok (Store.empty.enroll narrowSubscription 1, 1) :=
    Store.addSubscription_of_admitsAll (by simp [Store.empty]) (by decide) (by decide +kernel)
  have hcapture : (Store.empty.enroll narrowSubscription 1).capture pairRequest none .epoch =
      .ok (narrowStore, 1) :=
    Store.capture_of_admitsAll (by simp [Store.empty, Store.enroll]) (by decide)
      (by decide +kernel)
  have hread : narrowSubscription.readScope narrowStore = .ok (.simpleEvent, ⟨1, 1, 1⟩) := by
    decide +kernel
  have hjournal : narrowStore.Journal [⟨1, pairRequest, none, .epoch⟩] :=
    (Store.Journal.nil.enroll narrowSubscription 1).record (by decide)
  obtain ⟨es, hexecute⟩ := execute_narrow hjournal (c := ⟨1, 1, 1⟩) rfl (by decide +kernel)
  have hdispose := dispose_narrow ⟨1, 1, 1⟩ rfl es
  refine ⟨narrowStore.pendingRequests 1, es,
    ⟨narrowSubscription.query, some narrowSubscription.name, .events es⟩, ?_⟩
  simp only [run, narrowMoves, start, step, hsubscribe, hcapture, Attempt.start, Attempt.next,
    Attempt.note, Stage.next, hread, hexecute, hdispose, List.replicate, List.cons_append,
    List.nil_append, List.foldl_cons, List.foldl_nil, List.getElem?_cons_zero, List.set_cons_zero]
  rfl

/-- Where a limit leaves no room, a wanted event is not delivered, and its request is taken off. -/
theorem not_delivered_narrow : ∃ (a : Attempt) (e : EventRow),
    (run narrowMoves).attempts[0]? = some a ∧
      e ∈ narrowStore.wanted narrowSubscription.parameters ⟨1, 1, 1⟩ ∧ e.key ∉ a.delivered ∧
      e.request ∉ ((run narrowMoves).step (.advance 0 none)).store.pendingRequests 1 := by
  obtain ⟨seen, es, taken, hrun⟩ := run_narrow
  have hwanted : (narrowStore.wanted narrowSubscription.parameters ⟨1, 1, 1⟩).length = 2 := by
    decide +kernel
  have hroom : Parameter.room narrowSubscription.parameters = 1 := by decide +kernel
  have ha : (run narrowMoves).attempts[0]? = some _ :=
    congrArg (fun s : Session => s.attempts[0]?) hrun
  obtain ⟨st, es', plan, hasked, -, -, -, hgone, hall⟩ := delivered_of_settling ha rfl rfl none
  obtain ⟨rfl, -⟩ := Prod.mk.inj (Option.some.inj hasked)
  rw [hwanted, hroom] at hall
  have hnot := mt hall.1 (by decide)
  simp only [not_forall, exists_prop] at hnot
  obtain ⟨e, he, hkey⟩ := hnot
  exact ⟨_, e, ha, he, hkey, hgone e he⟩

end Session

end Provenance
