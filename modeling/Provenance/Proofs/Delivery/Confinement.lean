import Provenance.Proofs.Delivery.Completeness
import Provenance.Proofs.Query.Answer
import Provenance.Proofs.Query.Execution
import Provenance.Proofs.Query.Ordering

/-!
# Confined answers

An evaluation reads a scope and then asks a query that is confined to it.  Captures may come in
between: they add requests with greater numbers than the scope reaches to, so what the scope covers
stays as it was when the scope was read.  The confined query has one condition more than the query
of a poll, and the same order, so it finds what the poll finds, less the events of requests that
were not pending.

The condition is one more that the statement has to carry.  A statement that is as large as a
statement may be becomes too large by it, and then the evaluation fails where the poll succeeds.

## Main definitions

* `Store.Captures` — a store after some more captures.
* `Event.isOfOneOf` — an event is of one of some requests.

## Main results

* `Store.Captures.any_covered` — what a scope covers after captures.
* `EventQuery.checkStatement_of_confine` — a statement that is confined is within the limits only if
  it is so by itself.
* `StandingQuery.execute_confined` — **a subscription sees what a poll sees of its pending
  requests.**
-/

namespace Provenance

/-! ### Captures after a scope was read -/

/-- A store after some more captures. -/
inductive Store.Captures (s : Store) : Store → Prop
  | refl : Captures s s
  | capture {mid after : Store} {r : CaptureRequest} {user : Option String} {recordTime : Instant}
      {id : Int} (hmid : Captures s mid) (h : mid.capture r user recordTime = .ok (after, id)) :
      Captures s after

namespace Store.Captures

variable {s later : Store} {cs : List Captured}

theorem reachable (h : s.Captures later) (hs : s.Reachable) : later.Reachable := by
  induction h with
  | refl => exact hs
  | capture _ h ih => exact ih.step (.capture h)

/-- Captures make requests pending that have greater numbers than all before. -/
theorem pending_eq (h : s.Captures later) :
    s.lastRequest ≤ later.lastRequest ∧
      ∃ new, later.pending = s.pending ++ new ∧ ∀ p ∈ new, s.lastRequest < p.request := by
  induction h with
  | refl => exact ⟨Int.le_refl _, [], (List.append_nil _).symm, by simp⟩
  | @capture mid after r user recordTime id _ h ih =>
    obtain ⟨hle, new, hpending, hnew⟩ := ih
    obtain ⟨rfl, -, hlast, -⟩ := capture_eq_record h
    refine ⟨by simp only [record]; omega, new ++ mid.subscriptions.map fun sub => ⟨sub.id, id⟩, ?_,
      fun p hp => ?_⟩
    · rw [← List.append_assoc, ← hpending]
      rfl
    · rcases List.mem_append.1 hp with hp | hp
      · exact hnew p hp
      · obtain ⟨sub, -, rfl⟩ := List.mem_map.1 hp
        simp only
        omega

/-- **What a scope covers after captures** is what was pending when it was read. -/
theorem any_covered (h : s.Captures later) (ho : s.Orderly) (hj : s.Journal cs) (id r : Int) :
    (later.pending.any fun p => covered (s.scope id) p && p.request == r) =
      (s.pendingRequests id).contains r := by
  obtain ⟨-, new, hpending, hnew⟩ := h.pending_eq
  rw [Bool.eq_iff_iff, List.any_eq_true, List.contains_iff_mem, mem_pendingRequests, hpending]
  constructor
  · rintro ⟨p, hp, hboth⟩
    obtain ⟨hcov, hrequest⟩ := Bool.and_eq_true_iff.1 hboth
    obtain ⟨hsub, hle⟩ := covered_iff.1 hcov
    obtain rfl : p.subscription = id := hsub
    obtain rfl := beq_iff_eq.1 hrequest
    rcases List.mem_append.1 hp with hp | hp
    · exact hp
    · -- the scope does not reach to requests that came later
      have hthrough := (within_scope ho hj p.subscription).through_le
      have := hnew p hp
      omega
  · intro hp
    refine ⟨⟨id, r⟩, List.mem_append_left _ hp, Bool.and_eq_true_iff.2 ⟨?_, beq_self_eq_true r⟩⟩
    exact covered_iff.2 ⟨rfl, le_scope_through (mem_pendingRequests.2 hp)⟩

end Store.Captures

/-! ### The statement of a confined query -/

/-- A condition that is read last makes the values no fewer, and no condition less deep. -/
theorem exists_readExtents_of_concat {e : Extent} {es : List Extent} {bound n d : Nat}
    {depth : Option Nat} {empty : Bool}
    (h : readExtents bound depth empty (es ++ [e]) = .ok (n, d)) :
    ∃ n' d', readExtents bound depth empty es = .ok (n', d') ∧ n' ≤ n ∧
      ((empty || (es ++ [e]).any Extent.isEmptyChoice) = false → d' ≤ d) := by
  induction es generalizing bound depth empty with
  | nil =>
    obtain ⟨-, -, -, h⟩ := readExtents_cons_eq_ok_iff.1 h
    obtain ⟨rfl, rfl⟩ := Prod.mk.inj (Except.ok.inj h)
    refine ⟨bound, depth.getD 0, rfl, Nat.le_add_right _ _, fun hempty => ?_⟩
    cases depth with
    | none => exact Nat.zero_le _
    | some k =>
      simp only [List.nil_append, List.any_cons, List.any_nil, Bool.or_false] at hempty
      simp only [Option.getD_some, joinedDepth, hempty, Bool.false_eq_true, if_false]
      omega
  | cons x es ih =>
    obtain ⟨hstart, hbound, hdepth, h⟩ := readExtents_cons_eq_ok_iff.1 h
    obtain ⟨n', d', hread, hn, hd⟩ := ih h
    refine ⟨n', d', readExtents_cons_eq_ok_iff.2 ⟨hstart, hbound, hdepth, hread⟩, hn,
      fun hempty => hd ?_⟩
    rwa [List.cons_append, List.any_cons, ← Bool.or_assoc] at hempty

/-- A statement is within the limits if it is so with one more condition. -/
theorem checkExtents_of_concat {e : Extent} {es : List Extent} (he : e.isEmptyChoice = false)
    (h : checkExtents (es ++ [e]) = .ok ()) : checkExtents es = .ok () := by
  obtain ⟨⟨n, d⟩, hread, h⟩ := bind_eq_ok_iff.1 h
  obtain ⟨_, hbound, h⟩ := bind_eq_ok_iff.1 h
  obtain ⟨n', d', hread', hn, hd⟩ := exists_readExtents_of_concat hread
  have hbound' : n' + 1 ≤ maxBound := by
    have := checkBound_eq_ok_iff.1 hbound
    omega
  refine bind_eq_ok_iff.2 ⟨(n', d'), hread', bind_eq_ok_iff.2 ⟨(),
    checkBound_eq_ok_iff.2 hbound', ?_⟩⟩
  have hany : (es ++ [e]).any Extent.isEmptyChoice = es.any Extent.isEmptyChoice := by
    simp [he]
  rw [hany] at h hd
  cases hchoice : es.any Extent.isEmptyChoice with
  | true => rfl
  | false =>
    rw [hchoice] at h hd
    have hdepth := checkDepth_eq_ok_iff.1 h
    have hd := hd rfl
    rw [List.map_append, List.foldl_append] at hdepth
    simp only [List.map_cons, List.map_nil, List.foldl_cons, List.foldl_nil] at hdepth
    exact checkDepth_eq_ok_iff.2 (by omega)

namespace EventQuery

/-- **A statement that is confined is within the limits only if it is so by itself.** -/
theorem checkStatement_of_confine {q : EventQuery} {c : Scope}
    (h : (q.confine c).checkStatement = .ok ()) : q.checkStatement = .ok () := by
  rw [checkStatement, confine, List.map_append] at h
  exact checkExtents_of_concat rfl h

/-- A confined statement binds the subscription and the end of the scope. -/
theorem length_values_confine (q : EventQuery) (c : Scope) :
    (q.confine c).statement.values.length = q.statement.values.length + 2 := by
  rw [length_values_statement, length_values_statement, confine, List.map_append, List.map_append,
    List.sum_append]
  rfl

/-- A confined statement within the limits, by the measures of the one that is not confined. -/
theorem checkStatement_confine_of_within {q : EventQuery} (c : Scope)
    (hvalues : q.statement.values.length + 2 ≤ maxBound)
    (hstart : ∀ p ∈ q.predicates, p.startsWithin)
    (hlength : q.predicates.length < maxConditions) :
    (q.confine c).checkStatement = .ok () := by
  refine checkStatement_of_within ?_ (fun p hp => ?_) ?_
  · rwa [length_values_confine]
  · rcases List.mem_append.1 hp with hp | hp
    · exact hstart p hp
    · obtain rfl := List.mem_singleton.1 hp
      trivial
  · rw [confine, List.length_append]
    exact hlength

end EventQuery

/-! ### What a subscription sees -/

/-- Whether an event is of one of some requests. -/
def Event.isOfOneOf (requests : List Int) (e : Event) : Bool :=
  e.id.any fun id => requests.contains id.request

namespace StandingQuery

/-- **A subscription sees what a poll sees of its pending requests.**  A scope is read, captures may
come in, and then parameters that pass the check are executed in the scope; none of them limits the
number of events.

* An empty scope gives no events, and nothing was pending.
* If the confined statement stays within the limits, the same parameters are answered without a
  scope, and the confined answer holds, in the same order, those of the events whose requests were
  pending when the scope was read.
* If it does not, and the scope is not empty, the store fails.

The confined statement binds two values more.  It stays within the limits if with these it binds no
more than a statement may, no hierarchy in it starts from no ids or from too many, and there is room
for one more condition. -/
theorem execute_confined {s later : Store} (hs : s.Reachable) (hlater : s.Captures later)
    (hsize : later.events.length ≤ maxRows) {ps : List Parameter}
    (hcheck : simpleEvent.check ps = .ok ())
    (hps : ∀ p ∈ ps, p.name ≠ "eventCountLimit" ∧ p.name ≠ "maxEventCount") (id : Int) :
    ∃ plan, EventPlan.ofParameters ps = .ok plan ∧
      ((s.scope id).isEmpty = true → s.pendingRequests id = [] ∧
        simpleEvent.execute later ps (some (s.scope id)) = .ok (.events [])) ∧
      ((plan.query.confine (s.scope id)).checkStatement = .ok () →
        ∃ es, simpleEvent.execute later ps none = .ok (.events es) ∧
          simpleEvent.execute later ps (some (s.scope id)) =
            .ok (.events (es.filter (Event.isOfOneOf (s.pendingRequests id))))) ∧
      (∀ e, (s.scope id).isEmpty = false →
        (plan.query.confine (s.scope id)).checkStatement = .error e →
        simpleEvent.execute later ps (some (s.scope id)) = .error (.storage e)) ∧
      (plan.query.confine (s.scope id)).statement.values.length =
        plan.query.statement.values.length + 2 ∧
      (plan.query.statement.values.length + 2 ≤ maxBound →
        (∀ p ∈ plan.query.predicates, p.startsWithin) →
        plan.query.predicates.length < maxConditions →
        (plan.query.confine (s.scope id)).checkStatement = .ok ()) := by
  obtain ⟨cs, ho, hj⟩ := hs.exists_journal
  obtain ⟨later_cs, -, hlaterJournal⟩ := (hlater.reachable hs).exists_journal
  obtain ⟨plan, hplan, -⟩ := map_eq_ok_iff.1 hcheck
  obtain ⟨hlimit, hmax⟩ := EventPlan.limit_eq_none hplan hps
  have hrun {q : EventQuery} {es : List Event} (h : q.fetch later = .ok es) :
      EventPlan.execute.run plan later q = .ok es := by
    rw [EventPlan.execute.run, h, hmax]
    rfl
  have hnone : (s.scope id).isEmpty = true → s.pendingRequests id = [] ∧
      simpleEvent.execute later ps (some (s.scope id)) = .ok (.events []) := by
    intro hempty
    refine ⟨(s.isEmpty_scope id).1 hempty, ?_⟩
    rw [execute_of_plan hplan, EventPlan.execute_of_asks_none (by simp [EventPlan.asks, hempty])]
    rfl
  refine ⟨plan, hplan, hnone, fun hok => ?_, fun e hempty he => ?_,
    EventQuery.length_values_confine _ _, EventQuery.checkStatement_confine_of_within _⟩
  · rw [hlaterJournal.events_eq, List.length_map] at hsize
    obtain ⟨xs, hxs, hrows, hconfined⟩ := hlaterJournal.exists_ordered hsize
      (EventPlan.isTemporal hplan) hlimit (.pendingFor id (s.scope id).through)
    have hall := hlaterJournal.fetch_of_rows (EventQuery.checkStatement_of_confine hok) hxs hrows
    have hpending (x : Recorded) :
        (Predicate.pendingFor id (s.scope id).through).holds later x.row =
          x.answer.isOfOneOf (s.pendingRequests id) :=
      (Predicate.holds_pendingFor later x.row (s.scope id)).trans
        (hlater.any_covered ho hj id x.captured.id)
    have hfilter : (xs.filter fun x =>
        (Predicate.pendingFor id (s.scope id).through).holds later x.row).map Recorded.answer =
        (xs.map Recorded.answer).filter (Event.isOfOneOf (s.pendingRequests id)) := by
      rw [List.filter_map]
      exact congrArg _ (List.filter_congr fun x _ => hpending x)
    refine ⟨xs.map Recorded.answer, ?_, ?_⟩
    · rw [execute_of_plan hplan, EventPlan.execute, hrun hall]
      rfl
    · cases hempty : (s.scope id).isEmpty with
      | true =>
        obtain ⟨hpendingNone, hexecute⟩ := hnone hempty
        rw [hexecute, hpendingNone, List.filter_eq_nil_iff.2]
        intro e _ he
        simp [Event.isOfOneOf] at he
      | false =>
        have hsub : (xs.filter fun x =>
            (Predicate.pendingFor id (s.scope id).through).holds later x.row) ⊆ recorded later_cs :=
          fun x hx => hxs (List.mem_filter.1 hx).1
        have hfetch := hlaterJournal.fetch_of_rows hok hsub hconfined
        rw [execute_of_plan hplan, EventPlan.execute_of_asks (q := plan.query.confine (s.scope id))
          (by simp [EventPlan.asks, hempty]), hrun hfetch, hfilter]
        rfl
  · rw [execute_of_plan hplan, EventPlan.execute_of_asks (q := plan.query.confine (s.scope id))
      (by simp [EventPlan.asks, hempty]), EventPlan.execute.run, EventQuery.fetch, he]
    rfl

/-- The store with a pending request, after the request came once more. -/
def laterStore : Store := Session.narrowStore.record ⟨2, Session.pairRequest, none, .epoch⟩

theorem reachable_narrowStore : Session.narrowStore.Reachable := by
  have hadd : Store.empty.addSubscription Session.narrowSubscription =
      .ok (Store.empty.enroll Session.narrowSubscription 1, 1) :=
    Store.addSubscription_of_admitsAll (by simp [Store.empty]) (by decide) (by decide +kernel)
  have hcapture : (Store.empty.enroll Session.narrowSubscription 1).capture Session.pairRequest
      none .epoch = .ok (Session.narrowStore, 1) :=
    Store.capture_of_admitsAll (by simp [Store.empty, Store.enroll]) (by decide) (by decide +kernel)
  exact (Store.Reachable.empty.step (.subscribe hadd)).step (.capture hcapture)

theorem captures_laterStore : Session.narrowStore.Captures laterStore := by
  have hcapture : Session.narrowStore.capture Session.pairRequest none .epoch =
      .ok (laterStore, 2) :=
    Store.capture_of_admitsAll (by decide) (by decide) (by decide +kernel)
  exact .capture .refl hcapture

/-- An answer holds what was pending, and not what came later.  As many filters as a statement just
carries are too many for a confined one. -/
theorem execute_confined_laterStore :
    (∃ es, simpleEvent.execute laterStore [] none = .ok (.events es) ∧
      simpleEvent.execute laterStore [] (some (Session.narrowStore.scope 1)) =
        .ok (.events (es.filter (Event.isOfOneOf (Session.narrowStore.pendingRequests 1))))) ∧
      (∃ es, simpleEvent.execute laterStore (Session.fieldFilters 984) none = .ok (.events es)) ∧
      simpleEvent.execute laterStore (Session.fieldFilters 984)
        (some (Session.narrowStore.scope 1)) = .error (.storage .tooDeep) := by
  have hsize : laterStore.events.length ≤ maxRows := by decide
  have hscope : Session.narrowStore.scope 1 = ⟨1, 1, 1⟩ := by decide +kernel
  refine ⟨?_, ?_, ?_⟩
  · have hcheck : simpleEvent.check [] = .ok () := rfl
    obtain ⟨plan, hplan, -, hanswer, -⟩ := execute_confined reachable_narrowStore
      captures_laterStore hsize hcheck (by simp) 1
    obtain rfl := Except.ok.inj hplan
    exact hanswer (by rw [hscope]; decide)
  · have hok : (Session.fieldQuery 984).checkStatement = .ok () := by
      rw [EventQuery.checkStatement, Session.extents_fieldQuery]
      decide +kernel
    rw [execute_of_plan (Session.plan_fieldFilters 984), EventPlan.execute_of_asks rfl]
    rcases EventPlan.run_cases (captures_laterStore.reachable reachable_narrowStore)
      ⟨Session.fieldQuery 984, none⟩ (Session.fieldQuery 984) with
      ⟨e, hlimit, -⟩ | ⟨-, ⟨es, hrun⟩ | ⟨n, hmax, -⟩⟩
    · exact absurd (hok.symm.trans hlimit) nofun
    · exact ⟨es, by rw [hrun]; rfl⟩
    · exact absurd hmax nofun
  · have hlimits : ∀ p ∈ Session.fieldFilters 984,
        p.name ≠ "eventCountLimit" ∧ p.name ≠ "maxEventCount" := by
      intro p hp
      have hplain := (Session.isPlain_fieldFilters hp).1
      simp only [Parameter.isShaping, ← Bool.not_eq_true, List.contains_iff_mem, List.mem_cons,
        List.not_mem_nil, or_false, not_or] at hplain
      exact ⟨hplain.2.2.1, hplain.2.2.2⟩
    obtain ⟨plan, hplan, -, -, hfails, -⟩ := execute_confined reachable_narrowStore
      captures_laterStore hsize (Session.check_fieldFilters 984) hlimits 1
    obtain rfl := Except.ok.inj ((Session.plan_fieldFilters 984).symm.trans hplan)
    refine hfails _ (by rw [hscope]; decide) ?_
    rw [EventQuery.checkStatement, EventQuery.confine, List.map_append, Session.extents_fieldQuery]
    decide +kernel

end StandingQuery

end Provenance
