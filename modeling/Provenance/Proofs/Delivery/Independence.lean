import Mathlib.Data.List.Induction
import Provenance.Proofs.Delivery.Completeness
import Provenance.Proofs.Store.Owners
import Provenance.Proofs.Scheduler.Steps

/-!
# Evaluations are independent

Evaluations of different subscriptions share the store, but each reads of what is pending, and takes
off, only what is pending for its own subscription.  So two steps of two of them may change places,
and any interleaving of evaluations comes to the same as the evaluations one after the other, in
whatever order.  All that differs is the store that a query was asked of, and of that only what is
pending for others.

The scheduler puts the end of each evaluation into the entry that was evaluated.  Different
evaluations are of different entries, so the order of the ends does not matter either.

A subscription that is put in under a name that was taken out has another number.  An evaluation of
the old one that still goes on cannot reach what is pending for the new one.

## Main definitions

* `Attempt.face`, `Session.face` — apart from the stores that queries were asked of.
* `Move.attempt?` — which evaluation a move is of.
* `oneByOne` — the moves of evaluations, one evaluation after the other.
* `Session.ends` — how the evaluations of a session ended.

## Main results

* `Session.step_comm` — steps of different evaluations may change places.
* `foldl_eq_of_filter_eq` — steps may be put in any order that keeps those of each evaluation.
* `Session.evaluations_independent` — **subscriptions do not interfere.**
-/

namespace Provenance

/-! ### Steps in another order -/

section Order

variable {σ α : Type} {step : σ → α → σ} {key : α → Nat} {Inv : σ → Prop}

/-- A step comes first that may change places with all before it. -/
theorem foldl_eq_of_forall_ne (hkeep : ∀ s a, Inv s → Inv (step s a))
    (hcomm : ∀ s a b, Inv s → key a ≠ key b → step (step s a) b = step (step s b) a) {a : α}
    {before : List α} (hbefore : ∀ b ∈ before, key b ≠ key a) (after : List α) {s : σ}
    (hs : Inv s) :
    (before ++ a :: after).foldl step s = (before ++ after).foldl step (step s a) := by
  induction before generalizing s with
  | nil => rfl
  | cons b before ih =>
    have hb : key b ≠ key a := hbefore b List.mem_cons_self
    have ih := ih (fun c hc => hbefore c (List.mem_cons_of_mem _ hc)) (hkeep s b hs)
    rw [List.cons_append, List.foldl_cons, ih, hcomm s b a hs hb]
    rfl

/-- **Steps may be put in any order that keeps those with the same key in order**, if those with
different keys may change places. -/
theorem foldl_eq_of_filter_eq (hkeep : ∀ s a, Inv s → Inv (step s a))
    (hcomm : ∀ s a b, Inv s → key a ≠ key b → step (step s a) b = step (step s b) a)
    {as bs : List α} (h : ∀ k, as.filter (fun a => key a == k) = bs.filter fun b => key b == k)
    {s : σ} (hs : Inv s) : as.foldl step s = bs.foldl step s := by
  induction as generalizing bs s with
  | nil =>
    cases bs with
    | nil => rfl
    | cons b bs =>
      have hb : b ∈ (b :: bs).filter fun c => key c == key b :=
        List.mem_filter.2 ⟨List.mem_cons_self, beq_self_eq_true _⟩
      rw [← h (key b)] at hb
      exact absurd hb List.not_mem_nil
  | cons a as ih =>
    -- the first step is also the first of its key in the other list
    have hfirst := h (key a)
    rw [List.filter_cons_of_pos (by simp)] at hfirst
    obtain ⟨before, after, rfl, hbefore, -, hafter⟩ := List.filter_eq_cons_iff.1 hfirst.symm
    have hne : ∀ b ∈ before, key b ≠ key a :=
      fun b hb hsame => hbefore b hb (beq_iff_eq.2 hsame)
    rw [foldl_eq_of_forall_ne hkeep hcomm hne after hs, List.foldl_cons]
    refine ih (fun k => ?_) (hkeep s a hs)
    have hk := h k
    rw [List.filter_append] at hk ⊢
    by_cases hsame : key a = k
    · obtain rfl := hsame
      have hnone : before.filter (fun b => key b == key a) = [] :=
        List.filter_eq_nil_iff.2 fun b hb => by simpa using hne b hb
      rw [hnone, List.nil_append, hafter]
    · rwa [List.filter_cons_of_neg (by simpa using hsame),
        List.filter_cons_of_neg (by simpa using hsame)] at hk

end Order

/-! ### What an evaluation reads and takes off -/

/-- Two subscriptions with different numbers; one that has none is apart from all. -/
def Subscription.Apart (a b : Subscription) : Prop := a.id = none ∨ a.id ≠ b.id

instance (a b : Subscription) : Decidable (a.Apart b) := by
  unfold Subscription.Apart
  infer_instance

/-- What is pending for a subscription. -/
def Store.own (s : Store) (id : Int) : List PendingRow :=
  s.pending.filter fun r => r.subscription == id

/-- A store with other pending requests. -/
def Store.withPending (s : Store) (rows : List PendingRow) : Store := { s with pending := rows }

section Pending

variable {s : Store} {rows : List PendingRow} {id : Int}

theorem Store.own_withPending : (s.withPending rows).own id = rows.filter fun r =>
    r.subscription == id := rfl

theorem Store.scope_withPending (h : (s.withPending rows).own id = s.own id) :
    (s.withPending rows).scope id = s.scope id := by
  simp only [Store.scope]
  rw [show (s.withPending rows).pending.filter (fun r => r.subscription == id) =
    s.pending.filter fun r => r.subscription == id from h]

theorem Store.pendingRequests_withPending (h : (s.withPending rows).own id = s.own id) :
    (s.withPending rows).pendingRequests id = s.pendingRequests id := by
  simp only [Store.pendingRequests]
  rw [show (s.withPending rows).pending.filter (fun r => r.subscription == id) =
    s.pending.filter fun r => r.subscription == id from h]

/-- What a scope covers is pending for its subscription. -/
theorem Store.filter_covered (s : Store) (c : Scope) :
    s.pending.filter (Store.covered c) =
      (s.own c.subscription).filter fun r => decide (r.request ≤ c.through) := by
  rw [Store.own, List.filter_filter]
  exact List.filter_congr fun r _ => Bool.and_comm _ _

theorem Predicate.demand_withPending {f : Predicate} (hf : f.asksPending = false) :
    f.demand (s.withPending rows) = f.demand s := by
  cases f with
  | pendingFor => exact absurd hf (by simp [asksPending])
  | _ => rfl

theorem Predicate.demand_pendingFor (h : (s.withPending rows).own id = s.own id) (through : Int) :
    (Predicate.pendingFor id through).demand (s.withPending rows) =
      (Predicate.pendingFor id through).demand s := by
  have hcovered := (s.withPending rows).filter_covered ⟨id, through, 0⟩
  rw [h, ← s.filter_covered ⟨id, through, 0⟩] at hcovered
  simp only [Predicate.demand]
  exact congrArg (fun pending : List PendingRow =>
    Demand.row fun e => pending.any fun r => r.request == e.request) hcovered

/-- An answer in a scope depends only on what is pending for the subscription of the scope. -/
theorem EventQuery.fetch_confine_withPending {q : EventQuery} {c : Scope}
    (hq : ∀ f ∈ q.predicates, f.asksPending = false)
    (h : (s.withPending rows).own c.subscription = s.own c.subscription) :
    (q.confine c).fetch (s.withPending rows) = (q.confine c).fetch s := by
  have hdemand : ∀ f ∈ (q.confine c).predicates,
      f.demand (s.withPending rows) = f.demand s := by
    intro f hf
    rcases List.mem_append.1 hf with hf | hf
    · exact Predicate.demand_withPending (hq f hf)
    · obtain rfl := List.mem_singleton.1 hf
      exact Predicate.demand_pendingFor h c.through
  have hrows : (q.confine c).rows (s.withPending rows) = (q.confine c).rows s := by
    have hmatching : (q.confine c).matching (s.withPending rows) = (q.confine c).matching s := by
      simp only [EventQuery.matching, Predicate.select]
      exact List.foldl_ext _ _ _ fun es f hf => by rw [hdemand f hf]
    rw [EventQuery.rows, hmatching]
    rfl
  rw [EventQuery.fetch, hrows]
  rfl

theorem StandingQuery.execute_withPending {c : Scope}
    (h : (s.withPending rows).own c.subscription = s.own c.subscription) (q : StandingQuery)
    (ps : List Parameter) :
    q.execute (s.withPending rows) ps (some c) = q.execute s ps (some c) := by
  cases q with
  | simpleMasterData => rfl
  | simpleEvent =>
    simp only [StandingQuery.execute]
    cases hplan : EventPlan.ofParameters ps with
    | error f => rfl
    | ok plan =>
      have hfetch := EventQuery.fetch_confine_withPending (EventPlan.asksPending_predicates hplan) h
      have hexecute : plan.execute (s.withPending rows) (some c) = plan.execute s (some c) := by
        simp only [EventPlan.execute, EventPlan.execute.run]
        rw [hfetch]
      exact congrArg (Except.map Results.events) hexecute

theorem Store.acknowledge_withPending {c : Scope}
    (h : (s.withPending rows).own c.subscription = s.own c.subscription) :
    ((s.withPending rows).acknowledge c).2 = (s.acknowledge c).2 := by
  unfold Store.acknowledge
  split
  · rfl
  · simp only [List.countP_eq_length_filter]
    rw [Store.filter_covered, h, ← Store.filter_covered]

end Pending

/-! ### The steps of one evaluation -/

/-- A step of an evaluation, where it may fail for a reason of its own. -/
inductive Turn
  | advance (refusal : Option Int)
  | fail (failure : RunFailure)

/-- The move in which an evaluation takes a step. -/
def Turn.move (i : Nat) : Turn → Move
  | advance refusal => .advance i refusal
  | fail f => .fail i f

namespace Attempt

/-- A step of an evaluation on a store. -/
def turn (s : Store) (a : Attempt) : Turn → Store × Attempt
  | .advance refusal => a.next refusal s
  | .fail f => (s, a.fail f)

/-- An evaluation apart from the store that its query was asked of. -/
def face (a : Attempt) : Attempt :=
  { a with asked := a.asked.map fun p => (Store.empty, p.2) }

@[simp] theorem face_face (a : Attempt) : a.face.face = a.face := by
  simp [face, Option.map_map, Function.comp_def]

/-- Whether a step of an evaluation leaves something pending. -/
def keeps (a : Attempt) (t : Turn) (r : PendingRow) : Bool :=
  match t, a.stage with
  | .advance _, .settling c _ => c.isEmpty || !Store.covered c r
  | _, _ => true

/-- The scope of an evaluation is one of its own subscription. -/
def Own (a : Attempt) : Prop :=
  ∀ c, a.stage.scope? = some c → a.subscription.id = some c.subscription

variable {s : Store} {a b : Attempt} {t : Turn}

theorem turn_step (s : Store) (a : Attempt) (t : Turn) : a.Step s (a.turn s t).2 := by
  cases t with
  | advance refusal => exact a.next_step refusal s
  | fail f => exact a.fail_step f s

theorem Step.subscription_eq (h : a.Step s b) : b.subscription = a.subscription := by
  cases h <;> rfl

/-- Steps keep the scope of an evaluation its own. -/
theorem Own.step (h : a.Own) (hstep : a.Step s b) : b.Own := by
  intro c hc
  cases hstep with
  | read hstage hread =>
    obtain ⟨id, hid, -, hscope⟩ := readScope_eq_ok hread
    obtain rfl := Option.some.inj hc
    rw [hscope]
    exact hid
  | answer hstage | send hstage | pass hstage | take hstage => exact h c (by rw [hstage]; exact hc)
  | acknowledge | finish => exact absurd hc (by simp [Stage.scope?])

/-- **What a step leaves pending**: all but what it takes off. -/
theorem turn_store (s : Store) (a : Attempt) (t : Turn) :
    (a.turn s t).1 = s.withPending (s.pending.filter (a.keeps t)) := by
  have hsame (hkeeps : ∀ r, a.keeps t r = true) :
      s.withPending (s.pending.filter (a.keeps t)) = s := by
    rw [List.filter_eq_self.2 fun r _ => hkeeps r]
    rfl
  cases t with
  | fail f => exact (hsame fun r => rfl).symm
  | advance refusal =>
    by_cases hstage : ∃ c d, a.stage = .settling c d
    · obtain ⟨c, d, hstage⟩ := hstage
      have hkeeps (r : PendingRow) :
          a.keeps (.advance refusal) r = (c.isEmpty || !Store.covered c r) := by
        simp only [keeps, hstage]
      rw [turn, next_store_of_settling hstage]
      cases hempty : c.isEmpty with
      | true =>
        rw [hsame fun r => by rw [hkeeps, hempty, Bool.true_or]]
        simp [Store.acknowledge, hempty]
      | false =>
        have hfilter : s.pending.filter (a.keeps (.advance refusal)) =
            s.pending.filter fun r => !Store.covered c r :=
          List.filter_congr fun r _ => by rw [hkeeps, hempty, Bool.false_or]
        rw [hfilter]
        simp [Store.acknowledge, hempty, Store.withPending]
    · have hkeeps (r : PendingRow) : a.keeps (.advance refusal) r = true := by
        unfold keeps
        split
        · next heq => exact absurd ⟨_, _, heq⟩ hstage
        · rfl
      rw [hsame hkeeps]
      exact Stage.next_store fun c d h => hstage ⟨c, d, h⟩

/-- Of what is pending for another subscription a step takes nothing off. -/
theorem Own.keeps_eq_true (h : a.Own) {id : Int} (hid : a.subscription.id ≠ some id) (t : Turn)
    {r : PendingRow} (hr : r.subscription = id) : a.keeps t r = true := by
  unfold keeps
  split
  · next c _ hstage =>
    have hother : r.subscription ≠ c.subscription := by
      intro hsame
      refine hid ?_
      rw [← hr, hsame]
      exact h c (by rw [hstage]; rfl)
    simp [Store.covered, hother]
  · rfl

theorem Own.own_turn (h : a.Own) {id : Int} (hid : a.subscription.id ≠ some id) (s : Store)
    (t : Turn) : (a.turn s t).1.own id = s.own id := by
  rw [turn_store, Store.own_withPending, List.filter_filter, Store.own]
  refine List.filter_congr fun r _ => ?_
  cases hr : r.subscription == id with
  | false => rfl
  | true => rw [h.keeps_eq_true hid t (beq_iff_eq.1 hr), Bool.and_self]

/-- **A step reads only what is pending for its own subscription.** -/
theorem Own.face_turn (h : a.Own) {rows : List PendingRow}
    (hown : ∀ id, a.subscription.id = some id → (s.withPending rows).own id = s.own id) (t : Turn) :
    (a.turn (s.withPending rows) t).2.face = (a.turn s t).2.face := by
  cases t with
  | fail f => rfl
  | advance refusal =>
    obtain ⟨sub, stage, seen, asked, taken, acknowledged⟩ := a
    have hscope {c : Scope} (hc : stage.scope? = some c) :
        (s.withPending rows).own c.subscription = s.own c.subscription :=
      hown c.subscription (h c hc)
    cases stage with
    | ready =>
      have hread : sub.readScope (s.withPending rows) = sub.readScope s := by
        cases hid : sub.id with
        | none => simp [Subscription.readScope, hid]
        | some id => simp only [Subscription.readScope, hid, Store.scope_withPending (hown id hid)]
      simp only [turn, next, Stage.next, hread]
      cases hok : sub.readScope s with
      | error f => rfl
      | ok p =>
        obtain ⟨q, c⟩ := p
        obtain ⟨id, hid, -, rfl⟩ := readScope_eq_ok hok
        have hseen : (s.withPending rows).pendingRequests (s.scope id).subscription =
            s.pendingRequests (s.scope id).subscription :=
          Store.pendingRequests_withPending (hown id hid)
        simp only [note, face, hseen]
    | confined q c =>
      simp only [turn, next, Stage.next]
      rw [StandingQuery.execute_withPending (hscope rfl)]
      cases q.execute s sub.parameters (some c) <;> rfl
    | settling c d =>
      simp only [turn, next, Stage.next, note, Store.acknowledge_withPending (hscope rfl)]
    | sending c r => cases refusal <;> rfl
    | answered c r => rfl
    | finished r => rfl

/-- No step depends on which store a query was asked of. -/
theorem turn_face (s : Store) (a : Attempt) (t : Turn) :
    (a.face.turn s t).1 = (a.turn s t).1 ∧ (a.face.turn s t).2.face = (a.turn s t).2.face := by
  obtain ⟨sub, stage, seen, asked, taken, acknowledged⟩ := a
  cases t with
  | fail f =>
    refine ⟨rfl, ?_⟩
    cases stage <;> simp [turn, fail, face, Option.map_map, Function.comp_def]
  | advance refusal =>
    refine ⟨rfl, ?_⟩
    simp only [turn, next, note, face]
    split <;> simp [Option.map_map, Function.comp_def]

end Attempt

/-! ### Steps of different evaluations -/

namespace Session

/-- An evaluation of a session takes a step. -/
def take (s : Session) (t : Nat × Turn) : Session := s.step (t.2.move t.1)

/-- A session apart from the stores that queries were asked of. -/
def face (s : Session) : Session := { s with attempts := s.attempts.map Attempt.face }

/-- The evaluations of a session are of different subscriptions, and so are their scopes. -/
structure Separate (s : Session) : Prop where
  own : ∀ a ∈ s.attempts, a.Own
  apart : ∀ (i j : Nat) (a b : Attempt), i ≠ j → s.attempts[i]? = some a →
    s.attempts[j]? = some b → a.subscription.Apart b.subscription

@[simp] theorem face_face (s : Session) : s.face.face = s.face := by
  simp only [face, List.map_map, Function.comp_def, Attempt.face_face]

variable {s : Session} {i j : Nat} {a b : Attempt}

theorem take_of_none (h : s.attempts[i]? = none) (t : Turn) : s.take (i, t) = s := by
  cases t <;> simp [take, Turn.move, step, h]

theorem take_of_some (h : s.attempts[i]? = some a) (t : Turn) :
    s.take (i, t) = { s with
      store := (a.turn s.store t).1
      attempts := s.attempts.set i (a.turn s.store t).2 } := by
  cases t <;> simp [take, Turn.move, step, h, Attempt.turn]

/-- No step depends on which stores queries were asked of. -/
theorem take_face (s : Session) (t : Nat × Turn) : (s.face.take t).face = (s.take t).face := by
  obtain ⟨i, t⟩ := t
  have hface : s.face.attempts[i]? = s.attempts[i]?.map Attempt.face := List.getElem?_map
  cases hi : s.attempts[i]? with
  | none =>
    rw [hi] at hface
    rw [take_of_none hi, take_of_none hface, face_face]
  | some a =>
    rw [hi] at hface
    obtain ⟨hstore, hattempt⟩ := Attempt.turn_face s.store a t
    rw [take_of_some hi, take_of_some hface]
    simp only [face, List.map_set, List.map_map, Function.comp_def, Attempt.face_face, hstore,
      hattempt]

/-- Steps keep evaluations separate. -/
theorem Separate.take (h : s.Separate) (t : Nat × Turn) : (s.take t).Separate := by
  obtain ⟨i, t⟩ := t
  cases hi : s.attempts[i]? with
  | none =>
    rw [take_of_none hi]
    exact h
  | some a =>
    rw [take_of_some hi]
    have hstep := a.turn_step s.store t
    have hsub (k : Nat) {c : Attempt}
        (hc : (s.attempts.set i (a.turn s.store t).2)[k]? = some c) :
        ∃ b, s.attempts[k]? = some b ∧ c.subscription = b.subscription := by
      by_cases hk : i = k
      · subst hk
        rw [List.getElem?_set_self (List.getElem?_eq_some_iff.1 hi).1] at hc
        obtain rfl := Option.some.inj hc
        exact ⟨a, hi, hstep.subscription_eq⟩
      · rw [List.getElem?_set_ne hk] at hc
        exact ⟨c, hc, rfl⟩
    refine ⟨fun c hc => ?_, fun j k c d hjk hc hd => ?_⟩
    · rcases List.mem_or_eq_of_mem_set hc with hc | rfl
      · exact h.own c hc
      · exact (h.own a (List.mem_of_getElem? hi)).step hstep
    · obtain ⟨c', hc', hsubc⟩ := hsub j hc
      obtain ⟨d', hd', hsubd⟩ := hsub k hd
      rw [hsubc, hsubd]
      exact h.apart j k c' d' hjk hc' hd'

theorem Separate.face (h : s.Separate) : s.face.Separate := by
  refine ⟨fun a ha => ?_, fun j k a b hjk ha hb => ?_⟩
  · obtain ⟨a', ha', rfl⟩ := List.mem_map.1 ha
    exact h.own a' ha'
  · obtain ⟨a', ha', rfl⟩ := Option.map_eq_some_iff.1 (List.getElem?_map.symm.trans ha)
    obtain ⟨b', hb', rfl⟩ := Option.map_eq_some_iff.1 (List.getElem?_map.symm.trans hb)
    exact h.apart j k a' b' hjk ha' hb'

/-- What a step leaves pending for another evaluation, and the step that this one takes then. -/
theorem Separate.turn_after (h : s.Separate) (hij : i ≠ j) (hi : s.attempts[i]? = some a)
    (hj : s.attempts[j]? = some b) (t u : Turn) :
    (b.turn (a.turn s.store t).1 u).1 =
        s.store.withPending (s.store.pending.filter fun r => a.keeps t r && b.keeps u r) ∧
      (b.turn (a.turn s.store t).1 u).2.face = (b.turn s.store u).2.face := by
  constructor
  · rw [Attempt.turn_store, Attempt.turn_store]
    simp only [Store.withPending, List.filter_filter, Bool.and_comm]
  · have hown : ∀ id, b.subscription.id = some id →
        (a.turn s.store t).1.own id = s.store.own id := by
      intro id hid
      refine (h.own a (List.mem_of_getElem? hi)).own_turn ?_ s.store t
      rcases h.apart i j a b hij hi hj with hnone | hne
      · simp [hnone]
      · rwa [← hid]
    rw [Attempt.turn_store] at hown ⊢
    exact (h.own b (List.mem_of_getElem? hj)).face_turn hown u

/-- **Steps of different evaluations may change places.** -/
theorem step_comm (h : s.Separate) {t u : Nat × Turn} (hne : t.1 ≠ u.1) :
    ((s.take t).take u).face = ((s.take u).take t).face := by
  obtain ⟨i, t⟩ := t
  obtain ⟨j, u⟩ := u
  cases hi : s.attempts[i]? with
  | none =>
    have hi' : (s.take (j, u)).attempts[i]? = none := by
      cases hj : s.attempts[j]? with
      | none => rwa [take_of_none hj]
      | some b => rwa [take_of_some hj, List.getElem?_set_ne (Ne.symm hne)]
    rw [take_of_none hi, take_of_none hi']
  | some a =>
    cases hj : s.attempts[j]? with
    | none =>
      have hj' : (s.take (i, t)).attempts[j]? = none := by
        rwa [take_of_some hi, List.getElem?_set_ne hne]
      rw [take_of_none hj, take_of_none hj']
    | some b =>
      have hj' : (s.take (i, t)).attempts[j]? = some b := by
        rwa [take_of_some hi, List.getElem?_set_ne hne]
      have hi' : (s.take (j, u)).attempts[i]? = some a := by
        rwa [take_of_some hj, List.getElem?_set_ne (Ne.symm hne)]
      obtain ⟨hstore, hface⟩ := h.turn_after hne hi hj t u
      obtain ⟨hstore', hface'⟩ := h.turn_after (Ne.symm hne) hj hi u t
      rw [take_of_some hj', take_of_some hi', take_of_some hi, take_of_some hj]
      simp only [face, List.map_set]
      rw [hstore, hface, hstore', hface', List.set_comm _ _ hne]
      simp only [Bool.and_comm]

/-! ### Interleavings -/

/-- The steps of evaluations, one evaluation after the other. -/
def oneByOne (order : List Nat) (ts : List (Nat × Turn)) : List (Nat × Turn) :=
  order.flatMap fun i => ts.filter fun t => t.1 == i

theorem foldl_take_face (s : Session) (ts : List (Nat × Turn)) :
    ts.foldl (fun s t => (s.take t).face) s.face = (ts.foldl take s).face := by
  induction ts generalizing s with
  | nil => rfl
  | cons t ts ih => rw [List.foldl_cons, List.foldl_cons, take_face, ih]

/-- **Only the order of the steps of each evaluation matters.** -/
theorem foldl_take_of_filter_eq (h : s.Separate) {ts us : List (Nat × Turn)}
    (hsame : ∀ k, ts.filter (fun t => t.1 == k) = us.filter fun u => u.1 == k) :
    (ts.foldl take s).face = (us.foldl take s).face := by
  rw [← foldl_take_face, ← foldl_take_face]
  have hkeep (s : Session) (t : Nat × Turn) (hs : s.Separate) : (s.take t).face.Separate :=
    (hs.take t).face
  have hcomm (s : Session) (t u : Nat × Turn) (hs : s.Separate) (hne : t.1 ≠ u.1) :
      ((s.take t).face.take u).face = ((s.take u).face.take t).face := by
    rw [take_face, take_face, step_comm hs hne]
  exact foldl_eq_of_filter_eq hkeep hcomm hsame h.face

theorem filter_oneByOne {order : List Nat} (horder : order.Nodup) {ts : List (Nat × Turn)}
    (hts : ∀ t ∈ ts, t.1 ∈ order) (k : Nat) :
    (oneByOne order ts).filter (fun t => t.1 == k) = ts.filter fun t => t.1 == k := by
  have howner : ∀ i ∈ order, ∀ t ∈ ts.filter (fun t => t.1 == i), t.1 = i :=
    fun i _ t ht => beq_iff_eq.1 (List.mem_filter.1 ht).2
  by_cases hk : k ∈ order
  · exact filter_owner_eq howner (by rwa [List.map_id']) hk
  · -- no step is of an evaluation that is not in the order
    rw [List.filter_eq_nil_iff.2, List.filter_eq_nil_iff.2]
    · exact fun t ht hsame => hk (beq_iff_eq.1 hsame ▸ hts t ht)
    · intro t ht hsame
      obtain ⟨i, hi, ht⟩ := List.mem_flatMap.1 ht
      exact hk (beq_iff_eq.1 hsame ▸ howner i hi t ht ▸ hi)

theorem separate_start {subs : List Subscription} (hsubs : subs.Pairwise Subscription.Apart)
    (store : Store) (captured : List Captured) (entered : List PendingRow) :
    (⟨store, subs.map Attempt.start, captured, entered⟩ : Session).Separate := by
  refine ⟨fun a ha => ?_, fun i j a b hij ha hb => ?_⟩
  · obtain ⟨sub, -, rfl⟩ := List.mem_map.1 ha
    exact fun c hc => absurd hc (by simp [Attempt.start, Stage.scope?])
  · obtain ⟨x, hx, rfl⟩ := Option.map_eq_some_iff.1 (List.getElem?_map.symm.trans ha)
    obtain ⟨y, hy, rfl⟩ := Option.map_eq_some_iff.1 (List.getElem?_map.symm.trans hb)
    obtain ⟨hi, rfl⟩ := List.getElem?_eq_some_iff.1 hx
    obtain ⟨hj, rfl⟩ := List.getElem?_eq_some_iff.1 hy
    have hall := List.pairwise_iff_getElem.1 hsubs
    rcases Nat.lt_or_gt_of_ne hij with hlt | hlt
    · exact hall i j hi hj hlt
    · -- apartness is symmetric
      rcases hall j i hj hi hlt with hnone | hne
      · by_cases hid : subs[i].id = none
        · exact .inl hid
        · exact .inr fun hsame => hid (hsame.trans hnone)
      · exact .inr (Ne.symm hne)

/-! ### The ends of evaluations -/

/-- How some evaluations of a session ended, in an order, for a scheduler that knows each by a
stamp. -/
def ends (s : Session) (stamps : Nat → Nat) (order : List Nat) : List Evaluated :=
  order.filterMap fun i =>
    s.attempts[i]?.map fun a => ⟨stamps i, a.subscription.name, a.stage.result?⟩

theorem ends_face (s : Session) (stamps : Nat → Nat) (order : List Nat) :
    s.face.ends stamps order = s.ends stamps order := by
  simp only [ends, face, List.getElem?_map, Option.map_map, Function.comp_def, Attempt.face]

theorem nodup_stamps_ends (s : Session) {stamps : Nat → Nat} (hstamps : stamps.Injective)
    {order : List Nat} (horder : order.Nodup) :
    ((s.ends stamps order).map Evaluated.stamp).Nodup := by
  have hsublist : ((s.ends stamps order).map Evaluated.stamp).Sublist (order.map stamps) := by
    induction order with
    | nil => exact List.Sublist.refl _
    | cons i order ih =>
      have ih := ih (List.nodup_cons.1 horder).2
      rw [ends, List.filterMap_cons]
      split
      · exact ih.cons _
      · next v hv =>
        obtain ⟨a, -, rfl⟩ := Option.map_eq_some_iff.1 hv
        exact ih.cons_cons _
  exact (horder.map hstamps).sublist hsublist

end Session

namespace Scheduler

variable {vs ws : List Evaluated}

/-- **The order of the ends of different evaluations does not matter.** -/
theorem settle_perm (s : Scheduler) (now : Instant) (h : vs.Perm ws)
    (hstamps : (vs.map Evaluated.stamp).Nodup) :
    s.settle now vs = s.settle now ws ∧ s.overruns now vs = s.overruns now ws := by
  have hentry (e : Entry) : e.settleAll now vs = e.settleAll now ws := by
    by_cases hv : ∃ v ∈ vs, v.stamp = e.stamp
    · obtain ⟨v, hv, hstamp⟩ := hv
      rw [Entry.settleAll_of_mem hstamps hv hstamp,
        Entry.settleAll_of_mem ((h.map _).nodup_iff.1 hstamps) (h.mem_iff.1 hv) hstamp]
    · rw [Entry.settleAll_of_notMem fun v hmem hstamp => hv ⟨v, hmem, hstamp⟩,
        Entry.settleAll_of_notMem fun v hmem hstamp => hv ⟨v, h.mem_iff.2 hmem, hstamp⟩]
  constructor
  · obtain ⟨hnext, hretry, hmax⟩ := s.frame_settle now vs
    obtain ⟨hnext', hretry', hmax'⟩ := s.frame_settle now ws
    refine Scheduler.ext ?_ (hnext.trans hnext'.symm) (hretry.trans hretry'.symm)
      (hmax.trans hmax'.symm)
    rw [entries_settle, entries_settle]
    exact List.map_congr_left fun e _ => hentry e
  · rw [Bool.eq_iff_iff, overruns, overruns, List.any_eq_true, List.any_eq_true]
    simp only [h.mem_iff]

end Scheduler

/-! ### Subscriptions under a name that was taken out -/

namespace Store

variable {s after : Store}

/-- A subscription in a store after a step was in it before, or has a new number. -/
theorem Step.mem_subscriptions (h : s.Step after) {row : SubscriptionRow}
    (hrow : row ∈ after.subscriptions) :
    row ∈ s.subscriptions ∨ s.lastSubscription < row.id := by
  cases h with
  | capture h =>
    obtain ⟨rfl, -⟩ := capture_eq_record h
    exact .inl hrow
  | subscribe h =>
    obtain ⟨rfl, -, hlast, -⟩ := addSubscription_eq_enroll h
    rcases List.mem_append.1 hrow with hrow | hrow
    · exact .inl hrow
    · obtain rfl := List.mem_singleton.1 hrow
      exact .inr hlast
  | unsubscribe name => exact .inl (List.mem_filter.1 hrow).1
  | acknowledge c =>
    rw [(s.acknowledge_frame c).2.2] at hrow
    exact .inl hrow
  | refuse fs => exact .inl hrow

end Store

namespace Session

/-- A subscription in a session after some moves was in it before, or has a new number. -/
theorem mem_subscriptions_of_run (before later : List Move) :
    (run before).store.lastSubscription ≤ (run (before ++ later)).store.lastSubscription ∧
      ∀ row ∈ (run (before ++ later)).store.subscriptions,
        row ∈ (run before).store.subscriptions ∨
          (run before).store.lastSubscription < row.id := by
  induction later using List.reverseRecOn with
  | nil =>
    rw [List.append_nil]
    exact ⟨Int.le_refl _, fun row hrow => .inl hrow⟩
  | append_singleton later m ih =>
    obtain ⟨hle, hrows⟩ := ih
    rw [← List.append_assoc, run_concat]
    refine ⟨Int.le_trans hle (step_grows (run_reachable _) m).lastSubscription_le, ?_⟩
    intro row hrow
    rcases (run (before ++ later)).step_store m with hsame | hstep
    · exact hrows row (hsame ▸ hrow)
    · rcases hstep.mem_subscriptions hrow with hrow | hnew
      · exact hrows row hrow
      · exact .inr (Int.lt_of_le_of_lt hle hnew)

/-- A subscription put in under a name that was taken out has a greater number. -/
theorem id_lt_of_unsubscribe {before later : List Move} {row new : SubscriptionRow}
    (hrow : row ∈ (run before).store.subscriptions)
    (hnew : new ∈ (run (before ++ .unsubscribe row.name :: later)).store.subscriptions)
    (hname : new.name = row.name) : row.id < new.id := by
  obtain ⟨cs, ho, -⟩ := (run_reachable before).exists_journal
  have hmoves : before ++ .unsubscribe row.name :: later =
      (before ++ [.unsubscribe row.name]) ++ later := by simp
  rw [hmoves] at hnew
  have hafter : (run (before ++ [.unsubscribe row.name])).store =
      (run before).store.removeSubscription row.name := by
    rw [run_concat]
    rfl
  rcases (mem_subscriptions_of_run (before ++ [.unsubscribe row.name]) later).2 new hnew with
    hold | hlast
  · -- none of the name was left
    rw [hafter] at hold
    have hother := (List.mem_filter.1 hold).2
    exact absurd hname (by simpa using hother)
  · rw [hafter] at hlast
    exact Int.lt_of_le_of_lt (ho.subscription_le row hrow) hlast

/-- **An evaluation does not touch what is pending for other subscriptions.** -/
theorem own_take (moves : List Move) {i : Nat} {a : Attempt}
    (ha : (run moves).attempts[i]? = some a) {id : Int} (hid : a.subscription.id ≠ some id)
    (t : Turn) : ((run moves).take (i, t)).store.own id = (run moves).store.own id := by
  have hown : a.Own := fun c hc =>
    ((sound_run moves a (List.mem_of_getElem? ha)).confined c hc).subscription_eq
  rw [take_of_some ha]
  exact hown.own_turn hid _ t

/-- **Subscriptions do not interfere.**

* Evaluations of different subscriptions begin on a store, and only they take steps, which may
  fail.  However their steps are interleaved, they come to the same as one after the other in
  whatever order: the store is the same, and each of them ended in the same way, sent the same
  response, and was asked for the same requests.  And in whatever orders the scheduler puts their
  ends into the entries, the entries are the same.
* A subscription of a name is taken out, and one of the same name is put in later, with any moves
  before and after.  The new one has another number, and no step of an evaluation of the old one
  changes what is pending for it. -/
theorem evaluations_independent :
    (∀ (store : Store) (subs : List Subscription) (captured : List Captured)
        (entered : List PendingRow), subs.Pairwise Subscription.Apart →
      ∀ (ts : List (Nat × Turn)) (order : List Nat), order.Perm (List.range subs.length) →
      (∀ t ∈ ts, t.1 < subs.length) →
      let start : Session := ⟨store, subs.map Attempt.start, captured, entered⟩
      let mixed := ts.foldl take start
      let serial := (oneByOne order ts).foldl take start
      mixed.face = serial.face ∧
      ∀ (scheduler : Scheduler) (now : Instant) (stamps : Nat → Nat), stamps.Injective →
        ∀ order', order'.Perm order →
          scheduler.settle now (mixed.ends stamps order') =
            (serial.ends stamps order).foldl (fun s v => s.settle now [v]) scheduler ∧
          scheduler.overruns now (mixed.ends stamps order') =
            scheduler.overruns now (serial.ends stamps order)) ∧
    ∀ (before later : List Move) (row new : SubscriptionRow),
      row ∈ (run before).store.subscriptions → new.name = row.name →
      let s := run (before ++ .unsubscribe row.name :: later)
      new ∈ s.store.subscriptions → row.id < new.id ∧
        ∀ (i : Nat) (a : Attempt), s.attempts[i]? = some a → a.subscription.id = some row.id →
          ∀ t, (s.take (i, t)).store.own new.id = s.store.own new.id := by
  constructor
  · intro store subs captured entered hsubs ts order horder hts start mixed serial
    have hseparate : start.Separate := separate_start hsubs store captured entered
    have hnodup : order.Nodup := horder.nodup_iff.2 List.nodup_range
    have hmem : ∀ t ∈ ts, t.1 ∈ order :=
      fun t ht => horder.mem_iff.2 (List.mem_range.2 (hts t ht))
    have hface : mixed.face = serial.face :=
      foldl_take_of_filter_eq hseparate fun k => (filter_oneByOne hnodup hmem k).symm
    refine ⟨hface, fun scheduler now stamps hstamps order' horder' => ?_⟩
    have hends : (mixed.ends stamps order').Perm (serial.ends stamps order) := by
      rw [← serial.ends_face, ← hface, ends_face]
      exact horder'.filterMap _
    exact scheduler.settle_perm now hends
      (nodup_stamps_ends mixed hstamps (horder'.nodup_iff.2 hnodup))
  · intro before later row new hrow hname s hnew
    have hlt : row.id < new.id := id_lt_of_unsubscribe hrow hnew hname
    refine ⟨hlt, fun i a ha hid t => own_take _ ha (fun hsame => ?_) t⟩
    have := Option.some.inj (hid.symm.trans hsame)
    omega

/-- Another subscription beside the one that takes one event at a time. -/
def twinSubscription : Subscription := { narrowSubscription with id := some 2, name := "s2" }

/-- The store with both of them, and with a request that is pending for both. -/
def twinStore : Store :=
  ((Store.empty.enroll narrowSubscription 1).enroll twinSubscription 2).record
    ⟨1, pairRequest, none, .epoch⟩

/-- The session in which their evaluations begin. -/
def twinStart : Session :=
  ⟨twinStore, [narrowSubscription, twinSubscription].map Attempt.start, [], []⟩

/-- Both evaluations come to where they send, in turns.  The destination refuses the answer of the
first one; it takes that of the second one, which then acknowledges. -/
def twinTurns : List (Nat × Turn) :=
  [(0, .advance none), (1, .advance none), (1, .advance none), (0, .advance none),
    (1, .advance none), (0, .advance none), (1, .advance none), (0, .advance (some 503)),
    (1, .advance none)]

/-- The scheduler that has begun both evaluations. -/
def twinScheduler : Scheduler :=
  ((Scheduler.ofSubscriptions ⟨1000, 2, 1, ⟨1000, 4000, none⟩⟩
    [narrowSubscription, twinSubscription]).collect .epoch).1

/-- How the evaluations come out: the request is pending for the first subscription only, whose
evaluation is to be tried again. -/
theorem foldl_twinTurns : ∃ n,
    (twinTurns.foldl take twinStart).store = twinStore.withPending [⟨1, 1⟩] ∧
      (twinTurns.foldl take twinStart).ends id [0, 1] =
        [⟨0, "s1", some (.error (.delivery 503))⟩, ⟨1, "s2", some (.ok (.delivered n 1))⟩] := by
  have hjournal : twinStore.Journal [⟨1, pairRequest, none, .epoch⟩] :=
    ((Store.Journal.nil.enroll narrowSubscription 1).enroll twinSubscription 2).record (by decide)
  have hread : narrowSubscription.readScope twinStore = .ok (.simpleEvent, ⟨1, 1, 1⟩) := by
    decide +kernel
  have hread' : twinSubscription.readScope twinStore = .ok (.simpleEvent, ⟨2, 1, 1⟩) := by
    decide +kernel
  obtain ⟨es, hanswer⟩ := execute_narrow hjournal (c := ⟨1, 1, 1⟩) rfl (by decide +kernel)
  obtain ⟨es', hanswer'⟩ : ∃ es', StandingQuery.simpleEvent.execute twinStore
      twinSubscription.parameters (some ⟨2, 1, 1⟩) = .ok (.events es') :=
    execute_narrow hjournal rfl (by decide +kernel)
  have hsend := dispose_narrow ⟨1, 1, 1⟩ rfl es
  have hsend' : twinSubscription.dispose ⟨2, 1, 1⟩ (.events es') =
      .sending ⟨2, 1, 1⟩ ⟨twinSubscription.query, some twinSubscription.name, .events es'⟩ := by
    cases es' <;> rfl
  have hacknowledge : twinStore.acknowledge ⟨2, 1, 1⟩ = (twinStore.withPending [⟨1, 1⟩], 1) := rfl
  have hrun : twinTurns.foldl take twinStart = ⟨twinStore.withPending [⟨1, 1⟩],
      [⟨narrowSubscription, .finished (.error (.delivery 503)), twinStore.pendingRequests 1,
          some (twinStore, .events es), none, false⟩,
        ⟨twinSubscription, .finished (.ok (.delivered es'.length 1)),
          twinStore.pendingRequests 2, some (twinStore, .events es'),
          some ⟨twinSubscription.query, some twinSubscription.name, .events es'⟩, true⟩],
      [], []⟩ := by
    simp only [twinTurns, twinStart, take, Turn.move, step, Attempt.start, Attempt.next,
      Attempt.note, Stage.next, List.map_cons, List.map_nil, List.foldl_cons, List.foldl_nil,
      List.getElem?_cons_zero, List.getElem?_cons_succ, List.set_cons_zero, List.set_cons_succ,
      hread, hread', hanswer, hanswer', hsend, hsend', hacknowledge]
    rfl
  rw [hrun]
  exact ⟨es'.length, rfl, rfl⟩

/-- The subscription is taken out while an evaluation of it is about to acknowledge; one of the same
name is put in, and another request comes in. -/
def replacedMoves : List Move :=
  narrowMoves ++ .unsubscribe "s1" ::
    [.subscribe narrowSubscription, .capture pairRequest none .epoch]

theorem run_replacedMoves : ∃ seen es taken, run replacedMoves =
    ⟨((narrowStore.removeSubscription "s1").enroll narrowSubscription 2).record
        ⟨2, pairRequest, none, .epoch⟩,
      [⟨narrowSubscription, .settling ⟨1, 1, 1⟩ (some es.length), seen,
        some (narrowStore, .events es), some taken, false⟩],
      [⟨1, pairRequest, none, .epoch⟩, ⟨2, pairRequest, none, .epoch⟩], [⟨1, 1⟩, ⟨2, 2⟩]⟩ := by
  have hsubscribe : (narrowStore.removeSubscription "s1").addSubscription narrowSubscription =
      .ok ((narrowStore.removeSubscription "s1").enroll narrowSubscription 2, 2) :=
    Store.addSubscription_of_admitsAll (by decide) (by decide) (by decide +kernel)
  have hcapture : ((narrowStore.removeSubscription "s1").enroll narrowSubscription 2).capture
      pairRequest none .epoch =
      .ok (((narrowStore.removeSubscription "s1").enroll narrowSubscription 2).record
        ⟨2, pairRequest, none, .epoch⟩, 2) :=
    Store.capture_of_admitsAll (by decide) (by decide) (by decide +kernel)
  obtain ⟨seen, es, taken, hrun⟩ := run_narrow
  refine ⟨seen, es, taken, ?_⟩
  rw [replacedMoves, run, List.foldl_append, ← run, hrun]
  simp only [List.foldl_cons, List.foldl_nil, step, hsubscribe, hcapture]
  rfl

/-- Of two evaluations in turns, one is refused and the other one acknowledges; what is pending
then, and what the scheduler makes of it, is the same as with one after the other.  And the
acknowledgement of a subscription that was taken out leaves alone what is pending for the next one of
its name. -/
theorem evaluations_independent_pair :
    let mixed := twinTurns.foldl take twinStart
    let serial := (oneByOne [1, 0] twinTurns).foldl take twinStart
    (mixed.face = serial.face ∧
      (twinStore.own 1 = [⟨1, 1⟩] ∧ twinStore.own 2 = [⟨2, 1⟩]) ∧
      (serial.store.own 1 = [⟨1, 1⟩] ∧ serial.store.own 2 = []) ∧
      twinScheduler.settle .epoch (mixed.ends id [0, 1]) =
        (serial.ends id [1, 0]).foldl (fun s v => s.settle .epoch [v]) twinScheduler ∧
      (twinScheduler.settle .epoch (mixed.ends id [0, 1])).entries.map
          (fun e => e.trigger.map fun t => (t.due, t.nextAttempt)) =
        [some (true, some ⟨1, 0⟩), some (false, none)]) ∧
    (narrowSubscription.row 1).id < (narrowSubscription.row 2).id ∧
    (∃ a c d, (run replacedMoves).attempts[0]? = some a ∧ a.stage = .settling c d) ∧
    ∀ t, ((run replacedMoves).take (0, t)).store.own 2 = [⟨2, 2⟩] := by
  intro mixed serial
  obtain ⟨hmixed, hreplaced⟩ := evaluations_independent
  constructor
  · obtain ⟨hface, hsettle⟩ := hmixed twinStore [narrowSubscription, twinSubscription] [] []
      (by decide) twinTurns [1, 0] (by decide) (by decide)
    obtain ⟨n, hstore, hends⟩ := foldl_twinTurns
    have hserial : serial.store = twinStore.withPending [⟨1, 1⟩] :=
      (congrArg Session.store hface).symm.trans hstore
    refine ⟨hface, ⟨rfl, rfl⟩, ?_, ?_, ?_⟩
    · rw [hserial]
      exact ⟨rfl, rfl⟩
    · exact (hsettle twinScheduler .epoch id Function.injective_id [0, 1] (by decide)).1
    · rw [show mixed.ends id [0, 1] = _ from hends]
      rfl
  · obtain ⟨seen, es, taken, hrun⟩ := run_narrow
    obtain ⟨seen', es', taken', hlater⟩ := run_replacedMoves
    have hrow : narrowSubscription.row 1 ∈ (run narrowMoves).store.subscriptions := by
      rw [hrun]
      exact List.mem_singleton.2 rfl
    have hnew : narrowSubscription.row 2 ∈ (run replacedMoves).store.subscriptions := by
      rw [hlater]
      exact List.mem_singleton.2 rfl
    have hattempt : (run replacedMoves).attempts[0]? = some _ :=
      congrArg (fun s : Session => s.attempts[0]?) hlater
    have hpending : (run replacedMoves).store.own 2 = [⟨2, 2⟩] := by
      rw [hlater]
      rfl
    obtain ⟨hlt, hown⟩ := hreplaced narrowMoves
      [.subscribe narrowSubscription, .capture pairRequest none .epoch]
      (narrowSubscription.row 1) (narrowSubscription.row 2) hrow rfl hnew
    exact ⟨hlt, ⟨_, _, _, hattempt, rfl⟩, fun t => (hown 0 _ hattempt rfl t).trans hpending⟩

end Session

end Provenance
