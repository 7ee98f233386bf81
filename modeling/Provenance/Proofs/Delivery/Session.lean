import Provenance.Proofs.Store.Journal
import Provenance.Subscription.Evaluation

/-!
# Sessions

A session is a store with the evaluations under way on it.  Requests come in, subscriptions come and
go, and an evaluation takes one step at a time, each on the store as it is by then; it may fail at
any of its steps, and any two of these things may happen one after the other.  An evaluation may be
of a subscription that is gone, or of one that the store never had.

Beside its state a session keeps a history, on which no step depends: which requests were captured,
what became pending when, and, for each evaluation, what was pending when it read its scope, what
its query answered, what its destination took, and whether it came to acknowledge.

## Main definitions

* `Attempt`, `Attempt.next`, `Attempt.Step` — an evaluation with its history, and its steps.
* `Move`, `Session.step`, `Session.run` — what happens in a session.
* `Store.Grows` — what all changes of a store have in common.

## Main results

* `Session.run_reachable`, `Session.step_grows` — what holds of the store.
* `Session.forall_attempts` — what each step of an evaluation keeps holds of all evaluations.
-/

namespace Provenance

/-! ### Evaluations with a history -/

/-- An evaluation with its history. -/
structure Attempt where
  subscription : Subscription
  stage : Stage
  /-- The requests that were pending when the scope was read. -/
  seen : List Int
  /-- The store that the query was asked of, and its answer. -/
  asked : Option (Store × Results)
  /-- What the destination took. -/
  taken : Option Response
  /-- Whether what was seen has been acknowledged. -/
  acknowledged : Bool

namespace Attempt

/-- An evaluation that begins. -/
def start (sub : Subscription) : Attempt := ⟨sub, .ready, [], none, none, false⟩

/-- What a step of an evaluation adds to its history. -/
def note (s : Store) (stage : Stage) (a : Attempt) : Attempt :=
  match a.stage, stage with
  | .ready, .confined _ c => { a with stage := stage, seen := s.pendingRequests c.subscription }
  | .confined _ _, .answered _ r => { a with stage := stage, asked := some (s, r) }
  | .sending _ r, .settling _ _ => { a with stage := stage, taken := some r }
  | .settling _ _, _ => { a with stage := stage, acknowledged := true }
  | _, _ => { a with stage := stage }

/-- The next step of an evaluation. -/
def next (refusal : Option Int) (s : Store) (a : Attempt) : Store × Attempt :=
  let (after, stage) := a.stage.next a.subscription refusal s
  (after, a.note s stage)

/-- An evaluation that fails, unless it has come to its end. -/
def fail (f : RunFailure) (a : Attempt) : Attempt :=
  match a.stage with
  | .finished _ => a
  | _ => { a with stage := .finished (.error f) }

end Attempt

/-! ### Moves -/

/-- What happens in a session. -/
inductive Move
  | capture (request : CaptureRequest) (user : Option String) (recordTime : Instant)
  | subscribe (subscription : Subscription)
  | unsubscribe (name : String)
  /-- From now on the store refuses some rows, so that captures and subscriptions fail. -/
  | refuse (refusals : List Refusal)
  /-- An evaluation begins. -/
  | begin (subscription : Subscription)
  /-- An evaluation takes its next step; the status is what the destination refuses with. -/
  | advance (attempt : Nat) (refusal : Option Int)
  /-- An evaluation fails for a reason of its own. -/
  | fail (attempt : Nat) (failure : RunFailure)

/-- A store and the evaluations on it, with their history. -/
structure Session where
  store : Store
  attempts : List Attempt
  /-- The requests captured so far. -/
  captured : List Captured
  /-- What became pending so far. -/
  entered : List PendingRow

namespace Session

/-- The session in which nothing has happened. -/
def start : Session := ⟨.empty, [], [], []⟩

/-- The captured requests that a new subscription wants: those recorded at its initial record time
or later, if it has one. -/
def capturedSince (s : Session) (sub : Subscription) : List Captured :=
  match sub.initialRecordTime with
  | some since => s.captured.filter fun c => since.millis ≤ c.recordTime.millis
  | none => []

/-- What happens in a move; what fails leaves everything as it was. -/
def step (s : Session) : Move → Session
  | .capture r user recordTime =>
    match s.store.capture r user recordTime with
    | .ok (after, id) =>
      { s with
        store := after
        captured := s.captured ++ [⟨id, r, user, recordTime⟩]
        entered := s.entered ++ s.store.subscriptions.map fun sub => ⟨sub.id, id⟩ }
    | .error _ => s
  | .subscribe sub =>
    match s.store.addSubscription sub with
    | .ok (after, id) =>
      { s with
        store := after
        entered := s.entered ++ (s.capturedSince sub).map fun c => ⟨id, c.id⟩ }
    | .error _ => s
  | .unsubscribe name => { s with store := s.store.removeSubscription name }
  | .refuse fs => { s with store := { s.store with refusals := fs } }
  | .begin sub => { s with attempts := s.attempts ++ [.start sub] }
  | .advance i refusal =>
    match s.attempts[i]? with
    | some a =>
      { s with
        store := (a.next refusal s.store).1
        attempts := s.attempts.set i (a.next refusal s.store).2 }
    | none => s
  | .fail i f =>
    match s.attempts[i]? with
    | some a => { s with attempts := s.attempts.set i (a.fail f) }
    | none => s

/-- The session after some moves. -/
def run (moves : List Move) : Session := moves.foldl step start

theorem run_concat (moves : List Move) (m : Move) : run (moves ++ [m]) = (run moves).step m := by
  rw [run, List.foldl_append]
  rfl

/-- A session that captures a request which the store admits. -/
theorem step_capture {s : Session} {r : CaptureRequest} {user : Option String}
    {recordTime : Instant} (htaken : ∀ q ∈ s.store.requests, q.id ≤ s.store.lastRequest)
    (hlast : s.store.lastRequest < maxNumber)
    (h : s.store.admitsAll (r.insertions (s.store.lastRequest + 1) user recordTime ++
      [s.store.markPending (s.store.lastRequest + 1)]) = true) :
    s.step (.capture r user recordTime) =
      { s with
        store := s.store.record ⟨s.store.lastRequest + 1, r, user, recordTime⟩
        captured := s.captured ++ [⟨s.store.lastRequest + 1, r, user, recordTime⟩]
        entered := s.entered ++
          s.store.subscriptions.map fun sub => ⟨sub.id, s.store.lastRequest + 1⟩ } := by
  simp only [step, Store.capture_of_admitsAll htaken hlast h]

/-- A session that captures a first request which the store admits. -/
theorem run_capture {r : CaptureRequest} {user : Option String} {recordTime : Instant}
    (h : Store.empty.admitsAll (r.insertions 1 user recordTime ++ [Store.empty.markPending 1]) =
      true) :
    run [.capture r user recordTime] =
      ⟨Store.empty.record ⟨1, r, user, recordTime⟩, [], [⟨1, r, user, recordTime⟩], []⟩ := by
  have hcapture : Store.empty.capture r user recordTime =
      .ok (Store.empty.record ⟨1, r, user, recordTime⟩, 1) :=
    Store.capture_of_admitsAll (by simp [Store.empty]) (by decide) h
  simp only [run, List.foldl_cons, List.foldl_nil, step, start, hcapture]
  rfl

/-- What holds at the start and is kept by each move from where a run has come to holds of runs. -/
theorem run_induction {P : Session → Prop} (hstart : P start)
    (hstep : ∀ moves m, P (run moves) → P ((run moves).step m)) (moves : List Move) :
    P (run moves) := by
  -- the step of a run may use that it is one
  have hrun : (∃ before, run moves = run before) ∧ P (run moves) := by
    refine List.foldlRecOn moves step (motive := fun s => (∃ before, s = run before) ∧ P s)
      ⟨⟨[], rfl⟩, hstart⟩ ?_
    rintro _ ⟨⟨before, rfl⟩, hbefore⟩ m -
    exact ⟨⟨before ++ [m], (run_concat before m).symm⟩, hstep before m hbefore⟩
  exact hrun.2

end Session

/-! ### The steps of an evaluation -/

/-- Only an acknowledgement changes the store. -/
theorem Stage.next_store {sub : Subscription} {refusal : Option Int} {s : Store} {stage : Stage}
    (h : ∀ c d, stage ≠ .settling c d) : (stage.next sub refusal s).1 = s := by
  cases stage with
  | settling c d => exact absurd rfl (h c d)
  | answered c r => rfl
  | finished r => rfl
  | ready | confined q c | sending c r =>
    simp only [Stage.next]
    split <;> rfl

namespace Attempt

theorem next_store_of_settling {a : Attempt} {c : Scope} {d : Option Nat}
    (h : a.stage = .settling c d) (refusal : Option Int) (s : Store) :
    (a.next refusal s).1 = (s.acknowledge c).1 := by
  simp only [next, Stage.next, h]

/-- What a step of an evaluation on a store can do to it, where a failure is one way to its end. -/
inductive Step (s : Store) (a : Attempt) : Attempt → Prop
  | read {q : StandingQuery} {c : Scope} (hstage : a.stage = .ready)
      (h : a.subscription.readScope s = .ok (q, c)) :
      Step s a { a with stage := .confined q c, seen := s.pendingRequests c.subscription }
  | answer {q : StandingQuery} {c : Scope} {r : Results} (hstage : a.stage = .confined q c)
      (h : q.execute s a.subscription.parameters (some c) = .ok r) :
      Step s a { a with stage := .answered c r, asked := some (s, r) }
  | send {c : Scope} {r : Results} (hstage : a.stage = .answered c r) :
      Step s a { a with stage := .sending c ⟨a.subscription.query, some a.subscription.name, r⟩ }
  | pass {c : Scope} {r : Results} (hstage : a.stage = .answered c r) (hempty : r.isEmpty = true)
      (hreport : a.subscription.reportIfEmpty = false) :
      Step s a { a with stage := .settling c none }
  | take {c : Scope} {r : Response} (hstage : a.stage = .sending c r) :
      Step s a { a with stage := .settling c (some r.results.count), taken := some r }
  | acknowledge {c : Scope} {d : Option Nat} (hstage : a.stage = .settling c d) (o : Outcome) :
      Step s a { a with stage := .finished (.ok o), acknowledged := true }
  | finish (r : Except RunFailure Outcome) : Step s a { a with stage := .finished r }

theorem next_step (refusal : Option Int) (s : Store) (a : Attempt) :
    a.Step s (a.next refusal s).2 := by
  -- one case for each stage, split where it may fail
  obtain ⟨sub, stage, seen, asked, taken, acknowledged⟩ := a
  cases stage with
  | ready =>
    simp only [next, Stage.next]
    split
    · next q c h => exact .read rfl h
    · exact .finish _
  | confined q c =>
    simp only [next, Stage.next]
    split
    · next r h => exact .answer rfl h
    · exact .finish _
  | answered c r =>
    simp only [next, Stage.next, Subscription.dispose]
    split
    · exact .finish _
    · split
      · next h =>
        rw [Bool.and_eq_true, Bool.not_eq_true'] at h
        exact .pass rfl h.1 h.2
      · exact .send rfl
  | sending c r =>
    simp only [next, Stage.next]
    split
    · exact .finish _
    · exact .take rfl
  | settling c d => exact .acknowledge rfl _
  | finished r => exact .finish r

theorem fail_step (f : RunFailure) (s : Store) (a : Attempt) : a.Step s (a.fail f) := by
  obtain ⟨sub, stage, seen, asked, taken, acknowledged⟩ := a
  cases stage with
  | finished r => exact .finish r
  | _ => exact .finish _

end Attempt

namespace Session

/-- A move changes the store by a step, or not at all. -/
theorem step_store (s : Session) (m : Move) :
    (s.step m).store = s.store ∨ s.store.Step (s.step m).store := by
  cases m with
  | capture r user recordTime =>
    simp only [step]
    split
    · next after id h => exact .inr (.capture h)
    · exact .inl rfl
  | subscribe sub =>
    simp only [step]
    split
    · next after id h => exact .inr (.subscribe h)
    · exact .inl rfl
  | unsubscribe name => exact .inr (.unsubscribe name)
  | refuse fs => exact .inr (.refuse fs)
  | begin sub => exact .inl rfl
  | advance i refusal =>
    simp only [step]
    split
    · next a _ =>
      by_cases hstage : ∃ c d, a.stage = .settling c d
      · obtain ⟨c, d, hstage⟩ := hstage
        exact .inr (Attempt.next_store_of_settling hstage refusal s.store ▸ .acknowledge c)
      · exact .inl (Stage.next_store fun c d h => hstage ⟨c, d, h⟩)
    · exact .inl rfl
  | fail i f =>
    simp only [step]
    split <;> exact .inl rfl

/-- **The store of a session is reachable.** -/
theorem run_reachable (moves : List Move) : (run moves).store.Reachable := by
  refine run_induction (P := fun s => s.store.Reachable) .empty (fun before m hs => ?_) moves
  rcases (run before).step_store m with h | h
  · exact h ▸ hs
  · exact hs.step h

end Session

/-! ### Growth -/

/-- What all changes of a store have in common: numbers are given in ascending order, and what
becomes pending is a new request, or pending for a new subscription. -/
structure Store.Grows (s after : Store) : Prop where
  lastRequest_le : s.lastRequest ≤ after.lastRequest
  lastSubscription_le : s.lastSubscription ≤ after.lastSubscription
  pending : ∀ p ∈ after.pending, p ∈ s.pending ∨
    0 < p.request ∧ (s.lastRequest < p.request ∨ s.lastSubscription < p.subscription)

namespace Store

theorem Grows.refl (s : Store) : s.Grows s :=
  ⟨Int.le_refl _, Int.le_refl _, fun _ hp => .inl hp⟩

/-- What only takes pending requests away lets a store grow. -/
theorem Grows.of_sublist {s after : Store} (hreq : after.lastRequest = s.lastRequest)
    (hsub : after.lastSubscription = s.lastSubscription) (h : after.pending.Sublist s.pending) :
    s.Grows after :=
  ⟨hreq ▸ Int.le_refl _, hsub ▸ Int.le_refl _, fun _ hp => .inl (h.subset hp)⟩

theorem Grows.record {s : Store} {cs : List Captured} (hj : s.Journal cs) {c : Captured}
    (hc : s.lastRequest < c.id) : s.Grows (s.record c) where
  lastRequest_le := Int.le_of_lt hc
  lastSubscription_le := Int.le_refl _
  pending := by
    have hnonneg := hj.lastRequest_nonneg
    intro p hp
    rcases List.mem_append.1 hp with hp | hp
    · exact .inl hp
    · obtain ⟨r, -, rfl⟩ := List.mem_map.1 hp
      exact .inr ⟨by simp only; omega, .inl hc⟩

theorem Grows.enroll {s : Store} {cs : List Captured} (hj : s.Journal cs) {sub : Subscription}
    {id : Int} (hid : s.lastSubscription < id) : s.Grows (s.enroll sub id) where
  lastRequest_le := Int.le_refl _
  lastSubscription_le := Int.le_of_lt hid
  pending := by
    intro p hp
    rcases List.mem_append.1 hp with hp | hp
    · exact .inl hp
    · -- what was recorded before is not new, but the subscription is
      obtain ⟨hsub, hpos, -⟩ := Orderly.backfill_bounds hj hp
      exact .inr ⟨hpos, .inr (hsub ▸ hid)⟩

/-- An acknowledgement takes pending requests away. -/
theorem acknowledge_sublist (s : Store) (c : Scope) :
    (s.acknowledge c).1.pending.Sublist s.pending := by
  unfold acknowledge
  split
  · exact List.Sublist.refl _
  · exact List.filter_sublist

theorem acknowledge_frame (s : Store) (c : Scope) :
    (s.acknowledge c).1.lastRequest = s.lastRequest ∧
      (s.acknowledge c).1.lastSubscription = s.lastSubscription ∧
      (s.acknowledge c).1.subscriptions = s.subscriptions := by
  unfold acknowledge
  split <;> exact ⟨rfl, rfl, rfl⟩

/-- A reachable store grows with each step. -/
theorem Step.grows {s after : Store} (h : s.Step after) (hs : s.Reachable) : s.Grows after := by
  obtain ⟨cs, -, hj⟩ := hs.exists_journal
  cases h with
  | capture h =>
    obtain ⟨rfl, -, hlast, -⟩ := capture_eq_record h
    exact .record hj hlast
  | subscribe h =>
    obtain ⟨rfl, -, hlast, -⟩ := addSubscription_eq_enroll h
    exact .enroll hj hlast
  | unsubscribe name => exact .of_sublist rfl rfl List.filter_sublist
  | acknowledge c =>
    obtain ⟨hreq, hsub, -⟩ := s.acknowledge_frame c
    exact .of_sublist hreq hsub (s.acknowledge_sublist c)
  | refuse fs => exact .of_sublist rfl rfl (List.Sublist.refl _)

end Store

/-! ### Invariants of evaluations -/

namespace Session

/-- A move lets the store grow. -/
theorem step_grows {s : Session} (hs : s.store.Reachable) (m : Move) :
    s.store.Grows (s.step m).store := by
  rcases s.step_store m with h | h
  · exact h ▸ .refl _
  · exact h.grows hs

/-- Where the evaluations after a move come from. -/
theorem mem_attempts_step {s : Session} {m : Move} {a : Attempt} (h : a ∈ (s.step m).attempts) :
    a ∈ s.attempts ∨ (∃ sub, a = .start sub) ∨ ∃ b ∈ s.attempts, b.Step s.store a := by
  cases m with
  | capture r user recordTime =>
    simp only [step] at h
    split at h <;> exact .inl h
  | subscribe sub =>
    simp only [step] at h
    split at h <;> exact .inl h
  | unsubscribe name => exact .inl h
  | refuse fs => exact .inl h
  | begin sub =>
    rcases List.mem_append.1 h with h | h
    · exact .inl h
    · exact .inr (.inl ⟨sub, List.mem_singleton.1 h⟩)
  | advance i refusal =>
    simp only [step] at h
    split at h
    · next b hb =>
      rcases List.mem_or_eq_of_mem_set h with h | h
      · exact .inl h
      · exact .inr (.inr ⟨b, List.mem_of_getElem? hb, h ▸ b.next_step refusal s.store⟩)
    · exact .inl h
  | fail i f =>
    simp only [step] at h
    split at h
    · next b hb =>
      rcases List.mem_or_eq_of_mem_set h with h | h
      · exact .inl h
      · exact .inr (.inr ⟨b, List.mem_of_getElem? hb, h ▸ b.fail_step f s.store⟩)
    · exact .inl h

/-- **What holds of an evaluation when it begins, and is kept when the store grows and when the
evaluation takes a step, holds of all evaluations of a run.** -/
theorem forall_attempts {I : Store → Attempt → Prop} (hstart : ∀ s sub, I s (.start sub))
    (hgrow : ∀ s after a, s.Grows after → I s a → I after a)
    (hstep : ∀ s a b, s.Reachable → a.Step s b → I s a → I s b) (moves : List Move) :
    ∀ a ∈ (run moves).attempts, I (run moves).store a := by
  refine run_induction (P := fun s => ∀ a ∈ s.attempts, I s.store a) (by simp [start]) ?_ moves
  intro before m hall a ha
  have hreach := run_reachable before
  -- at most one evaluation moves, and it does so on the store as it is before the move
  refine hgrow (run before).store _ a (step_grows hreach m) ?_
  rcases mem_attempts_step ha with ha | ⟨sub, rfl⟩ | ⟨b, hb, hstep'⟩
  · exact hall a ha
  · exact hstart _ sub
  · exact hstep _ b a hreach hstep' (hall b hb)

end Session

end Provenance
