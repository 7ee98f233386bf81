import Mathlib.Data.List.Nodup
import Provenance.Proofs.Delivery.Session
import Provenance.Proofs.Store.Order

/-!
# What is pending is conserved

An acknowledgement names no requests: it takes away whatever is pending up to a number.  That this
is what was pending when the scope was read follows from the order in which numbers are given.  A
request that becomes pending later either is a new one, with a number greater than all before, or is
pending for a new subscription, of which no evaluation can have read a scope.

So what is pending is always what became pending less what an acknowledged evaluation had seen.

## Main definitions

* `Store.Within` — that everything a scope covers satisfies some condition, now and later.
* `Attempt.Sound`, `Attempt.Consistent` — what holds of an evaluation on a store, and by itself.
* `Attempt.Justified` — that something came of an evaluation.
* `Session.Settled`, `Session.Ledger` — what was acknowledged, and the balance of a session.

## Main results

* `Session.ledger_run` — the balance holds in every session.
* `Session.pending_conserved` — **what is pending, and what becomes of it.**
-/

namespace Provenance

/-! ### Pending requests -/

namespace Store

variable {s after : Store} {cs : List Captured}

theorem mem_pendingRequests {id r : Int} : r ∈ s.pendingRequests id ↔ ⟨id, r⟩ ∈ s.pending := by
  rw [pendingRequests, List.mem_mergeSort, List.mem_map]
  constructor
  · rintro ⟨p, hp, rfl⟩
    obtain ⟨hp, hsub⟩ := List.mem_filter.1 hp
    rw [← beq_iff_eq.1 hsub]
    exact hp
  · intro h
    exact ⟨⟨id, r⟩, List.mem_filter.2 ⟨h, beq_iff_eq.2 rfl⟩, rfl⟩

theorem Orderly.pendingRequests_nodup (h : s.Orderly) (id : Int) :
    (s.pendingRequests id).Nodup := by
  refine (List.mergeSort_perm _ _).nodup_iff.2 ?_
  rw [List.Nodup, List.pairwise_map]
  refine (h.pending_nodup.sublist List.filter_sublist).imp_of_mem fun hp hq hne heq => hne ?_
  have hp := beq_iff_eq.1 (List.mem_filter.1 hp).2
  have hq := beq_iff_eq.1 (List.mem_filter.1 hq).2
  exact (PendingRow.mk.injEq ..).mpr ⟨hp.trans hq.symm, heq⟩

/-! ### Scopes -/

theorem covered_iff {c : Scope} {p : PendingRow} :
    covered c p = true ↔ p.subscription = c.subscription ∧ p.request ≤ c.through := by
  rw [covered, Bool.and_eq_true, beq_iff_eq, decide_eq_true_eq]

theorem mem_acknowledge {c : Scope} {p : PendingRow} :
    p ∈ (s.acknowledge c).1.pending ↔
      p ∈ s.pending ∧ ¬ (c.isEmpty = false ∧ covered c p = true) := by
  unfold acknowledge
  split
  · next h => simp [h]
  · next h => simp [List.mem_filter, h]

/-- That everything that a scope covers satisfies a condition, where the scope ends with a number
that was given to a request and is of a subscription that has been there. -/
structure Within (s : Store) (c : Scope) (P : PendingRow → Prop) : Prop where
  through_le : c.through ≤ s.lastRequest
  known : c.subscription ≤ s.lastSubscription ∨ c.through ≤ 0
  forall_covered : ∀ p ∈ s.pending, covered c p = true → P p

/-- **What a scope covers does not grow.** -/
theorem Within.mono {c : Scope} {P : PendingRow → Prop} (h : s.Within c P) (hg : s.Grows after) :
    after.Within c P where
  through_le := Int.le_trans h.through_le hg.lastRequest_le
  known := by
    have hknown := h.known
    have hle := hg.lastSubscription_le
    omega
  forall_covered := by
    intro p hp hcov
    rcases hg.pending p hp with hp | ⟨hpos, hnew⟩
    · exact h.forall_covered p hp hcov
    · -- the scope reaches neither new requests nor new subscriptions
      obtain ⟨hsub, hle⟩ := covered_iff.1 hcov
      have hthrough := h.through_le
      have hknown := h.known
      omega

/-- The end of a scope is the greatest of the numbers that were pending. -/
theorem le_scope_through {id r : Int} (h : r ∈ s.pendingRequests id) :
    r ≤ (s.scope id).through := by
  have hmem : r ∈ (s.pending.filter fun p => p.subscription == id).map PendingRow.request :=
    List.mem_mergeSort.1 h
  simp only [scope]
  cases hmax : ((s.pending.filter fun p => p.subscription == id).map PendingRow.request).max? with
  | none => exact absurd (List.max?_eq_none_iff.1 hmax ▸ hmem) (List.not_mem_nil)
  | some m => exact (List.max?_eq_some_iff.1 hmax).2 r hmem

theorem scope_through_mem (s : Store) (id : Int) :
    (s.scope id).through ∈ s.pendingRequests id ∨ (s.scope id).through = 0 := by
  simp only [scope]
  cases hmax : ((s.pending.filter fun p => p.subscription == id).map PendingRow.request).max? with
  | none => exact .inr rfl
  | some m => exact .inl (List.mem_mergeSort.2 (List.max?_eq_some_iff.1 hmax).1)

theorem isEmpty_scope (s : Store) (id : Int) :
    (s.scope id).isEmpty = true ↔ s.pendingRequests id = [] := by
  have hlen : (s.scope id).count = (s.pendingRequests id).length := by
    simp only [scope, pendingRequests, List.length_mergeSort]
  rw [Scope.isEmpty, beq_iff_eq, hlen, List.length_eq_zero_iff]

theorem within_scope (ho : s.Orderly) (hj : s.Journal cs) (id : Int) :
    s.Within (s.scope id) fun p => p.request ∈ s.pendingRequests id := by
  have hnonneg := hj.lastRequest_nonneg
  refine ⟨?_, ?_, ?_⟩
  · -- the end of the scope is a number that is pending, or zero
    rcases s.scope_through_mem id with h | h
    · exact (ho.pending_request _ (mem_pendingRequests.1 h)).2
    · omega
  · rcases s.scope_through_mem id with h | h
    · obtain ⟨r, hr, hrid⟩ := ho.pending_subscription _ (mem_pendingRequests.1 h)
      refine .inl ?_
      rw [show (s.scope id).subscription = r.id from hrid.symm]
      exact ho.subscription_le r hr
    · exact .inr (by omega)
  · rintro ⟨sub, r⟩ hp hcov
    obtain ⟨rfl, -⟩ := covered_iff.1 hcov
    exact mem_pendingRequests.2 hp

end Store

/-! ### Evaluations -/

/-- The scope of an evaluation, from when it is read to when it is acknowledged. -/
def Stage.scope? : Stage → Option Scope
  | confined _ c | answered c _ | sending c _ | settling c _ => some c
  | ready | finished _ => none

namespace Attempt

/-- What a scope has to do with what an evaluation saw. -/
structure Scoped (s : Store) (a : Attempt) (c : Scope) : Prop where
  subscription_eq : a.subscription.id = some c.subscription
  isEmpty_iff : c.isEmpty = true ↔ a.seen = []
  seen_le : ∀ r ∈ a.seen, r ≤ c.through
  within : s.Within c fun p => p.request ∈ a.seen

/-- What an evaluation saw lies behind it. -/
structure Sound (s : Store) (a : Attempt) : Prop where
  seen_le : ∀ r ∈ a.seen, r ≤ s.lastRequest
  seen_known : a.seen = [] ∨ ∃ id, a.subscription.id = some id ∧ id ≤ s.lastSubscription
  confined : ∀ c, a.stage.scope? = some c → a.Scoped s c

/-- That an evaluation of a subscription saw a request and acknowledged what it saw. -/
def Settles (a : Attempt) (sub r : Int) : Prop :=
  a.acknowledged = true ∧ a.subscription.id = some sub ∧ r ∈ a.seen

/-- That the destination took what the query answered, or that there was nothing to send. -/
def Justified (a : Attempt) : Prop :=
  ∃ s r, a.asked = some (s, r) ∧
    (a.taken = some ⟨a.subscription.query, some a.subscription.name, r⟩ ∨
      (a.taken = none ∧ r.isEmpty = true ∧ a.subscription.reportIfEmpty = false))

/-- That nothing was taken yet, and nothing acknowledged. -/
def Untaken (a : Attempt) : Prop := a.acknowledged = false ∧ a.taken = none

/-- How far an evaluation has come shows in its history. -/
def Consistent (a : Attempt) : Prop :=
  match a.stage with
  | .ready | .confined _ _ => a.Untaken
  | .answered _ r => a.Untaken ∧ ∃ s, a.asked = some (s, r)
  | .sending _ p =>
    a.Untaken ∧
      ∃ s r, a.asked = some (s, r) ∧ p = ⟨a.subscription.query, some a.subscription.name, r⟩
  | .settling _ _ => a.acknowledged = false ∧ a.Justified
  | .finished _ => a.acknowledged = true → a.Justified

/-! ### The steps of an evaluation keep what holds of it -/

theorem readScope_eq_ok {sub : Subscription} {s : Store} {q : StandingQuery} {c : Scope}
    (h : sub.readScope s = .ok (q, c)) :
    ∃ id, sub.id = some id ∧ StandingQuery.ofName sub.query = some q ∧ c = s.scope id := by
  simp only [Subscription.readScope] at h
  split at h
  · simp at h
  · next id hid =>
    split at h
    · simp at h
    · next p hp =>
      obtain ⟨rfl, rfl⟩ := Prod.mk.inj (Except.ok.inj h)
      exact ⟨id, hid, hp, rfl⟩

variable {s after : Store} {a b : Attempt}

theorem Scoped.mono {c : Scope} (h : a.Scoped s c) (hg : s.Grows after) : a.Scoped after c :=
  ⟨h.subscription_eq, h.isEmpty_iff, h.seen_le, h.within.mono hg⟩

theorem Sound.start (s : Store) (sub : Subscription) : (start sub).Sound s where
  seen_le := by simp [Attempt.start]
  seen_known := .inl rfl
  confined c h := by simp [Attempt.start, Stage.scope?] at h

theorem Sound.mono (h : a.Sound s) (hg : s.Grows after) : a.Sound after where
  seen_le r hr := Int.le_trans (h.seen_le r hr) hg.lastRequest_le
  seen_known := by
    rcases h.seen_known with hnil | ⟨id, hid, hle⟩
    · exact .inl hnil
    · exact .inr ⟨id, hid, Int.le_trans hle hg.lastSubscription_le⟩
  confined c hc := (h.confined c hc).mono hg

/-- A step that does not read the scope leaves what was seen as it is. -/
theorem Sound.congr (h : a.Sound s) (hsub : b.subscription = a.subscription)
    (hseen : b.seen = a.seen) (hscope : ∀ c, b.stage.scope? = some c → a.stage.scope? = some c) :
    b.Sound s where
  seen_le := hseen ▸ h.seen_le
  seen_known := by rw [hseen, hsub]; exact h.seen_known
  confined c hc := by
    obtain ⟨heq, hempty, hle, hwithin⟩ := h.confined c (hscope c hc)
    refine ⟨hsub ▸ heq, ?_, ?_, ?_⟩
    · rw [hseen]; exact hempty
    · rw [hseen]; exact hle
    · rw [hseen]; exact hwithin

theorem Sound.step (hs : s.Reachable) (hstep : a.Step s b) (h : a.Sound s) : b.Sound s := by
  cases hstep with
  | @read q c hstage hread =>
    obtain ⟨cs, ho, hj⟩ := hs.exists_journal
    obtain ⟨id, hid, -, rfl⟩ := readScope_eq_ok hread
    have hwithin := s.within_scope ho hj id
    refine ⟨?_, ?_, ?_⟩
    · intro r hr
      exact (ho.pending_request _ (Store.mem_pendingRequests.1 hr)).2
    · -- who has something pending is a subscription of the store
      rcases List.eq_nil_or_concat (s.pendingRequests id) with hnil | ⟨_, r, hr⟩
      · exact .inl hnil
      · have hmem : r ∈ s.pendingRequests id := by rw [hr]; simp
        obtain ⟨row, hrow, hrowid⟩ := ho.pending_subscription _ (Store.mem_pendingRequests.1 hmem)
        have hle := ho.subscription_le row hrow
        rw [hrowid] at hle
        exact .inr ⟨id, hid, hle⟩
    · intro c hc
      obtain rfl := Option.some.inj hc
      exact ⟨hid, s.isEmpty_scope id, fun r hr => Store.le_scope_through hr, hwithin⟩
  -- the other steps pass the scope on, or end with it
  | answer hstage => exact h.congr rfl rfl fun c hc => by rw [hstage]; exact hc
  | send hstage => exact h.congr rfl rfl fun c hc => by rw [hstage]; exact hc
  | pass hstage => exact h.congr rfl rfl fun c hc => by rw [hstage]; exact hc
  | take hstage => exact h.congr rfl rfl fun c hc => by rw [hstage]; exact hc
  | acknowledge | finish => exact h.congr rfl rfl fun c hc => by simp [Stage.scope?] at hc

theorem Consistent.justified (h : a.Consistent) (hack : a.acknowledged = true) : a.Justified := by
  unfold Consistent at h
  split at h
  · exact absurd (h.1.symm.trans hack) (by decide)
  · exact absurd (h.1.symm.trans hack) (by decide)
  · exact absurd (h.1.1.symm.trans hack) (by decide)
  · exact absurd (h.1.1.symm.trans hack) (by decide)
  · exact h.2
  · exact h hack

theorem Consistent.step (hstep : a.Step s b) (h : a.Consistent) : b.Consistent := by
  cases hstep with
  | read hstage =>
    simp only [Consistent, hstage] at h
    exact h
  | answer hstage =>
    simp only [Consistent, hstage] at h
    exact ⟨h, s, rfl⟩
  | send hstage =>
    simp only [Consistent, hstage] at h
    obtain ⟨huntaken, st, hasked⟩ := h
    exact ⟨huntaken, st, _, hasked, rfl⟩
  | pass hstage hempty hreport =>
    simp only [Consistent, hstage] at h
    obtain ⟨⟨hack, htaken⟩, st, hasked⟩ := h
    exact ⟨hack, st, _, hasked, .inr ⟨htaken, hempty, hreport⟩⟩
  | take hstage =>
    simp only [Consistent, hstage] at h
    obtain ⟨⟨hack, -⟩, st, r, hasked, rfl⟩ := h
    exact ⟨hack, st, r, hasked, .inl rfl⟩
  | acknowledge hstage =>
    simp only [Consistent, hstage] at h
    exact fun _ => h.2
  | finish r => exact h.justified

/-- A step after the scope was read leaves what was seen as it is. -/
theorem Step.keeps (hstep : a.Step s b) (h : a.stage ≠ .ready) :
    b.subscription = a.subscription ∧ b.seen = a.seen ∧ b.stage ≠ .ready := by
  cases hstep with
  | read hready => exact absurd hready h
  | answer | send | pass | take | acknowledge | finish => exact ⟨rfl, rfl, by simp⟩

/-- A step that does not acknowledge settles nothing. -/
theorem Step.settles (hstep : a.Step s b) (h : a.Consistent)
    (hstage : ∀ c d, a.stage ≠ .settling c d)
    (sub r : Int) : b.Settles sub r ↔ a.Settles sub r := by
  cases hstep with
  | read hready =>
    -- before the scope is read nothing has been acknowledged
    simp only [Consistent, hready] at h
    simp [Settles, h.1]
  | acknowledge hsettling => exact absurd hsettling (hstage _ _)
  | answer | send | pass | take | finish => exact Iff.rfl

/-- An acknowledgement settles what was seen. -/
theorem next_settles {refusal : Option Int} {c : Scope} {d : Option Nat}
    (hstage : a.stage = .settling c d) (sub r : Int) :
    (a.next refusal s).2.Settles sub r ↔ a.subscription.id = some sub ∧ r ∈ a.seen := by
  simp only [next, note, Stage.next, hstage, Settles, true_and]

/-- A failure settles nothing. -/
theorem settles_fail (a : Attempt) (f : RunFailure) {sub r : Int} :
    (a.fail f).Settles sub r ↔ a.Settles sub r := by
  unfold fail
  split <;> exact Iff.rfl

end Attempt

/-! ### The balance of a session -/

namespace Session

theorem sound_run (moves : List Move) :
    ∀ a ∈ (run moves).attempts, a.Sound (run moves).store :=
  forall_attempts Attempt.Sound.start (fun _ _ _ hg h => h.mono hg)
    (fun _ _ _ hs hstep h => h.step hs hstep) moves

theorem consistent_run (moves : List Move) : ∀ a ∈ (run moves).attempts, a.Consistent :=
  forall_attempts (I := fun _ a => a.Consistent) (fun _ _ => ⟨rfl, rfl⟩) (fun _ _ _ _ h => h)
    (fun _ _ _ _ hstep h => h.step hstep) moves

/-- That a request was settled for a subscription by one of the evaluations. -/
def Settled (s : Session) (sub r : Int) : Prop := ∃ a ∈ s.attempts, a.Settles sub r

/-- Whether a number is of a subscription that is there. -/
def IsLive (s : Session) (sub : Int) : Prop :=
  ∃ r ∈ s.store.subscriptions, r.id = sub

/-- The balance of a session: what is pending is what became pending less what was settled, as long
as the subscription is there. -/
structure Ledger (s : Session) : Prop where
  orderly : s.store.Orderly
  journal : s.store.Journal s.captured
  entered_le : ∀ p ∈ s.entered,
    p.request ≤ s.store.lastRequest ∧ p.subscription ≤ s.store.lastSubscription
  pending_iff : ∀ p, p ∈ s.store.pending ↔
    s.IsLive p.subscription ∧ p ∈ s.entered ∧ ¬ s.Settled p.subscription p.request

theorem ledger_start : start.Ledger where
  orderly := .nil
  journal := .nil
  entered_le := by simp [start]
  pending_iff p := by simp [start, Store.empty, IsLive]

variable {s : Session}

/-- No evaluation has seen a request with a new number. -/
theorem Ledger.not_settled_request (hsound : ∀ a ∈ s.attempts, a.Sound s.store) {sub r : Int}
    (hr : s.store.lastRequest < r) : ¬ s.Settled sub r := by
  rintro ⟨a, ha, -, -, hseen⟩
  have := (hsound a ha).seen_le r hseen
  omega

/-- No evaluation has seen anything pending for a subscription with a new number. -/
theorem Ledger.not_settled_subscription (hsound : ∀ a ∈ s.attempts, a.Sound s.store) {sub r : Int}
    (hsub : s.store.lastSubscription < sub) : ¬ s.Settled sub r := by
  rintro ⟨a, ha, -, hid, hseen⟩
  rcases (hsound a ha).seen_known with hnil | ⟨id, hid', hle⟩
  · exact absurd (hnil ▸ hseen) List.not_mem_nil
  · obtain rfl := Option.some.inj (hid.symm.trans hid')
    omega

theorem Ledger.capture (h : s.Ledger) (hsound : ∀ a ∈ s.attempts, a.Sound s.store)
    (r : CaptureRequest) (user : Option String) (recordTime : Instant) :
    (s.step (.capture r user recordTime)).Ledger := by
  simp only [step]
  split
  · next after id hok =>
    obtain ⟨rfl, -, hlast, -⟩ := Store.capture_eq_record hok
    refine ⟨h.orderly.record h.journal hlast, h.journal.record hlast, ?_, ?_⟩
    · intro p hp
      simp only [Store.record]
      rcases List.mem_append.1 hp with hp | hp
      · have := h.entered_le p hp
        omega
      · obtain ⟨row, hrow, rfl⟩ := List.mem_map.1 hp
        exact ⟨Int.le_refl _, h.orderly.subscription_le row hrow⟩
    · -- the new request is pending for all who are there, and no evaluation knows of it
      intro p
      simp only [Store.record, List.mem_append, h.pending_iff p]
      constructor
      · rintro (⟨hlive, hin, hnot⟩ | hnew)
        · exact ⟨hlive, .inl hin, hnot⟩
        · obtain ⟨row, hrow, rfl⟩ := List.mem_map.1 hnew
          exact ⟨⟨row, hrow, rfl⟩, .inr hnew, not_settled_request hsound hlast⟩
      · rintro ⟨hlive, hin | hnew, hnot⟩
        · exact .inl ⟨hlive, hin, hnot⟩
        · exact .inr hnew
  · exact h

/-- The rows of the requests recorded since a time are those of the captured requests. -/
theorem backfill_eq (hj : s.store.Journal s.captured) (sub : Subscription) (id : Int) :
    s.store.backfill sub id = (s.capturedSince sub).map fun c => ⟨id, c.id⟩ := by
  unfold Store.backfill capturedSince
  cases sub.initialRecordTime with
  | none => rfl
  | some since =>
    rw [Option.toList_some, List.flatMap_cons, List.flatMap_nil, List.append_nil,
      Store.recordedSince, hj.requests_eq, List.filter_map, List.map_map]
    have hsince : (fun r : RequestRow => r.recordTime.sortOrder (.integer since.millis) != .lt) ∘
        (fun c : Captured => c.request.row c.id c.user c.recordTime) =
        fun c => decide (since.millis ≤ c.recordTime.millis) := by
      funext c
      simp only [Function.comp_apply, CaptureRequest.row, Cell.sortOrder_integer]
      rw [Bool.eq_iff_iff, bne_iff_ne, Int.compare_ne_lt, decide_eq_true_eq]
    rw [hsince]
    rfl

theorem Ledger.subscribe (h : s.Ledger) (hsound : ∀ a ∈ s.attempts, a.Sound s.store)
    (sub : Subscription) : (s.step (.subscribe sub)).Ledger := by
  simp only [step]
  split
  · next after id hok =>
    obtain ⟨rfl, -, hlast, -⟩ := Store.addSubscription_eq_enroll hok
    refine ⟨h.orderly.enroll h.journal hlast, h.journal.enroll sub id, ?_, ?_⟩
    · intro p hp
      simp only [Store.enroll]
      rcases List.mem_append.1 hp with hp | hp
      · have := h.entered_le p hp
        omega
      · rw [← backfill_eq h.journal] at hp
        obtain ⟨hsub, -, hle⟩ := Store.Orderly.backfill_bounds h.journal hp
        omega
    · intro p
      simp only [Store.enroll, IsLive, List.mem_append, h.pending_iff p, ← backfill_eq h.journal]
      constructor
      · rintro (⟨⟨row, hrow, hid⟩, hin, hnot⟩ | hnew)
        · exact ⟨⟨row, .inl hrow, hid⟩, .inl hin, hnot⟩
        · have hid := (Store.Orderly.backfill_bounds h.journal hnew).1
          exact ⟨⟨sub.row id, .inr (List.mem_singleton.2 rfl), hid.symm⟩, .inr hnew,
            not_settled_subscription hsound (hid ▸ hlast)⟩
      · rintro ⟨⟨row, hrow, hid⟩, hin | hnew, hnot⟩
        · rcases hrow with hrow | hrow
          · exact .inl ⟨⟨row, hrow, hid⟩, hin, hnot⟩
          · -- nothing had become pending for the new subscription
            obtain rfl := List.mem_singleton.1 hrow
            have := (h.entered_le p hin).2
            simp only [Subscription.row] at hid
            omega
        · exact .inr hnew
  · exact h

theorem Ledger.unsubscribe (h : s.Ledger) (name : String) :
    (s.step (.unsubscribe name)).Ledger := by
  refine ⟨h.orderly.removeSubscription name, h.journal.removeSubscription name, h.entered_le, ?_⟩
  intro p
  have hgone : p.subscription ∈
      (s.store.subscriptions.filter fun r => r.name == name).map SubscriptionRow.id ↔
      ∃ r ∈ s.store.subscriptions, r.name = name ∧ r.id = p.subscription := by
    simp [and_assoc]
  simp only [step, Store.removeSubscription, List.mem_filter, Bool.not_eq_true',
    ← Bool.not_eq_true, List.contains_iff_mem, hgone, h.pending_iff p, IsLive, bne_iff_ne]
  constructor
  · rintro ⟨⟨⟨r, hr, hid⟩, hin, hnot⟩, hkept⟩
    exact ⟨⟨r, ⟨hr, fun hname => hkept ⟨r, hr, hname, hid⟩⟩, hid⟩, hin, hnot⟩
  · rintro ⟨⟨r, ⟨hr, hname⟩, hid⟩, hin, hnot⟩
    refine ⟨⟨⟨r, hr, hid⟩, hin, hnot⟩, ?_⟩
    rintro ⟨q, hq, hqname, hqid⟩
    -- numbers tell subscriptions apart
    obtain rfl : q = r :=
      List.inj_on_of_nodup_map h.orderly.ids_nodup hq hr (hqid.trans hid.symm)
    exact hname hqname

theorem Ledger.refuse (h : s.Ledger) (fs : List Refusal) : (s.step (.refuse fs)).Ledger :=
  ⟨h.orderly.refuse fs, h.journal.refuse fs, h.entered_le, h.pending_iff⟩

/-- What is acknowledged does not depend on an evaluation that acknowledged nothing. -/
theorem Ledger.congr (h : s.Ledger) {attempts : List Attempt}
    (hsettled : ∀ sub r,
      ({ s with attempts := attempts } : Session).Settled sub r ↔ s.Settled sub r) :
    ({ s with attempts := attempts } : Session).Ledger where
  orderly := h.orderly
  journal := h.journal
  entered_le := h.entered_le
  pending_iff p := by
    rw [hsettled]
    exact h.pending_iff p

theorem Ledger.begin (h : s.Ledger) (sub : Subscription) : (s.step (.begin sub)).Ledger := by
  refine h.congr fun id r => ?_
  simp [Settled, Attempt.Settles, Attempt.start, or_and_right, exists_or]

/-- Replacing a member by one with at least its properties. -/
theorem exists_mem_set {α : Type} {l : List α} {i : Nat} {a b : α} {P : α → Prop}
    (hi : l[i]? = some a) (hP : P a → P b) : (∃ x ∈ l.set i b, P x) ↔ P b ∨ ∃ x ∈ l, P x := by
  constructor
  · rintro ⟨x, hx, hPx⟩
    rcases List.mem_or_eq_of_mem_set hx with hx | rfl
    · exact .inr ⟨x, hx, hPx⟩
    · exact .inl hPx
  · obtain ⟨hlt, rfl⟩ := List.getElem?_eq_some_iff.1 hi
    rintro (hPb | ⟨x, hx, hPx⟩)
    · exact ⟨b, List.mem_set hlt b, hPb⟩
    · obtain ⟨j, hj, rfl⟩ := List.getElem_of_mem hx
      by_cases hij : i = j
      · subst hij
        exact ⟨b, List.mem_set hlt b, hP hPx⟩
      · refine ⟨l[j], ?_, hPx⟩
        exact List.mem_iff_getElem.2 ⟨j, by simpa using hj, by rw [List.getElem_set_ne hij]⟩

theorem settled_set {i : Nat} {a b : Attempt} (hi : s.attempts[i]? = some a) {sub r : Int}
    (h : a.Settles sub r → b.Settles sub r) :
    ({ s with attempts := s.attempts.set i b } : Session).Settled sub r ↔
      b.Settles sub r ∨ s.Settled sub r :=
  exists_mem_set hi h

/-- An evaluation that settles what it settled before leaves the balance alone. -/
theorem Ledger.set (h : s.Ledger) {i : Nat} {a b : Attempt} (hi : s.attempts[i]? = some a)
    (hsettles : ∀ sub r, b.Settles sub r ↔ a.Settles sub r) :
    ({ s with attempts := s.attempts.set i b } : Session).Ledger := by
  refine h.congr fun sub r => ?_
  rw [settled_set hi (hsettles sub r).2, hsettles]
  exact or_iff_right_of_imp fun ha => ⟨a, List.mem_of_getElem? hi, ha⟩

/-- An acknowledgement takes away exactly what the evaluation had seen. -/
theorem mem_acknowledge_iff (hsound : ∀ a ∈ s.attempts, a.Sound s.store) {a : Attempt}
    (ha : a ∈ s.attempts) {c : Scope} {d : Option Nat} (hstage : a.stage = .settling c d)
    (p : PendingRow) :
    p ∈ (s.store.acknowledge c).1.pending ↔
      p ∈ s.store.pending ∧ ¬ (a.subscription.id = some p.subscription ∧ p.request ∈ a.seen) := by
  obtain ⟨hid, hempty, hle, hwithin⟩ := (hsound a ha).confined c (by rw [hstage]; rfl)
  rw [Store.mem_acknowledge]
  refine and_congr_right fun hp => not_congr ?_
  constructor
  · rintro ⟨-, hcov⟩
    exact ⟨(Store.covered_iff.1 hcov).1 ▸ hid, hwithin.forall_covered p hp hcov⟩
  · rintro ⟨hsub, hseen⟩
    refine ⟨?_, Store.covered_iff.2 ⟨?_, hle _ hseen⟩⟩
    · rw [← Bool.not_eq_true, hempty]
      exact List.ne_nil_of_mem hseen
    · exact Option.some.inj (hsub.symm.trans hid)

theorem Ledger.advance (h : s.Ledger) (hsound : ∀ a ∈ s.attempts, a.Sound s.store)
    (hcons : ∀ a ∈ s.attempts, a.Consistent) (i : Nat) (refusal : Option Int) :
    (s.step (.advance i refusal)).Ledger := by
  simp only [step]
  split
  · next a hi =>
    have ha := List.mem_of_getElem? hi
    by_cases hstage : ∃ c d, a.stage = .settling c d
    · -- what it takes away and what is settled from then on are the same: what it had seen
      obtain ⟨c, d, hstage⟩ := hstage
      obtain ⟨hreq, hsub, hsubs⟩ := s.store.acknowledge_frame c
      rw [Attempt.next_store_of_settling hstage]
      refine ⟨h.orderly.acknowledge c, h.journal.acknowledge c, ?_, fun p => ?_⟩
      · rw [hreq, hsub]
        exact h.entered_le
      · have hsettled : (Session.mk (s.store.acknowledge c).1
            (s.attempts.set i (a.next refusal s.store).2) s.captured s.entered).Settled
            p.subscription p.request ↔
            (a.subscription.id = some p.subscription ∧ p.request ∈ a.seen) ∨
              s.Settled p.subscription p.request := by
          rw [← Attempt.next_settles hstage]
          exact exists_mem_set hi fun hs => (Attempt.next_settles hstage _ _).2 hs.2
        rw [hsettled, IsLive, hsubs, mem_acknowledge_iff hsound ha hstage, h.pending_iff, not_or,
          IsLive]
        constructor
        · rintro ⟨⟨hlive, hin, hnot⟩, hseen⟩
          exact ⟨hlive, hin, hseen, hnot⟩
        · rintro ⟨hlive, hin, hseen, hnot⟩
          exact ⟨⟨hlive, hin, hnot⟩, hseen⟩
    · -- any other step settles nothing and leaves the store alone
      have hstage (c : Scope) (d : Option Nat) : a.stage ≠ .settling c d :=
        fun hcd => hstage ⟨c, d, hcd⟩
      have hstore : (a.next refusal s.store).1 = s.store := Stage.next_store hstage
      rw [hstore]
      exact h.set hi ((a.next_step refusal s.store).settles (hcons a ha) hstage)
  · exact h

theorem Ledger.fail (h : s.Ledger) (i : Nat) (f : RunFailure) : (s.step (.fail i f)).Ledger := by
  simp only [step]
  split
  · next a hi => exact h.set hi fun sub r => a.settles_fail f
  · exact h

theorem Ledger.step (h : s.Ledger) (hsound : ∀ a ∈ s.attempts, a.Sound s.store)
    (hcons : ∀ a ∈ s.attempts, a.Consistent) (m : Move) : (s.step m).Ledger := by
  cases m with
  | capture r user recordTime => exact h.capture hsound r user recordTime
  | subscribe sub => exact h.subscribe hsound sub
  | unsubscribe name => exact h.unsubscribe name
  | refuse fs => exact h.refuse fs
  | begin sub => exact h.begin sub
  | advance i refusal => exact h.advance hsound hcons i refusal
  | fail i f => exact h.fail i f

/-- **The balance holds in every session.** -/
theorem ledger_run (moves : List Move) : (run moves).Ledger := by
  refine run_induction ledger_start (fun before m h => ?_) moves
  exact h.step (sound_run before) (consistent_run before) m

/-! ### What an evaluation saw -/

/-- The history only grows. -/
theorem entered_subset_step (s : Session) (m : Move) : s.entered ⊆ (s.step m).entered := by
  cases m with
  | capture | subscribe | advance | fail =>
    simp only [step]
    split
    · first | exact List.subset_append_left _ _ | exact List.Subset.refl _
    · exact List.Subset.refl _
  | unsubscribe | refuse | begin => exact List.Subset.refl _

/-- What an evaluation saw had become pending for its subscription. -/
theorem seen_entered (moves : List Move) :
    ∀ a ∈ (run moves).attempts, ∀ sub, a.subscription.id = some sub →
      ∀ r ∈ a.seen, ⟨sub, r⟩ ∈ (run moves).entered := by
  refine run_induction
    (P := fun s => ∀ a ∈ s.attempts, ∀ sub, a.subscription.id = some sub →
      ∀ r ∈ a.seen, ⟨sub, r⟩ ∈ s.entered) (by simp [start]) ?_ moves
  intro before m hall a ha sub hid r hr
  refine entered_subset_step _ m ?_
  rcases mem_attempts_step ha with ha | ⟨_, rfl⟩ | ⟨b, hb, hstep⟩
  · exact hall a ha sub hid r hr
  · -- an evaluation that begins has seen nothing
    exact absurd hr List.not_mem_nil
  · cases hstep with
    | @read q c hstage hread =>
      obtain ⟨id, hid', -, rfl⟩ := Attempt.readScope_eq_ok hread
      obtain rfl := Option.some.inj (hid.symm.trans hid')
      -- what is pending had become so, by the balance
      exact ((ledger_run before).pending_iff _).1 (Store.mem_pendingRequests.1 hr) |>.2.1
    | answer | send | pass | take | acknowledge | finish => exact hall b hb sub hid r hr

/-- An evaluation stays in its place, and takes at most one step in a move. -/
theorem getElem?_attempts_step {i : Nat} {a : Attempt} (m : Move) (ha : s.attempts[i]? = some a) :
    ∃ b, (s.step m).attempts[i]? = some b ∧ (b = a ∨ a.Step s.store b) := by
  have hset (j : Nat) (c b : Attempt) (hj : s.attempts[j]? = some c) (hstep : c.Step s.store b) :
      ∃ b', (s.attempts.set j b)[i]? = some b' ∧ (b' = a ∨ a.Step s.store b') := by
    by_cases hij : j = i
    · subst hij
      obtain rfl := Option.some.inj (ha.symm.trans hj)
      obtain ⟨hlt, -⟩ := List.getElem?_eq_some_iff.1 hj
      exact ⟨b, by rw [List.getElem?_set_self hlt], .inr hstep⟩
    · exact ⟨a, by rw [List.getElem?_set_ne hij, ha], .inl rfl⟩
  cases m with
  | capture | subscribe =>
    simp only [step]
    split <;> exact ⟨a, ha, .inl rfl⟩
  | unsubscribe | refuse => exact ⟨a, ha, .inl rfl⟩
  | begin sub =>
    obtain ⟨hlt, -⟩ := List.getElem?_eq_some_iff.1 ha
    exact ⟨a, by simp only [step]; rw [List.getElem?_append_left hlt, ha], .inl rfl⟩
  | advance j refusal =>
    simp only [step]
    split
    · next c hj => exact hset j c _ hj (c.next_step refusal s.store)
    · exact ⟨a, ha, .inl rfl⟩
  | fail j f =>
    simp only [step]
    split
    · next c hj => exact hset j c _ hj (c.fail_step f s.store)
    · exact ⟨a, ha, .inl rfl⟩

/-- What an evaluation saw when it read its scope stays as it is. -/
theorem seen_foldl {i : Nat} {a b : Attempt} {later : List Move} (ha : s.attempts[i]? = some a)
    (hstage : a.stage ≠ .ready) (hb : (later.foldl Session.step s).attempts[i]? = some b) :
    b.subscription = a.subscription ∧ b.seen = a.seen := by
  -- the scope is read once: from then on no step touches what was seen
  induction later generalizing s a with
  | nil =>
    obtain rfl := Option.some.inj (ha.symm.trans hb)
    exact ⟨rfl, rfl⟩
  | cons m later ih =>
    obtain ⟨c, hc, rfl | hstep⟩ := getElem?_attempts_step m ha
    · exact ih hc hstage hb
    · obtain ⟨hsub, hseen, hstage'⟩ := hstep.keeps hstage
      obtain ⟨hsub', hseen'⟩ := ih hc hstage' hb
      exact ⟨hsub'.trans hsub, hseen'.trans hseen⟩

/-- **What is pending for a subscription is what became pending for it, less what was settled by an
evaluation that had seen it.**  An evaluation acknowledges only after the destination took its
answer, or with nothing to send, and takes away exactly what it had seen; what became pending after
it read its scope it never settles.  All else in an evaluation leaves the store alone. -/
theorem pending_conserved (moves : List Move) :
    let s := run moves
    (∀ sub r : Int, r ∈ s.store.pendingRequests sub ↔
      s.IsLive sub ∧ ⟨sub, r⟩ ∈ s.entered ∧ ¬ s.Settled sub r) ∧
    (∀ sub : Int, (s.store.pendingRequests sub).Nodup) ∧
    (∀ a ∈ s.attempts, a.acknowledged = true → a.Justified) ∧
    (∀ (i : Nat) (a : Attempt), s.attempts[i]? = some a → ∀ (refusal : Option Int) (p : PendingRow),
      p ∈ (s.step (.advance i refusal)).store.pending ↔ p ∈ s.store.pending ∧
        ¬ ((∃ c d, a.stage = .settling c d) ∧ a.subscription.id = some p.subscription ∧
          p.request ∈ a.seen)) ∧
    (∀ (i : Nat) (f : RunFailure), (s.step (.fail i f)).store = s.store) ∧
    (∀ (i : Nat) (a : Attempt), s.attempts[i]? = some a → a.stage ≠ .ready →
      ∀ (later : List Move) (b : Attempt), (run (moves ++ later)).attempts[i]? = some b →
        ∀ p, p ∉ s.entered → ¬ b.Settles p.subscription p.request) := by
  intro s
  have hledger : s.Ledger := ledger_run moves
  have hsound : ∀ a ∈ s.attempts, a.Sound s.store := sound_run moves
  refine ⟨?_, hledger.orderly.pendingRequests_nodup, ?_, ?_, ?_, ?_⟩
  · intro sub r
    rw [Store.mem_pendingRequests, hledger.pending_iff]
  · intro a ha
    exact (consistent_run moves a ha).justified
  · intro i a hi refusal p
    have ha := List.mem_of_getElem? hi
    simp only [step, hi]
    by_cases hstage : ∃ c d, a.stage = .settling c d
    · obtain ⟨c, d, hstage⟩ := hstage
      rw [Attempt.next_store_of_settling hstage, mem_acknowledge_iff hsound ha hstage]
      simp [hstage]
    · have hstore : (a.next refusal s.store).1 = s.store :=
        Stage.next_store fun c d h => hstage ⟨c, d, h⟩
      rw [hstore]
      simp [hstage]
  · intro i f
    simp only [step]
    split <;> rfl
  · -- what `b` saw is what `a` had seen, and that had become pending by then
    intro i a hi hstage later b hb p hp hsettles
    have hrun : run (moves ++ later) = later.foldl Session.step s := List.foldl_append
    obtain ⟨hsub, hseen⟩ := seen_foldl hi hstage (hrun ▸ hb)
    obtain ⟨-, hid, hr⟩ := hsettles
    exact hp (seen_entered moves a (List.mem_of_getElem? hi) _ (hsub ▸ hid) _ (hseen ▸ hr))

end Session

end Provenance
