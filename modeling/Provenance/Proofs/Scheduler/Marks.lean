import Mathlib.Data.List.Induction
import Provenance.Proofs.Scheduler.History

/-!
# Captures and marks

A capture marks the entries after captures as due, a tick takes the mark off the entries that it
collects, and a report sets it for a retry, or takes it off when the retries are spent.  The signal
of a capture may come while an evaluation is in flight that began before it.

So each entry is followed through the history of a run: whether an evaluation of it was begun,
whether a capture was signalled since, and whether a report has given it up since the signal.  An
evaluation is owed to an entry of which none was begun yet, or none since the last signal.  Such an
entry is marked unless a report gave it up in between; in particular it is always marked if retries
are not limited.

## Main definitions

* `Sign`, `Loop.signs` — what there is to note of a step about the mark of an entry.
* `Past`, `Past.isOwed`, `Loop.past` — what an entry has gone through in a run.

## Main results

* `Loop.Marked.change` — marks and pasts agree after a step.
* `Loop.due_iff_of_isOwed` — **when an entry that is owed an evaluation is marked.**
-/

namespace Provenance

/-- What concerns the mark of an entry. -/
inductive Sign
  /-- An evaluation of the entry is begun. -/
  | begun
  | captured
  /-- The retries of the entry are spent. -/
  | givenUp
  deriving DecidableEq, Repr

/-- What an entry has gone through. -/
structure Past where
  /-- Whether an evaluation of it was begun. -/
  fired : Bool
  /-- Whether a capture was signalled since an evaluation of it was begun last. -/
  captured : Bool
  /-- Whether a report gave it up since an evaluation was begun last, or a capture signalled. -/
  spent : Bool
  deriving DecidableEq, Repr

namespace Past

/-- The past of a new entry. -/
def fresh : Past := ⟨false, false, false⟩

/-- The past after a sign. -/
def note (p : Past) : Sign → Past
  | .begun => ⟨true, false, false⟩
  | .captured => { p with captured := true, spent := false }
  | .givenUp => { p with spent := true }

/-- Whether an evaluation is owed: none was begun yet, or none since the last capture. -/
def isOwed (p : Past) : Bool := !p.fired || p.captured

end Past

/-- Whether an evaluation failed. -/
def Evaluated.isFailure (v : Evaluated) : Bool :=
  match v.result with
  | some (.error _) => true
  | _ => false

/-- Whether the end of an evaluation gives an entry up: it is the entry that was evaluated, the
evaluation failed, and no retry is left. -/
def Entry.isGivenUpBy (e : Entry) (v : Evaluated) : Bool :=
  e.stamp == v.stamp && v.isFailure && e.trigger.any fun t => t.backoff.isSpent

namespace Loop

/-- Whether what a step puts into the entries gives up the entry of a stamp. -/
def givesUp (l : Loop) (st : LoopStep) (n : Nat) : Bool :=
  l.scheduler.entries.any fun e => e.stamp == n && (l.ends st).any e.isGivenUpBy

/-- The signs in a step for the entry of a stamp. -/
def signs (n : Nat) (l : Loop) (st : LoopStep) : List Sign :=
  match st with
  | .command _ .captured => if l.phase = .accepting then [.captured] else []
  | .tick now => if n ∈ (l.begins (.tick now)).map (fun b => b.2.stamp) then [.begun] else []
  | .report now => if l.givesUp (.report now) n then [.givenUp] else []
  | _ => []

/-- What the entry of a stamp has gone through in a run. -/
def past (l : Loop) (sts : List LoopStep) (n : Nat) : Past :=
  (l.trace (signs n) sts).foldl .note .fresh

/-- What entries have gone through after one more step. -/
def pastAfter (l : Loop) (st : LoopStep) (past : Nat → Past) (n : Nat) : Past :=
  (l.signs n st).foldl .note (past n)

theorem past_concat (l : Loop) (sts : List LoopStep) (st : LoopStep) :
    l.past (sts ++ [st]) = (l.run sts).pastAfter st (l.past sts) := by
  funext n
  rw [past, trace_concat, List.foldl_append]
  rfl

end Loop

/-! ### Settling one entry -/

/-- The mark of an entry after the end of its evaluation. -/
theorem Entry.due_settleOne {e : Entry} {v : Evaluated} (h : v.stamp = e.stamp) {now : Instant}
    {u : TriggerState} (hu : (e.settleOne now v).trigger = some u) :
    ∃ t, e.trigger = some t ∧ u.due = if v.isFailure then !e.isGivenUpBy v else t.due := by
  unfold settleOne at hu
  unfold isGivenUpBy Evaluated.isFailure
  cases hresult : v.result with
  | none =>
    rw [hresult] at hu
    exact ⟨u, hu, rfl⟩
  | some r =>
    simp only [hresult, if_pos h.symm, settle] at hu
    obtain ⟨t, ht, rfl⟩ := Option.map_eq_some_iff.1 hu
    refine ⟨t, ht, ?_⟩
    cases r with
    | ok o => rfl
    | error f =>
      cases hspent : t.backoff.isSpent <;>
        simp [TriggerState.settle, TriggerState.fail, Backoff.recordFailure, hspent, h, ht]

namespace Loop

variable {l l' : Loop} {st : LoopStep} {p : RetryPolicy}

/-! ### Who is given up -/

theorem givesUp_iff {n : Nat} : l.givesUp st n = true ↔
    ∃ e ∈ l.scheduler.entries, e.stamp = n ∧ ∃ v ∈ l.ends st, e.isGivenUpBy v = true := by
  simp only [givesUp, List.any_eq_true, Bool.and_eq_true, beq_iff_eq]

theorem stamp_eq_of_isGivenUpBy {e : Entry} {v : Evaluated} (h : e.isGivenUpBy v = true) :
    v.stamp = e.stamp := by
  simp only [Entry.isGivenUpBy, Bool.and_eq_true, beq_iff_eq] at h
  exact h.1.1.symm

/-- What is given up was in flight, and its retries are limited. -/
theorem exists_of_givesUp (hl : l.Stamped) (hp : l.scheduler.retry = p) {n : Nat}
    (h : l.givesUp st n = true) : n ∈ l.inFlight ∧ p.limit.isSome = true := by
  obtain ⟨e, he, rfl, v, hv, hup⟩ := givesUp_iff.1 h
  constructor
  · rw [← stamp_eq_of_isGivenUpBy hup]
    exact mem_inFlight_of_ends hv
  · simp only [Entry.isGivenUpBy, Bool.and_eq_true, Option.any_eq_true] at hup
    obtain ⟨-, t, ht, hspent⟩ := hup
    rw [← hp, ← (hl.scheduler.fits e he).policy t ht]
    unfold Backoff.isSpent at hspent
    cases hlimit : t.backoff.policy.limit with
    | none => simp [hlimit] at hspent
    | some n => rfl

/-- Whether an entry whose evaluation has ended is given up is for that evaluation to say. -/
theorem givesUp_eq (hl : l.Stamped) {e : Entry} (he : e ∈ l.scheduler.entries) {v : Evaluated}
    (hv : v ∈ l.ends st) (hstamp : v.stamp = e.stamp) :
    l.givesUp st e.stamp = e.isGivenUpBy v := by
  rw [Bool.eq_iff_iff, givesUp_iff]
  constructor
  · rintro ⟨e', he', hsame, v', hv', hup⟩
    obtain rfl := hl.scheduler.eq_of_stamp he' he hsame
    have hstamp' : v'.stamp = v.stamp := (stamp_eq_of_isGivenUpBy hup).trans hstamp.symm
    obtain rfl := List.inj_on_of_nodup_map (hl.nodup_ends st) hv' hv hstamp'
    exact hup
  · intro hup
    exact ⟨e, he, rfl, v, hv, hup⟩

/-- An entry of which no evaluation has ended is not given up. -/
theorem givesUp_of_notMem {n : Nat} (h : ∀ v ∈ l.ends st, v.stamp ≠ n) :
    l.givesUp st n = false := by
  rw [Bool.eq_false_iff]
  intro hup
  obtain ⟨e, -, rfl, v, hv, hup⟩ := givesUp_iff.1 hup
  exact h v hv (stamp_eq_of_isGivenUpBy hup)

/-! ### The invariant -/

/-- How the past of entries fits their marks. -/
structure Marked (p : RetryPolicy) (l : Loop) (past : Nat → Past) : Prop where
  stamped : l.Stamped
  retry : l.scheduler.retry = p
  /-- Of a stamp that is yet to be given nothing was begun. -/
  lt_next : ∀ n, (past n).fired = true → n < l.scheduler.nextStamp
  /-- What is in flight was begun, and was not given up yet. -/
  inFlight : ∀ n ∈ l.inFlight, (past n).fired = true ∧ (past n).spent = false
  /-- Only what was begun can be given up, and only if retries are limited. -/
  spent : ∀ n, (past n).spent = true → (past n).fired = true ∧ p.limit.isSome = true
  due_iff : ∀ e ∈ l.scheduler.entries, ∀ t, e.trigger = some t →
    (past e.stamp).isOwed = true → (t.due = true ↔ (past e.stamp).spent = false)

variable {past : Nat → Past}

/-- A tick that begins has a sign for what it collects. -/
theorem pastAfter_of_fires {now : Instant} (hphase : l.phase = .accepting) (htick : l.tick = none)
    {e : Entry} (he : e ∈ l.scheduler.entries) (hfires : e.fires now = true) :
    l.pastAfter (.tick now) past e.stamp = ⟨true, false, false⟩ := by
  have hmem : e.stamp ∈ (l.begins (.tick now)).map fun b => b.2.stamp :=
    List.mem_map.2 ⟨_, mem_begins_of_fires hphase htick he hfires, rfl⟩
  rw [pastAfter, signs, if_pos hmem]
  rfl

/-- It has none for an entry that does not fire. -/
theorem Stamped.pastAfter_of_not_fires (hl : l.Stamped) {now : Instant} {e : Entry}
    (he : e ∈ l.scheduler.entries) (hfires : ∀ r ∈ l.opens (.tick now), e.fires r = false) :
    l.pastAfter (.tick now) past e.stamp = past e.stamp := by
  have hmem : e.stamp ∉ (l.begins (.tick now)).map fun b => b.2.stamp := by
    intro hmem
    obtain ⟨b, hb, hstamp⟩ := List.mem_map.1 hmem
    obtain ⟨hopen, e', he', hfires', hd⟩ := exists_of_mem_begins hb
    rw [hd] at hstamp
    obtain rfl := hl.scheduler.eq_of_stamp he' he hstamp
    rw [hfires b.1 hopen] at hfires'
    exact absurd hfires' (by decide)
  rw [pastAfter, signs, if_neg hmem]
  rfl

/-- Marks after a report. -/
theorem Marked.due_iff_report (h : l.Marked p past) {now : Instant} {e : Entry}
    (he : e ∈ l.scheduler.entries) {u : TriggerState}
    (hu : (e.settleAll now (l.ends (.report now))).trigger = some u)
    (howed : (l.pastAfter (.report now) past e.stamp).isOwed = true) :
    u.due = true ↔ (l.pastAfter (.report now) past e.stamp).spent = false := by
  by_cases hmem : ∃ v ∈ l.ends (.report now), v.stamp = e.stamp
  · -- the entry was evaluated: only the end of that evaluation concerns it
    obtain ⟨v, hv, hstamp⟩ := hmem
    rw [Entry.settleAll_of_mem (h.stamped.nodup_ends _) hv hstamp] at hu
    obtain ⟨t, ht, hdue⟩ := Entry.due_settleOne hstamp hu
    have hspent := (h.inFlight _ (mem_inFlight_of_ends hv)).2
    rw [hstamp] at hspent
    have hup := givesUp_eq h.stamped he hv hstamp
    rw [hdue]
    cases hfailure : v.isFailure with
    | true =>
      -- a failure sets the mark or gives up, whatever the mark was
      cases hgiven : e.isGivenUpBy v <;> simp [pastAfter, signs, hup, hgiven, hspent, Past.note]
    | false =>
      -- a success, or an evaluation that was skipped, leaves the mark as it was
      have hnot : e.isGivenUpBy v = false := by simp [Entry.isGivenUpBy, hfailure]
      have hsame : l.pastAfter (.report now) past e.stamp = past e.stamp := by
        simp [pastAfter, signs, hup, hnot]
      rw [hsame] at howed ⊢
      exact h.due_iff e he t ht howed
  · have hnot : ∀ v ∈ l.ends (.report now), v.stamp ≠ e.stamp :=
      fun v hv heq => hmem ⟨v, hv, heq⟩
    rw [Entry.settleAll_of_notMem hnot] at hu
    have hsame : l.pastAfter (.report now) past e.stamp = past e.stamp := by
      simp [pastAfter, signs, givesUp_of_notMem hnot]
    rw [hsame] at howed ⊢
    exact h.due_iff e he u hu howed

/-- Marks after a step. -/
theorem Marked.due_iff_change (h : l.Marked p past) (hc : l.Change st l') {e : Entry}
    (he : e ∈ l'.scheduler.entries) {u : TriggerState} (hu : e.trigger = some u)
    (howed : (l.pastAfter st past e.stamp).isOwed = true) :
    u.due = true ↔ (l.pastAfter st past e.stamp).spent = false := by
  rcases hc.mem_entries he with ⟨caller, sub, rfl, rfl⟩ | ⟨e₀, he₀, rfl⟩
  · -- a new entry is marked, and nothing was begun of its stamp that could be given up
    have hspent : (past l.scheduler.nextStamp).spent = false := by
      rw [Bool.eq_false_iff]
      intro hspent
      exact absurd (h.lt_next _ (h.spent _ hspent).1) (Nat.lt_irrefl _)
    exact iff_of_true (Entry.due_of_make hu) hspent
  · rw [Entry.stamp_after] at howed ⊢
    cases hc with
    | command hphase caller c =>
      cases c with
      | captured =>
        -- the signal sets the mark
        obtain ⟨t, -, rfl⟩ := Option.map_eq_some_iff.1 hu
        exact iff_of_true rfl (by simp [pastAfter, signs, hphase, Past.note])
      | register | remove | names | shutdown => exact h.due_iff e₀ he₀ u hu howed
    | tick hphase now =>
      by_cases hfires : l.tick = none ∧ e₀.fires now = true
      · -- to what is collected nothing is owed any more
        rw [pastAfter_of_fires hphase hfires.1 he₀ hfires.2] at howed
        exact absurd howed (by decide)
      · have hquiet : ∀ r ∈ l.opens (.tick now), e₀.fires r = false := by
          intro r hr
          obtain ⟨hsame, -, htick⟩ := mem_opens hr
          obtain rfl := LoopStep.tick.inj hsame
          rw [Bool.eq_false_iff]
          exact fun hfires' => hfires ⟨htick, hfires'⟩
        have hafter : e₀.after l (.tick now) = e₀ := by
          rw [Entry.after, if_neg]
          simpa [Option.isNone_iff_eq_none] using hfires
        rw [hafter] at hu
        rw [h.stamped.pastAfter_of_not_fires he₀ hquiet] at howed ⊢
        exact h.due_iff e₀ he₀ u hu howed
    | overrun | report => exact h.due_iff_report he₀ hu howed
    | start | skip | finish => exact h.due_iff e₀ he₀ u hu howed

/-- What is in flight was begun and not given up, and stays so until the report. -/
theorem Marked.inFlight_change (h : l.Marked p past) (hc : l.Change st l') {n : Nat}
    (hn : n ∈ l'.inFlight) :
    (l.pastAfter st past n).fired = true ∧ (l.pastAfter st past n).spent = false := by
  have hphase {now : Instant} (hst : st = .tick now) : l.phase = .accepting := by
    subst hst
    cases hc with
    | tick hphase => exact hphase
  rcases hc.inFlight with ⟨hperm, hreport⟩ | hnil | ⟨now, rfl, htick, hdue⟩
  · obtain ⟨hfired, hspent⟩ := h.inFlight n (hperm.mem_iff.1 hn)
    have hsigns : ∀ s ∈ l.signs n st, s ≠ .givenUp := by
      unfold signs
      split
      · split <;> simp
      · split <;> simp
      · exact absurd rfl (hreport _)
      · simp
    -- of the other signs each keeps what is to be shown
    refine List.foldlRecOn (l.signs n st) Past.note
      (motive := fun q => q.fired = true ∧ q.spent = false) ⟨hfired, hspent⟩ fun q hq s hs => ?_
    cases s with
    | begun => exact ⟨rfl, rfl⟩
    | captured => exact ⟨hq.1, rfl⟩
    | givenUp => exact absurd rfl (hsigns _ hs)
  · simp [hnil] at hn
  · rw [hdue] at hn
    obtain ⟨d, hd, rfl⟩ := List.mem_map.1 hn
    obtain ⟨e, he, rfl⟩ := List.mem_map.1 hd
    obtain ⟨he, hfires⟩ := List.mem_filter.1 he
    rw [pastAfter_of_fires (hphase rfl) htick he hfires]
    exact ⟨rfl, rfl⟩

/-- Only what was begun is given up, and only if retries are limited. -/
theorem Marked.spent_change (h : l.Marked p past) {n : Nat}
    (hspent : (l.pastAfter st past n).spent = true) :
    (l.pastAfter st past n).fired = true ∧ p.limit.isSome = true := by
  unfold pastAfter signs at hspent ⊢
  split at hspent
  · split at hspent
    · exact absurd hspent (by simp [Past.note])
    · next hclosed =>
      rw [if_neg hclosed]
      exact h.spent n hspent
  · split at hspent
    · exact absurd hspent (by simp [Past.note])
    · next hnone =>
      rw [if_neg hnone]
      exact h.spent n hspent
  · split at hspent
    · next hup =>
      -- what is given up was in flight, so it had been begun
      obtain ⟨hn, hlimit⟩ := exists_of_givesUp h.stamped h.retry hup
      rw [if_pos hup]
      exact ⟨(h.inFlight n hn).1, hlimit⟩
    · next hnone =>
      rw [if_neg hnone]
      exact h.spent n hspent
  · exact h.spent n hspent

/-- What is begun is of an entry, which has a stamp that was given. -/
theorem Marked.lt_next_change (h : l.Marked p past) (hc : l.Change st l') {n : Nat}
    (hfired : (l.pastAfter st past n).fired = true) : n < l'.scheduler.nextStamp := by
  have hnext := (hc.scheduler h.stamped.scheduler).2
  have hold (hfired : (past n).fired = true) : n < l'.scheduler.nextStamp :=
    Nat.lt_of_lt_of_le (h.lt_next n hfired) hnext
  unfold pastAfter signs at hfired
  split at hfired
  · split at hfired <;> exact hold hfired
  · split at hfired
    · next hmem =>
      obtain ⟨b, hb, rfl⟩ := List.mem_map.1 hmem
      obtain ⟨-, e, he, -, hd⟩ := exists_of_mem_begins hb
      rw [hd]
      exact Nat.lt_of_lt_of_le (h.stamped.scheduler.lt_next e he) hnext
    · exact hold hfired
  · split at hfired <;> exact hold hfired
  · exact hold hfired

/-- **Marks and pasts agree after a step.** -/
theorem Marked.change (h : l.Marked p past) (hc : l.Change st l') :
    l'.Marked p (l.pastAfter st past) where
  stamped := h.stamped.change hc
  retry := hc.retry.trans h.retry
  lt_next := fun _ hfired => h.lt_next_change hc hfired
  inFlight := fun _ hn => h.inFlight_change hc hn
  spent := fun _ hspent => h.spent_change hspent
  due_iff := fun _ he _ hu howed => h.due_iff_change hc he hu howed

theorem marked_start (settings : SchedulerSettings) (subs : List Subscription) :
    (start settings subs).Marked settings.retry fun _ => .fresh where
  stamped := stamped_start settings subs
  retry := (Scheduler.fresh_ofSubscriptions settings subs).retry_eq
  lt_next := fun n hfired => absurd hfired (by simp [Past.fresh])
  inFlight := fun n hn => absurd hn List.not_mem_nil
  spent := fun n hspent => absurd hspent (by simp [Past.fresh])
  due_iff := by
    intro e he u hu _
    obtain ⟨stamp, sub, rfl⟩ := (Scheduler.fresh_ofSubscriptions settings subs).entries e he
    exact iff_of_true (Entry.due_of_make hu) rfl

/-- Of a step that cannot be taken there is no sign. -/
theorem pastAfter_of_none (h : l.step st = none) : l.pastAfter st past = past := by
  have hnone (n : Nat) : l.signs n st = [] := by
    unfold signs
    split
    · -- a signal can be taken by a loop that accepts commands
      rw [if_neg]
      intro hphase
      simp [step, hphase] at h
    · simp [begins_of_none h]
    · simp [givesUp, ends_of_none h]
    · rfl
  funext n
  rw [pastAfter, hnone]
  rfl

/-- **Marks and pasts agree in every run.** -/
theorem marked_run (settings : SchedulerSettings) (subs : List Subscription)
    (sts : List LoopStep) :
    ((start settings subs).run sts).Marked settings.retry ((start settings subs).past sts) := by
  induction sts using List.reverseRecOn with
  | nil => exact marked_start settings subs
  | append_singleton sts st ih =>
    rw [run_concat, past_concat]
    rcases ((start settings subs).run sts).none_or_change st with hnone | hc
    · rw [next_of_none hnone, pastAfter_of_none hnone]
      exact ih
    · exact ih.change hc

/-- **An entry that is owed an evaluation is marked** unless a report has given it up since: it is
marked as long as none of its evaluations was begun, and always if retries are not limited.  And a
tick that is begun while it is marked, and when no retry has to be waited for, collects it. -/
theorem due_iff_of_isOwed (settings : SchedulerSettings) (subs : List Subscription)
    (sts : List LoopStep) {e : Entry}
    (he : e ∈ ((start settings subs).run sts).scheduler.entries)
    (hactive : e.subscription.active = true)
    (htrigger : e.subscription.trigger.onCapture = true)
    (howed : ((start settings subs).past sts e.stamp).isOwed = true) :
    ∃ t, e.trigger = some t ∧
      (t.due = true ↔ ((start settings subs).past sts e.stamp).spent = false) ∧
      (((start settings subs).past sts e.stamp).fired = false → t.due = true) ∧
      (settings.retry.limit = none → t.due = true) ∧
      ∀ now l rs, t.due = true → t.isReady now = true →
        ((start settings subs).run sts).tick = none →
        ((start settings subs).run sts).step (.tick now) = some (l, rs) → e.stamp ∈ l.inFlight := by
  have hmarked := marked_run settings subs sts
  -- from here on all that matters of the run is the invariant
  generalize (start settings subs).run sts = l at *
  generalize (start settings subs).past sts = past at *
  obtain ⟨t, ht⟩ : ∃ t, e.trigger = some t := by
    have hsome := (hmarked.stamped.scheduler.fits e he).isSome_trigger
    rw [htrigger] at hsome
    exact Option.isSome_iff_exists.1 hsome
  have hdue := hmarked.due_iff e he t ht howed
  refine ⟨t, ht, hdue, ?_, ?_, ?_⟩
  · intro hfired
    rw [hdue, Bool.eq_false_iff]
    intro hspent
    rw [(hmarked.spent e.stamp hspent).1] at hfired
    exact absurd hfired (by decide)
  · intro hlimit
    rw [hdue, Bool.eq_false_iff]
    intro hspent
    have hsome := (hmarked.spent e.stamp hspent).2
    rw [hlimit] at hsome
    exact absurd hsome (by decide)
  · intro now l' rs hmark hready htick hstep
    cases change_of_step hstep with
    | tick hphase =>
      have hfires : e.fires now = true := by
        rw [Entry.fires_of_trigger (hmarked.stamped.scheduler.fits e he) ht, hactive, hmark, hready]
        rfl
      rw [inFlight_startTick htick, Scheduler.due, List.map_map]
      exact List.mem_map.2 ⟨e, List.mem_filter.2 ⟨he, hfires⟩, rfl⟩

/-- A subscription after captures. -/
def promptSubscription : Subscription where
  id := some 1
  name := "s1"
  query := "SimpleEventQuery"
  parameters := []
  destination := "http://localhost/"
  active := true
  reportIfEmpty := false
  initialRecordTime := none
  trigger := .capture "urn:trigger"

/-- Settings that allow no retry. -/
def strictSettings : SchedulerSettings where
  tickInterval := 1000
  maxConcurrency := 1
  channelBuffer := 1
  retry := ⟨0, 0, some 0⟩

/-- A capture is signalled while an evaluation is in flight that fails. -/
def overtakenSteps : List LoopStep :=
  [.tick .epoch, .start 0, .command 0 .captured, .finish 0 (.error (.delivery 503)), .report .epoch]

/-- The loop before that. -/
def promptLoop : Loop := start strictSettings [promptSubscription]

/-- The entry of the subscription after that. -/
def overtakenEntry : Entry where
  stamp := 0
  subscription := promptSubscription
  lastFired := some 0
  trigger := some ⟨false, none, .start strictSettings.retry⟩

/-- A report takes the mark off that a capture has set during the evaluation. -/
theorem not_due_overtaken :
    overtakenEntry ∈ (promptLoop.run overtakenSteps).scheduler.entries ∧
      (promptLoop.past overtakenSteps overtakenEntry.stamp).isOwed = true ∧
      ∃ t, overtakenEntry.trigger = some t ∧ t.due = false := by
  have he : overtakenEntry ∈ (promptLoop.run overtakenSteps).scheduler.entries := by decide
  have howed : (promptLoop.past overtakenSteps overtakenEntry.stamp).isOwed = true := by decide
  have hspent : (promptLoop.past overtakenSteps overtakenEntry.stamp).spent = true := by decide
  obtain ⟨t, ht, hdue, -⟩ :=
    due_iff_of_isOwed strictSettings [promptSubscription] overtakenSteps he rfl rfl howed
  refine ⟨he, howed, t, ht, ?_⟩
  rw [Bool.eq_false_iff]
  intro hmark
  have hnot : (promptLoop.past overtakenSteps overtakenEntry.stamp).spent = false := hdue.1 hmark
  rw [hspent] at hnot
  exact absurd hnot (by decide)

end Loop

end Provenance
