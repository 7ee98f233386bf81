import Mathlib.Data.List.Induction
import Provenance.Proofs.Scheduler.Removal
import Provenance.Proofs.Subscription.Waiting

/-!
# The pace of retries

An entry after captures counts the failures of its evaluations in a row, since its registration, its
last success, or the last time that its retries were spent.  The count is a function of how its
evaluations ended, whatever captures and ticks came in between, and it never passes the limit.

A failure that leaves retries makes the entry due again, and no tick begins its evaluation before
the time of the next attempt.  The failure that comes after the last retry gives up: nothing is
begun until a capture, which makes the entry due at once with no failures counted.

A time for the next attempt that no calendar has breaks the loop instead.

## Main definitions

* `RetryPolicy.failuresInRow` — the failures in a row after some ends of evaluations.
* `resultsOf` — how the evaluations of an entry ended.
* `Loop.WaitsUntil`, `Loop.WaitsForCapture` — what comes next for an entry.
* `Loop.Follows` — what is to follow from the end of an evaluation.

## Main results

* `Loop.counted_run` — the count of an entry is that of its failures in a row.
* `Loop.failures_paced` — **the pace of retries.**
-/

namespace Provenance

/-! ### Counting failures -/

namespace RetryPolicy

variable (p : RetryPolicy)

/-- The failures in a row after one more end of an evaluation; the failure that finds the retries
spent starts anew. -/
def tally (k : Nat) : Except RunFailure Outcome → Nat
  | .ok _ => 0
  | .error _ => if p.limit = some k then 0 else k + 1

/-- The failures in a row after the ends of some evaluations. -/
def failuresInRow (rs : List (Except RunFailure Outcome)) : Nat := rs.foldl p.tally 0

variable {p}

theorem tally_le {k L : Nat} (hlimit : p.limit = some L) (hle : k ≤ L)
    (r : Except RunFailure Outcome) : p.tally k r ≤ L := by
  cases r with
  | ok o => exact Nat.zero_le L
  | error f =>
    rw [tally]
    split
    · exact Nat.zero_le L
    · next hne =>
      have : k ≠ L := fun hsame => hne (hsame ▸ hlimit)
      omega

/-- The count never passes the limit. -/
theorem failuresInRow_le {L : Nat} (hlimit : p.limit = some L)
    (rs : List (Except RunFailure Outcome)) : p.failuresInRow rs ≤ L :=
  List.foldlRecOn rs p.tally (motive := (· ≤ L)) (Nat.zero_le L)
    fun _ hk r _ => tally_le hlimit hk r

/-- Retries are left where the count is not past the limit and not at it. -/
theorem lt_limit {k : Nat} (hle : ∀ L, p.limit = some L → k ≤ L) (hne : p.limit ≠ some k) :
    ∀ L, p.limit = some L → k < L := by
  intro L hlimit
  have hbound := hle L hlimit
  have hother : k ≠ L := fun hsame => hne (hsame ▸ hlimit)
  omega

end RetryPolicy

/-- How the evaluations of an entry ended. -/
def resultsOf (n : Nat) (vs : List Evaluated) : List (Except RunFailure Outcome) :=
  vs.filterMap fun v => if v.stamp = n then v.result else none

theorem resultsOf_append (n : Nat) (vs ws : List Evaluated) :
    resultsOf n (vs ++ ws) = resultsOf n vs ++ resultsOf n ws := List.filterMap_append

theorem resultsOf_eq_nil {n : Nat} {vs : List Evaluated} (h : ∀ v ∈ vs, v.stamp ≠ n) :
    resultsOf n vs = [] := by
  refine List.filterMap_eq_nil_iff.2 fun v hv => ?_
  rw [if_neg (h v hv)]

variable {p : RetryPolicy}

/-- The end of an evaluation is counted. -/
theorem TriggerState.failures_settle {t : TriggerState} (hpolicy : t.backoff.policy = p)
    (hle : ∀ L, p.limit = some L → t.backoff.failures ≤ L) (now : Instant)
    (r : Except RunFailure Outcome) :
    (t.settle now r).backoff.failures = p.tally t.backoff.failures r := by
  obtain ⟨due, next, policy, k⟩ := t
  obtain rfl : policy = p := hpolicy
  cases r with
  | ok o => rfl
  | error f =>
    by_cases hlimit : policy.limit = some k
    · simp [settle, fail, Backoff.recordFailure_of_spent hlimit (Nat.le_refl k), RetryPolicy.tally,
        hlimit, Backoff.reset]
    · have hnext := Backoff.recordFailure_of_left (RetryPolicy.lt_limit hle hlimit) now
      simp [settle, fail, hnext, RetryPolicy.tally, hlimit]

namespace Entry

variable {e : Entry} {t : TriggerState}

/-- A new entry has no failures. -/
theorem failures_of_make {stamp : Nat} {sub : Subscription}
    (ht : (make stamp p sub).trigger = some t) :
    t.backoff.failures = 0 := by
  simp only [make] at ht
  split at ht
  · obtain rfl := Option.some.inj ht
    rfl
  · exact absurd ht (by simp)

/-- The ends of evaluations are counted one after the other. -/
theorem failures_settleAll (hfits : e.Fits p) (ht : e.trigger = some t)
    (hle : ∀ L, p.limit = some L → t.backoff.failures ≤ L) (now : Instant) (vs : List Evaluated) :
    ∃ t', (e.settleAll now vs).trigger = some t' ∧
      t'.backoff.failures = (resultsOf e.stamp vs).foldl p.tally t.backoff.failures := by
  induction vs generalizing e t with
  | nil => exact ⟨t, ht, rfl⟩
  | cons v vs ih =>
    have hkeep (hv : e.settleOne now v = e) (hresult : resultsOf e.stamp [v] = []) :
        ∃ t', (e.settleAll now (v :: vs)).trigger = some t' ∧
          t'.backoff.failures = (resultsOf e.stamp (v :: vs)).foldl p.tally t.backoff.failures := by
      rw [settleAll, List.foldl_cons, hv, ← List.singleton_append, resultsOf_append, hresult]
      exact ih hfits ht hle
    cases hresult : v.result with
    | none =>
      refine hkeep (by simp [settleOne, hresult]) ?_
      simp [resultsOf, hresult]
    | some r =>
      by_cases hstamp : v.stamp = e.stamp
      · have hone : (e.settleOne now v).trigger = some (t.settle now r) := by
          simp [settleOne, hresult, hstamp, settle, ht]
        have hcount := TriggerState.failures_settle (hfits.policy t ht) hle now r
        have hle' : ∀ L, p.limit = some L → (t.settle now r).backoff.failures ≤ L := by
          intro L hlimit
          rw [hcount]
          exact RetryPolicy.tally_le hlimit (hle L hlimit) r
        obtain ⟨t', ht', hfailures⟩ := ih (hfits.settleOne now v) hone hle'
        refine ⟨t', ht', ?_⟩
        rw [hfailures, hcount, stamp_settleOne]
        simp [resultsOf, hstamp, hresult]
      · refine hkeep (settleOne_of_ne hstamp) ?_
        simp [resultsOf, hstamp]

/-- What a step makes of the count of an entry. -/
theorem failures_after (hfits : e.Fits p) (l : Loop) (st : LoopStep) {t' : TriggerState}
    (ht' : (e.after l st).trigger = some t')
    (hle : ∀ t, e.trigger = some t → ∀ L, p.limit = some L → t.backoff.failures ≤ L) :
    ∃ t, e.trigger = some t ∧
      t'.backoff.failures = (resultsOf e.stamp (l.ends st)).foldl p.tally t.backoff.failures := by
  cases st with
  | command caller c =>
    cases c with
    | captured =>
      obtain ⟨t, ht, rfl⟩ := Option.map_eq_some_iff.1 ht'
      exact ⟨t, ht, rfl⟩
    | _ => exact ⟨t', ht', rfl⟩
  | tick now =>
    simp only [after] at ht'
    split at ht'
    · obtain ⟨t, ht, rfl⟩ := Option.map_eq_some_iff.1 ht'
      exact ⟨t, ht, rfl⟩
    · exact ⟨t', ht', rfl⟩
  | report now =>
    cases ht : e.trigger with
    | none =>
      -- an entry without a trigger state does not get one
      have hkind := hfits.isSome_trigger
      have hkind' := (List.foldlRecOn (l.ends (.report now)) (settleOne now) (motive := Fits p)
        hfits fun e' he' v _ => he'.settleOne now v).isSome_trigger
      have hsome : (e.settleAll now (l.ends (.report now))).trigger = some t' := ht'
      rw [← settleAll, hsome, subscription_settleAll, ← hkind, ht] at hkind'
      exact absurd hkind' (by simp)
    | some t =>
      obtain ⟨u, hu, hcount⟩ := failures_settleAll hfits ht (hle t ht) now (l.ends (.report now))
      obtain rfl : u = t' := Option.some.inj (hu.symm.trans ht')
      exact ⟨t, rfl, hcount⟩
  | start | finish => exact ⟨t', ht', rfl⟩

end Entry

namespace Loop

variable {l l' : Loop} {st : LoopStep}

/-- The counts of the entries after some ends of evaluations. -/
structure Counted (p : RetryPolicy) (l : Loop) (vs : List Evaluated) : Prop where
  retry : l.scheduler.retry = p
  lt_next : ∀ v ∈ vs, v.stamp < l.scheduler.nextStamp
  failures : ∀ e ∈ l.scheduler.entries, ∀ t, e.trigger = some t →
    t.backoff.failures = p.failuresInRow (resultsOf e.stamp vs)

theorem counted_start (settings : SchedulerSettings) (subs : List Subscription) :
    (start settings subs).Counted settings.retry [] := by
  have hfresh := Scheduler.fresh_ofSubscriptions settings subs
  refine ⟨hfresh.retry_eq, by simp, fun e he t ht => ?_⟩
  obtain ⟨stamp, sub, rfl⟩ := hfresh.entries e he
  exact Entry.failures_of_make ht

/-- **The counts after a step.** -/
theorem Counted.change {vs : List Evaluated} (h : l.Counted p vs) (hl : l.Stamped)
    (hc : l.Change st l') : l'.Counted p (vs ++ l.ends st) := by
  have hlt : ∀ v ∈ vs ++ l.ends st, v.stamp < l.scheduler.nextStamp := by
    intro v hv
    rcases List.mem_append.1 hv with hv | hv
    · exact h.lt_next v hv
    · exact hl.lt_next _ (mem_inFlight_of_ends hv)
  refine ⟨hc.retry.trans h.retry, fun v hv => ?_, fun e he t ht => ?_⟩
  · exact Nat.lt_of_lt_of_le (hlt v hv) (hc.scheduler hl.scheduler).2
  · rcases hc.mem_entries he with ⟨caller, sub, -, rfl⟩ | ⟨e₀, he₀, rfl⟩
    · -- no evaluation of a new entry has ended
      have hnone : resultsOf l.scheduler.nextStamp (vs ++ l.ends st) = [] :=
        resultsOf_eq_nil fun v hv => Nat.ne_of_lt (hlt v hv)
      rw [Entry.failures_of_make ht]
      exact (congrArg p.failuresInRow hnone).symm
    · have hfits : e₀.Fits p := h.retry ▸ hl.scheduler.fits e₀ he₀
      obtain ⟨t₀, ht₀, hcount⟩ := Entry.failures_after hfits l st ht fun t₀ ht₀ L hlimit => by
        rw [h.failures e₀ he₀ t₀ ht₀]
        exact RetryPolicy.failuresInRow_le hlimit _
      rw [hcount, h.failures e₀ he₀ t₀ ht₀, Entry.stamp_after, resultsOf_append,
        RetryPolicy.failuresInRow, RetryPolicy.failuresInRow, List.foldl_append]

/-- **The count of an entry is that of its failures in a row.** -/
theorem counted_run (settings : SchedulerSettings) (subs : List Subscription)
    (sts : List LoopStep) : ((start settings subs).run sts).Counted settings.retry
      ((start settings subs).reported sts) := by
  induction sts using List.reverseRecOn with
  | nil => exact counted_start settings subs
  | append_singleton sts st ih =>
    rw [run_concat, reported, trace_concat]
    rcases ((start settings subs).run sts).none_or_change st with hnone | hc
    · rw [next_of_none hnone, ends_of_none hnone, List.append_nil]
      exact ih
    · exact ih.change ((stamped_start settings subs).run sts) hc

/-! ### What follows the end of an evaluation -/

/-- The evaluation of an entry does not begin before a time, and until it begins the entry does not
change. -/
def WaitsUntil (l : Loop) (e : Entry) (next : Instant) : Prop :=
  ∀ later, (∀ b ∈ l.begun later, b.2.stamp ≠ e.stamp) →
    (∀ e' ∈ (l.run later).scheduler.entries, e'.stamp = e.stamp → e' = e) ∧
    ∀ st, ∀ b ∈ (l.run later).begins st, b.2.stamp = e.stamp → next.notAfter b.1 = true

/-- The evaluation of an entry does not begin before a capture, and until then the entry does not
change; the capture makes it due at once with no failures counted. -/
def WaitsForCapture (p : RetryPolicy) (l : Loop) (e : Entry) : Prop :=
  ∀ later, (∀ caller, .command caller .captured ∉ later) →
    (∀ b ∈ l.begun later, b.2.stamp ≠ e.stamp) ∧
    ∀ e' ∈ (l.run later).scheduler.entries, e'.stamp = e.stamp → e' = e ∧
      ∀ caller, (l.run later).phase = .accepting →
        { e with trigger := some (.start p) } ∈
          ((l.run later).next (.command caller .captured)).1.scheduler.entries

/-- What is to follow from the end of an evaluation of an entry with some failures in a row: a
success clears the count and the wait, a failure that finds the retries spent gives up, and any
other waits for its next attempt. -/
def Follows (p : RetryPolicy) (l : Loop) (e : Entry) (due : Bool) (k : Nat) (now : Instant) :
    Except RunFailure Outcome → Prop
  | .ok _ => { e with trigger := some ⟨due, none, .start p⟩ } ∈ l.scheduler.entries
  | .error _ =>
    if p.limit = some k then
      { e with trigger := some ⟨false, none, .start p⟩ } ∈ l.scheduler.entries ∧
        l.WaitsForCapture p { e with trigger := some ⟨false, none, .start p⟩ }
    else
      ∃ next, (⟨p, k⟩ : Backoff).recordFailure now = (⟨p, k + 1⟩, some next) ∧
        { e with trigger := some ⟨true, some next, ⟨p, k + 1⟩⟩ } ∈ l.scheduler.entries ∧
        l.WaitsUntil { e with trigger := some ⟨true, some next, ⟨p, k + 1⟩⟩ } next

theorem waitsUntil (hl : l.Stamped) {e : Entry} (he : e ∈ l.scheduler.entries)
    (hflight : e.stamp ∉ l.inFlight) {next : Instant} {b : Backoff}
    (ht : e.trigger = some ⟨true, some next, b⟩) : l.WaitsUntil e next := by
  intro later hquiet
  have hrest : (l.run later).Rests e :=
    (hl.rests he hflight).run hl (fun _ _ => Entry.markDue_of_due ht rfl) hquiet
  refine ⟨hrest.eq, fun st d hd hstamp => ?_⟩
  have hfires := (hrest.fires hd hstamp).2
  rw [Entry.fires_of_trigger (hl.scheduler.fits e he) ht] at hfires
  exact (Bool.and_eq_true_iff.1 hfires).2

theorem waitsForCapture (hl : l.Stamped) {e : Entry} (he : e ∈ l.scheduler.entries)
    (hflight : e.stamp ∉ l.inFlight) (ht : e.trigger = some ⟨false, none, .start p⟩) :
    l.WaitsForCapture p e := by
  intro later hcaptured
  have hmark : ∀ caller, .command caller .captured ∈ later → e.markDue = e :=
    fun caller hmem => absurd hmem (hcaptured caller)
  have hquiet := (hl.rests he hflight).not_begun hl hmark fun now _ => by
    rw [Entry.fires_of_trigger (hl.scheduler.fits e he) ht, Bool.false_and, Bool.and_false]
  have hrest : (l.run later).Rests e := (hl.rests he hflight).run hl hmark hquiet
  refine ⟨hquiet, fun e' he' hstamp => ?_⟩
  obtain rfl := hrest.eq e' he' hstamp
  refine ⟨rfl, fun caller hphase => ?_⟩
  have hnext : ((l.run later).next (.command caller .captured)).1.scheduler =
      (l.run later).scheduler.markDue := by
    rw [next, step, if_pos hphase]
    rfl
  rw [hnext]
  refine List.mem_map.2 ⟨e', he', ?_⟩
  rw [Entry.markDue, ht]
  rfl

/-- What follows when the end of an evaluation is put into its entry. -/
theorem follows (hl : l.Stamped) {e : Entry} {t : TriggerState} {k : Nat} {now : Instant}
    {r : Except RunFailure Outcome} (ht : e.trigger = some t) (hcount : t.backoff = ⟨p, k⟩)
    (hle : ∀ L, p.limit = some L → k ≤ L) (he : e.settle now r ∈ l.scheduler.entries)
    (hflight : e.stamp ∉ l.inFlight) : l.Follows p e t.due k now r := by
  have hsettle : e.settle now r = { e with trigger := some (t.settle now r) } := by
    rw [Entry.settle, ht]
    rfl
  rw [hsettle] at he
  cases r with
  | ok o =>
    have hok : t.settle now (.ok o) = ⟨t.due, none, .start p⟩ := by
      rw [TriggerState.settle, TriggerState.succeed, hcount]
      rfl
    rwa [hok] at he
  | error f =>
    rw [Follows]
    split
    · next hlimit =>
      have hspent : t.settle now (.error f) = ⟨false, none, .start p⟩ := by
        rw [TriggerState.settle, TriggerState.fail, hcount,
          Backoff.recordFailure_of_spent hlimit (Nat.le_refl k)]
        rfl
      rw [hspent] at he
      exact ⟨he, waitsForCapture hl he hflight rfl⟩
    · next hlimit =>
      have hnext := Backoff.recordFailure_of_left (RetryPolicy.lt_limit hle hlimit) now
      have hretry : t.settle now (.error f) =
          ⟨true, some (now.addMillis (p.wait k)), ⟨p, k + 1⟩⟩ := by
        rw [TriggerState.settle, TriggerState.fail, hcount, hnext]
      rw [hretry] at he
      exact ⟨_, hnext, he, waitsUntil hl he hflight rfl⟩

/-- **The pace of retries**, in every run and for every entry after captures.

* Its count is that of its failures in a row, which never passes the limit.
* When the evaluations of a tick have ended and a next attempt would lie beyond the calendar, the
  report breaks the loop, which then stands still.
* Otherwise what is to follow from the end of its evaluation does: after a success no failure is
  counted and nothing is waited for; after failure `k + 1` in a row, it gives up exactly if `k` is
  the limit, until the next capture, and else it is due and waits for its next attempt. -/
theorem failures_paced (settings : SchedulerSettings) (subs : List Subscription)
    (before : List LoopStep) :
    let l := (start settings subs).run before
    ∀ e ∈ l.scheduler.entries, ∀ t, e.trigger = some t →
      let k := settings.retry.failuresInRow
        (resultsOf e.stamp ((start settings subs).reported before))
      t.backoff = ⟨settings.retry, k⟩ ∧
      (∀ L, settings.retry.limit = some L → k ≤ L) ∧
      ∀ tick now, l.tick = some tick → tick.isOver = true →
        (l.scheduler.overruns now tick.ended = true →
          (l.next (.report now)).1.phase = .broken ∧
            ∀ later, (l.next (.report now)).1.run later = (l.next (.report now)).1) ∧
        (l.scheduler.overruns now tick.ended = false →
          ∀ v ∈ tick.ended, v.stamp = e.stamp → ∀ r, v.result = some r →
            (l.next (.report now)).1.Follows settings.retry e t.due k now r) := by
  intro l e he t ht k
  have hl : l.Stamped := (stamped_start settings subs).run before
  have hcounted := counted_run settings subs before
  have hle : ∀ L, settings.retry.limit = some L → k ≤ L :=
    fun L hlimit => RetryPolicy.failuresInRow_le hlimit _
  have hcount : t.backoff = ⟨settings.retry, k⟩ := by
    have hpolicy : t.backoff.policy = settings.retry :=
      ((hl.scheduler.fits e he).policy t ht).trans hcounted.retry
    have hfailures : t.backoff.failures = k := hcounted.failures e he t ht
    rw [← hpolicy, ← hfailures]
  refine ⟨hcount, hle, fun tick now htick hover => ⟨fun hoverrun => ?_, fun hoverrun => ?_⟩⟩
  · have hnext : (l.next (.report now)).1 =
        { l with tick := none, waiting := [], phase := .broken } := by
      simp [next, step, report, htick, hover, hoverrun]
    rw [hnext]
    exact ⟨rfl, fun later => run_of_still rfl (by simp) later⟩
  · intro v hv hstamp r hr
    have hc : l.Change (.report now) (l.next (.report now)).1 := by
      rcases l.none_or_change (.report now) with hnone | hc
      · have hends := ends_of_none hnone
        rw [ends_of_report htick hover hoverrun] at hends
        exact absurd hv (by simp [hends])
      · exact hc
    have hentries : (l.next (.report now)).1.scheduler.entries =
        l.scheduler.entries.map (Entry.after l (.report now)) := by
      rcases hc.entries with ⟨_, _, h, -⟩ | ⟨_, _, h, -⟩ | h
      · exact absurd h (by simp)
      · exact absurd h (by simp)
      · exact h
    have hafter : e.after l (.report now) = e.settle now r := by
      rw [Entry.after, ends_of_report htick hover hoverrun,
        Entry.settleAll_of_mem (hl.ended_nodup htick) hv hstamp]
      simp [Entry.settleOne, hr, hstamp]
    have hmem : e.settle now r ∈ (l.next (.report now)).1.scheduler.entries := by
      rw [hentries]
      exact List.mem_map.2 ⟨e, he, hafter⟩
    have hidle : (l.next (.report now)).1.inFlight = [] := by
      rcases hc.inFlight with ⟨-, hno⟩ | hnil | ⟨_, h, -⟩
      · exact absurd rfl (hno now)
      · exact hnil
      · exact absurd h (by simp)
    exact follows (hl.change hc) ht hcount hle hmem (by simp [hidle])

/-- Settings with the given retry policy. -/
def pacingSettings (p : RetryPolicy) : SchedulerSettings := ⟨1000, 1, 1, p⟩

/-- One retry, after a second. -/
def shortPolicy : RetryPolicy := ⟨1000, 4000, some 1⟩

/-- Retries without a limit, after more milliseconds than the calendar has. -/
def distantPolicy : RetryPolicy := ⟨10000000000000000, 10000000000000000, none⟩

/-- The evaluation of an entry runs and fails. -/
def failedSteps : List LoopStep :=
  [.tick .epoch, .start 0, .finish 0 (.error (.delivery 503))]

/-- Then it is reported, and fails again a second later. -/
def failedTwiceSteps : List LoopStep :=
  failedSteps ++ [.report .epoch, .tick ⟨1, 0⟩, .start 0, .finish 0 (.error (.delivery 503))]

/-- The entry while its evaluation runs, after some failures. -/
def pacedEntry (p : RetryPolicy) (lastFired : Int) (k : Nat) : Entry where
  stamp := 0
  subscription := promptSubscription
  lastFired := some lastFired
  trigger := some ⟨false, (if k = 0 then none else some ⟨1, 0⟩), ⟨p, k⟩⟩

/-- The tick when the evaluation has failed. -/
def failedTick : Tick :=
  ⟨[], [], [⟨0, "s1", some (.error (.delivery 503))⟩]⟩

/-- With one retry the first failure waits for a second and the second one gives up; a retry beyond
the calendar breaks the loop. -/
theorem failures_paced_short :
    ((start (pacingSettings shortPolicy) [promptSubscription]).run
        (failedSteps ++ [.report .epoch])).Follows shortPolicy (pacedEntry shortPolicy 0 0) false 0
      .epoch (.error (.delivery 503)) ∧
    ((start (pacingSettings shortPolicy) [promptSubscription]).run
        (failedTwiceSteps ++ [.report ⟨1, 0⟩])).Follows shortPolicy (pacedEntry shortPolicy 1 1)
      false 1 ⟨1, 0⟩ (.error (.delivery 503)) ∧
    ((start (pacingSettings distantPolicy) [promptSubscription]).run
      (failedSteps ++ [.report .epoch])).phase = .broken := by
  obtain ⟨-, -, honce⟩ := failures_paced (pacingSettings shortPolicy) [promptSubscription]
    failedSteps (pacedEntry shortPolicy 0 0) (by decide) _ rfl
  obtain ⟨-, -, htwice⟩ := failures_paced (pacingSettings shortPolicy) [promptSubscription]
    failedTwiceSteps (pacedEntry shortPolicy 1 1) (by decide) _ rfl
  obtain ⟨-, -, hbroken⟩ := failures_paced (pacingSettings distantPolicy)
    [promptSubscription] failedSteps (pacedEntry distantPolicy 0 0) (by decide) _ rfl
  have hended : (⟨0, "s1", some (.error (.delivery 503))⟩ : Evaluated) ∈ failedTick.ended :=
    List.mem_singleton.2 rfl
  refine ⟨?_, ?_, ?_⟩
  · exact (honce failedTick .epoch rfl rfl).2 (by decide) _ hended rfl _ rfl
  · exact (htwice failedTick ⟨1, 0⟩ rfl rfl).2 (by decide) _ hended rfl _ rfl
  · exact ((hbroken failedTick .epoch rfl rfl).1 (by decide)).1

end Loop

end Provenance
