import Mathlib.Data.List.Count
import Mathlib.Data.List.Induction
import Mathlib.Data.List.Perm.Subperm
import Provenance.Proofs.Scheduler.Removal

/-!
# When entries fire

A tick begins only when no other is in flight, and what is then evaluated are different
subscriptions, since no two entries have the same name.  No other step adds an evaluation to those
that wait or run.  So no two evaluations of the same subscription ever run at the same time, even if
one of them is of an entry that was replaced; all that wait or run were begun by the last tick that
began; and none gets a place more often than it was begun.

An entry on a schedule remembers the second in which it fired last.  As long as the clock does not
go back from one tick to the next, each evaluation of it is begun in a later second than the one
before.  An entry after captures that is due stays so until a tick reads the clock at the time of
its next attempt or later, and that tick begins its evaluation.

## Main definitions

* `InTurn` — an evaluation on a schedule is begun in a later second than another of its entry.
* `Loop.Distinct` — no two entries have the same name, and no two evaluations that wait or run.
* `Loop.Fired` — how what was begun fits the seconds that the entries remember.

## Main results

* `Loop.Change.evaluating`, `Loop.evaluating_next` — what waits or runs after a step.
* `Loop.distinct_run` — no two evaluations that wait or run are of the same name.
* `Loop.count_started_le` — what gets a place was begun, as often.
* `Loop.fires_in_turn` — **schedules fire at most once in a second, and evaluations never overlap.**
-/

namespace Provenance

theorem Instant.second_le_of_notAfter {s t : Instant} (h : s.notAfter t = true) :
    s.second ≤ t.second := by
  simp only [notAfter, Bool.or_eq_true, Bool.and_eq_true, decide_eq_true_eq, beq_iff_eq] at h
  omega

/-- If two evaluations are of the same entry, and it is on a schedule, the second one is begun in a
later second. -/
def InTurn (p q : Instant × Due) : Prop :=
  p.2.stamp = q.2.stamp → q.2.subscription.trigger.onCapture = false → p.1.second < q.1.second

instance (p q : Instant × Due) : Decidable (InTurn p q) := by
  unfold InTurn
  infer_instance

namespace Loop

variable {l l' : Loop} {st : LoopStep}

/-! ### What waits and what runs -/

theorem perm_of_takeDue {n : Nat} {ds rest : List Due} {d : Due}
    (h : takeDue n ds = some (d, rest)) : ds.Perm (d :: rest) := by
  induction ds generalizing rest with
  | nil => exact absurd h (by simp [takeDue])
  | cons e ds ih =>
    rw [takeDue] at h
    split at h
    · obtain ⟨rfl, rfl⟩ := Prod.mk.inj (Option.some.inj h)
      exact .refl _
    · obtain ⟨⟨found, others⟩, hfound, h⟩ := Option.map_eq_some_iff.1 h
      obtain ⟨rfl, rfl⟩ := Prod.mk.inj h
      exact ((ih hfound).cons e).trans (.swap _ _ _)

/-- After a step fewer evaluations wait or run, or as many, unless the step is a tick that
begins. -/
theorem Change.evaluating (h : l.Change st l') :
    l'.evaluating.Subperm l.evaluating ∨
      ∃ now ∈ l.opens st, l'.evaluating = l.scheduler.due now := by
  cases h with
  | command h caller c =>
    rw [Loop.evaluating, tick_command]
    exact .inl (List.Subperm.refl _)
  | tick h now =>
    cases htick : l.tick with
    | none =>
      exact .inr ⟨now, by simp [opens_of_idle h htick], (startTick_eq htick now).1⟩
    | some t =>
      rw [startTick_of_isSome (by rw [htick]; rfl)]
      exact .inl (List.Subperm.refl _)
  | @start t n d queued ht hd hroom hlive =>
    -- it moves from those that wait to those that run
    have hperm : (queued ++ (t.running ++ [d])).Perm (t.queued ++ t.running) := by
      refine .trans ?_ ((perm_of_takeDue hd).symm.append_right t.running)
      rw [← List.append_assoc]
      exact List.perm_append_singleton d _
    simp only [Loop.evaluating, ht, Option.map_some, Option.getD_some]
    exact .inl hperm.subperm
  | @skip t n d queued ht hd hroom hlive =>
    have hsub : (queued ++ t.running).Subperm (t.queued ++ t.running) :=
      ((List.sublist_cons_self d _).subperm.trans
        ((perm_of_takeDue hd).symm.append_right t.running).subperm)
    simp only [Loop.evaluating, ht, Option.map_some, Option.getD_some]
    exact .inl hsub
  | @finish t n d running r ht hd =>
    have hsub : (t.queued ++ running).Subperm (t.queued ++ t.running) :=
      ((List.sublist_cons_self d running).append_left t.queued).subperm.trans
        ((perm_of_takeDue hd).symm.append_left t.queued).subperm
    simp only [Loop.evaluating, ht, Option.map_some, Option.getD_some]
    exact .inl hsub
  | overrun => exact .inl List.nil_subperm
  | report => exact .inl List.nil_subperm

/-- **What waits or runs after a step** did so before, or is begun by the step. -/
theorem evaluating_next (l : Loop) (st : LoopStep) :
    (l.next st).1.evaluating.Subperm (l.evaluating ++ (l.begins st).map Prod.snd) := by
  rcases l.none_or_change st with hnone | hc
  · rw [next_of_none hnone]
    exact (List.sublist_append_left _ _).subperm
  · rcases hc.evaluating with hsub | ⟨now, hnow, hdue⟩
    · exact hsub.trans (List.sublist_append_left _ _).subperm
    · obtain ⟨rfl, hphase, htick⟩ := mem_opens hnow
      rw [begins_of_idle hphase htick, List.map_map, hdue]
      show (l.scheduler.due now).Subperm (l.evaluating ++ (l.scheduler.due now).map id)
      rw [List.map_id]
      exact (List.sublist_append_right _ _).subperm

/-- In a step an evaluation gets a place at most as often as it waits less, or is begun. -/
theorem Change.count_running (h : l.Change st l') (n : Nat) :
    l'.running.count n - l.running.count n + l'.queued.count n ≤
      l.queued.count n + ((l.begins st).map fun b => b.2.stamp).count n := by
  cases h with
  | command h caller c =>
    rw [Loop.running, Loop.queued, tick_command]
    show l.running.count n - l.running.count n + l.queued.count n ≤ _
    omega
  | tick h now =>
    cases htick : l.tick with
    | none =>
      obtain ⟨-, hqueued, hrunning⟩ := startTick_eq htick now
      rw [hqueued, hrunning, begins_of_idle h htick, List.map_map]
      show 0 - l.running.count n + ((l.scheduler.due now).map Due.stamp).count n ≤
        l.queued.count n + ((l.scheduler.due now).map Due.stamp).count n
      omega
    | some t =>
      rw [startTick_of_isSome (by rw [htick]; rfl)]
      omega
  | @start t m d queued ht hd hroom hlive =>
    -- it moves from those that wait to those that run
    have hcount := count_of_takeDue hd n
    simp only [Loop.running, Loop.queued, ht, Option.map_some, Option.getD_some, List.map_append,
      List.map_cons, List.map_nil, List.count_append, stamp_of_takeDue hd]
    omega
  | @skip t m d queued ht hd hroom hlive =>
    have hcount := count_of_takeDue hd n
    simp only [Loop.running, Loop.queued, ht, Option.map_some, Option.getD_some]
    omega
  | @finish t m d running r ht hd =>
    have hcount := count_of_takeDue hd n
    simp only [Loop.running, Loop.queued, ht, Option.map_some, Option.getD_some]
    omega
  | overrun | report =>
    show 0 - l.running.count n + 0 ≤ _
    omega

/-- **An evaluation gets a place at most as often as it is begun.** -/
theorem count_started_le (settings : SchedulerSettings) (subs : List Subscription)
    (sts : List LoopStep) (n : Nat) :
    ((start settings subs).started sts).count n ≤
      (((start settings subs).begun sts).map fun b => b.2.stamp).count n := by
  -- those that still wait are counted among those that were begun, too
  have hall : ((start settings subs).started sts).count n +
      ((start settings subs).run sts).queued.count n ≤
        (((start settings subs).begun sts).map fun b => b.2.stamp).count n := by
    induction sts using List.reverseRecOn with
    | nil => exact Nat.le_refl 0
    | append_singleton sts st ih =>
      rw [run_concat, started, begun, trace_concat, trace_concat, List.map_append,
        List.count_append, List.count_append, starts, List.count_diff]
      rw [started, begun] at ih
      rcases ((start settings subs).run sts).none_or_change st with hnone | hc
      · simp only [next_of_none hnone, begins_of_none hnone, List.map_nil, List.count_nil]
        omega
      · have hstep := hc.count_running n
        omega
  omega

/-! ### Evaluations of different names -/

/-- No two entries have the same name, and no two evaluations that wait or run. -/
structure Distinct (l : Loop) : Prop where
  entries : (l.scheduler.entries.map fun e => e.subscription.name).Nodup
  evaluating : (l.evaluating.map fun d => d.subscription.name).Nodup

theorem nodup_register {s : Scheduler} (h : (s.entries.map fun e => e.subscription.name).Nodup)
    (sub : Subscription) : ((s.register sub).entries.map fun e => e.subscription.name).Nodup := by
  rw [Scheduler.register, List.map_append, List.nodup_append]
  refine ⟨h.sublist (List.filter_sublist.map _), by simp, ?_⟩
  intro name hname other hother
  obtain ⟨e, he, rfl⟩ := List.mem_map.1 hname
  obtain rfl : other = sub.name := by simpa [Entry.make] using hother
  simpa using (List.mem_filter.1 he).2

theorem Distinct.change (h : l.Distinct) (hc : l.Change st l') : l'.Distinct where
  entries := by
    rcases hc.entries with ⟨_, sub, -, hs⟩ | ⟨_, name, -, hs⟩ | hs
    · rw [hs]
      exact nodup_register h.entries sub
    · rw [hs]
      exact h.entries.sublist (List.filter_sublist.map _)
    · have hnames : l'.scheduler.entries.map (fun e => e.subscription.name) =
          l.scheduler.entries.map fun e => e.subscription.name := by
        rw [hs, List.map_map]
        exact List.map_congr_left fun e _ =>
          congrArg Subscription.name (e.subscription_after l st)
      rw [hnames]
      exact h.entries
  evaluating := by
    rcases hc.evaluating with hsub | ⟨now, -, hdue⟩
    · obtain ⟨ds, hperm, hsub⟩ := hsub
      exact (hperm.map _).nodup_iff.1 (h.evaluating.sublist (hsub.map _))
    · rw [hdue, Scheduler.due, List.map_map]
      exact h.entries.sublist (List.filter_sublist.map _)

theorem distinct_start (settings : SchedulerSettings) (subs : List Subscription) :
    (start settings subs).Distinct where
  entries := List.foldlRecOn subs Scheduler.register
    (motive := fun s => (s.entries.map fun e => e.subscription.name).Nodup) List.nodup_nil
    fun _ hs sub _ => nodup_register hs sub
  evaluating := .nil

/-- **No two evaluations that wait or run are of the same name.** -/
theorem distinct_run (settings : SchedulerSettings) (subs : List Subscription)
    (sts : List LoopStep) : ((start settings subs).run sts).Distinct :=
  run_induction (fun _ _ _ hl hc => hl.change hc) (distinct_start settings subs) sts

/-- **What waits or runs was begun by the last tick that began.** -/
theorem exists_begun (htick : l.tick = none) (sts : List LoopStep) {d : Due}
    (hd : d ∈ (l.run sts).evaluating) :
    ∃ now, (l.readings sts).getLast? = some now ∧ (now, d) ∈ l.begun sts := by
  induction sts using List.reverseRecOn generalizing d with
  | nil => simp [run, evaluating, htick] at hd
  | append_singleton sts st ih =>
    rw [run_concat] at hd
    rw [readings, begun, trace_concat, trace_concat]
    by_cases hopens : ∃ now, now ∈ (l.run sts).opens st
    · -- a tick begins: whatever waits after it is begun by it
      obtain ⟨now, hnow⟩ := hopens
      obtain ⟨rfl, hphase, hidle⟩ := mem_opens hnow
      rw [next_tick hphase, (startTick_eq hidle now).1] at hd
      rw [opens_of_idle hphase hidle]
      exact ⟨now, List.getLast?_concat, List.mem_append_right _ (mem_begins.2 ⟨hnow, hd⟩)⟩
    · have hnone : (l.run sts).opens st = [] :=
        List.eq_nil_iff_forall_not_mem.2 fun now hnow => hopens ⟨now, hnow⟩
      have hbegins : (l.run sts).begins st = [] := by
        rw [begins, hnone, List.flatMap_nil]
      have hold : d ∈ (l.run sts).evaluating := by
        have hmem := ((l.run sts).evaluating_next st).subset hd
        rwa [hbegins, List.map_nil, List.append_nil] at hmem
      rw [hnone, hbegins, List.append_nil, List.append_nil]
      exact ih hold

/-- What is begun is of an active subscription, and of one that is due if it is on a schedule. -/
theorem wanted_of_begun {sts : List LoopStep} {p : Instant × Due} (hp : p ∈ l.begun sts) :
    p.2.subscription.active = true ∧
      ∀ s, p.2.subscription.trigger = .schedule s → s.covers p.1 = true := by
  obtain ⟨before, st, hp⟩ := exists_of_mem_trace hp
  obtain ⟨-, e, he, hfires, hd⟩ := exists_of_mem_begins hp
  rw [hd]
  rw [Entry.fires, Bool.and_eq_true] at hfires
  refine ⟨hfires.1, fun s hs => ?_⟩
  have hcovers := hfires.2
  simp only at hs
  rw [hs] at hcovers
  exact (Bool.and_eq_true_iff.1 hcovers).1

/-! ### Seconds -/

/-- What a step makes of the second in which an entry fired last. -/
theorem Change.lastFired (hc : l.Change st l') (e : Entry) :
    ((e.after l st).lastFired = e.lastFired ∧ ∀ now ∈ l.opens st, e.fires now = false) ∨
      ∃ now ∈ l.opens st, e.fires now = true ∧ (e.after l st).lastFired = some now.second := by
  cases hc with
  | tick hphase now =>
    cases htick : l.tick with
    | none =>
      rw [opens_of_idle hphase htick]
      cases hfires : e.fires now with
      | true => exact .inr ⟨now, List.mem_singleton.2 rfl, hfires, by
          simp [Entry.after, htick, hfires, Entry.fired]⟩
      | false => exact .inl ⟨by simp [Entry.after, hfires], by simp [hfires]⟩
    | some t => exact .inl ⟨by simp [Entry.after, htick], by simp [opens, htick]⟩
  | command hphase caller c =>
    refine .inl ⟨?_, fun now hnow => absurd hnow List.not_mem_nil⟩
    cases c <;> rfl
  | overrun | report =>
    exact .inl ⟨Entry.lastFired_settleAll _ _ e, fun now hnow => absurd hnow List.not_mem_nil⟩
  | start | skip | finish => exact .inl ⟨rfl, fun now hnow => absurd hnow List.not_mem_nil⟩

/-- How what was begun up to now and the readings of the clock fit the entries: an entry remembers
the last second in which it fired, which is that of a reading. -/
structure Fired (l : Loop) (rs : List Instant) (ps : List (Instant × Due)) : Prop where
  lt_next : ∀ p ∈ ps, p.2.stamp < l.scheduler.nextStamp
  lastFired : ∀ p ∈ ps, ∀ e ∈ l.scheduler.entries, e.stamp = p.2.stamp →
    ∃ s, e.lastFired = some s ∧ p.1.second ≤ s
  reading : ∀ e ∈ l.scheduler.entries, ∀ s, e.lastFired = some s → ∃ r ∈ rs, r.second = s
  inTurn : ps.Pairwise InTurn

theorem fired_start (settings : SchedulerSettings) (subs : List Subscription) :
    (start settings subs).Fired [] [] := by
  refine ⟨by simp, by simp, fun e he s hs => ?_, .nil⟩
  obtain ⟨stamp, sub, rfl⟩ := (Scheduler.fresh_ofSubscriptions settings subs).entries e he
  exact absurd hs (by simp [Entry.make])

/-- What one tick begins are evaluations of different entries. -/
theorem Stamped.begins_inTurn (hl : l.Stamped) (st : LoopStep) :
    (l.begins st).Pairwise InTurn := by
  have hdue (now : Instant) : ((l.scheduler.due now).map fun d => (now, d)).Pairwise InTurn := by
    have hstamps : ((l.scheduler.due now).map Due.stamp).Nodup := by
      rw [Scheduler.due, List.map_map]
      exact hl.scheduler.nodup.sublist (List.filter_sublist.map _)
    refine List.pairwise_map.2 ((List.pairwise_map.1 hstamps).imp ?_)
    intro d d' hne hsame
    exact absurd hsame hne
  rw [begins_eq]
  cases st with
  | tick now =>
    rw [opens]
    split
    · simpa using hdue now
    · exact .nil
  | _ => exact .nil

/-- A schedule fires again only in a later second. -/
theorem Fired.second_lt {rs : List Instant} {ps : List (Instant × Due)} (h : l.Fired rs ps)
    {now : Instant} (hclock : ∀ r ∈ rs, r.notAfter now = true) {e : Entry}
    (he : e ∈ l.scheduler.entries) (hfires : e.fires now = true)
    (hkind : e.subscription.trigger.onCapture = false) {p : Instant × Due} (hp : p ∈ ps)
    (hstamp : e.stamp = p.2.stamp) : p.1.second < now.second := by
  obtain ⟨s, hs, hle⟩ := h.lastFired p hp e he hstamp
  obtain ⟨r, hr, rfl⟩ := h.reading e he s hs
  have hpast : r.second ≤ now.second := Instant.second_le_of_notAfter (hclock r hr)
  have hne : r.second ≠ now.second := by
    intro hsame
    cases htrigger : e.subscription.trigger with
    | schedule cron => simp [Entry.fires, htrigger, hs, hsame] at hfires
    | capture uri => simp [htrigger, Trigger.onCapture] at hkind
  omega

section Step

variable {rs : List Instant} {ps : List (Instant × Due)}

/-- What was begun has a stamp that was given before the step. -/
theorem Fired.stamp_lt (h : l.Fired rs ps) (hl : l.Stamped) :
    ∀ p ∈ ps ++ l.begins st, p.2.stamp < l.scheduler.nextStamp := by
  intro p hp
  rcases List.mem_append.1 hp with hp | hp
  · exact h.lt_next p hp
  · obtain ⟨-, e, he, -, hd⟩ := exists_of_mem_begins hp
    rw [hd]
    exact hl.scheduler.lt_next e he

/-- An entry remembers a second that is not before that of any of its evaluations. -/
theorem Fired.lastFired_change (h : l.Fired rs ps) (hl : l.Stamped) (hc : l.Change st l')
    (hclock : ∀ r ∈ rs, ∀ now ∈ l.opens st, r.notAfter now = true) {p : Instant × Due}
    (hp : p ∈ ps ++ l.begins st) {e : Entry} (he : e ∈ l'.scheduler.entries)
    (hstamp : e.stamp = p.2.stamp) : ∃ s, e.lastFired = some s ∧ p.1.second ≤ s := by
  rcases hc.mem_entries he with ⟨caller, sub, -, rfl⟩ | ⟨e₀, he₀, rfl⟩
  · -- a new entry has a stamp that nothing begun has
    exact absurd hstamp (Nat.ne_of_gt (h.stamp_lt hl p hp))
  rw [Entry.stamp_after] at hstamp
  rcases hc.lastFired e₀ with ⟨hkept, hquiet⟩ | ⟨now, hnow, hfires, hnew⟩
  · -- the entry does not fire, so it is not what the step begins
    rw [hkept]
    rcases List.mem_append.1 hp with hp | hp
    · exact h.lastFired p hp e₀ he₀ hstamp
    · obtain ⟨hopen, e, he, hfires, hd⟩ := exists_of_mem_begins hp
      rw [hd] at hstamp
      obtain rfl := hl.scheduler.eq_of_stamp he₀ he hstamp
      rw [hquiet p.1 hopen] at hfires
      exact absurd hfires (by decide)
  · -- the entry fires now, and the clock has not gone back since it fired last
    refine ⟨now.second, hnew, ?_⟩
    rcases List.mem_append.1 hp with hp | hp
    · obtain ⟨s, hs, hle⟩ := h.lastFired p hp e₀ he₀ hstamp
      obtain ⟨r, hr, rfl⟩ := h.reading e₀ he₀ s hs
      exact Int.le_trans hle (Instant.second_le_of_notAfter (hclock r hr now hnow))
    · have hsame : p.1 = now := by
        have hfirst := (mem_opens (exists_of_mem_begins hp).1).1
        rw [(mem_opens hnow).1] at hfirst
        exact (LoopStep.tick.inj hfirst).symm
      exact Int.le_of_eq (congrArg Instant.second hsame)

/-- The second that an entry remembers is that of a reading of the clock. -/
theorem Fired.reading_change (h : l.Fired rs ps) (hc : l.Change st l') {e : Entry}
    (he : e ∈ l'.scheduler.entries) {s : Int} (hs : e.lastFired = some s) :
    ∃ r ∈ rs ++ l.opens st, r.second = s := by
  rcases hc.mem_entries he with ⟨caller, sub, -, rfl⟩ | ⟨e₀, he₀, rfl⟩
  · exact absurd hs (by simp [Entry.make])
  rcases hc.lastFired e₀ with ⟨hkept, -⟩ | ⟨now, hnow, -, hnew⟩
  · obtain ⟨r, hr, hsecond⟩ := h.reading e₀ he₀ s (hkept ▸ hs)
    exact ⟨r, List.mem_append_left _ hr, hsecond⟩
  · rw [hnew] at hs
    exact ⟨now, List.mem_append_right _ hnow, Option.some.inj hs⟩

/-- **A step keeps the seconds in order** as long as the clock does not go back. -/
theorem Fired.change (h : l.Fired rs ps) (hl : l.Stamped) (hc : l.Change st l')
    (hclock : ∀ r ∈ rs, ∀ now ∈ l.opens st, r.notAfter now = true) :
    l'.Fired (rs ++ l.opens st) (ps ++ l.begins st) where
  lt_next := by
    intro p hp
    exact Nat.lt_of_lt_of_le (h.stamp_lt hl p hp) (hc.scheduler hl.scheduler).2
  lastFired := by
    intro p hp e he hstamp
    exact h.lastFired_change hl hc hclock hp he hstamp
  reading := by
    intro e he s hs
    exact h.reading_change hc he hs
  inTurn := by
    refine List.pairwise_append.2 ⟨h.inTurn, hl.begins_inTurn st, ?_⟩
    intro p hp q hq hstamp hkind
    obtain ⟨hnow, e, he, hfires, hd⟩ := exists_of_mem_begins hq
    rw [hd] at hstamp hkind
    exact h.second_lt (fun r hr => hclock r hr q.1 hnow) he hfires hkind hp hstamp.symm

end Step

theorem fired_run (settings : SchedulerSettings) (subs : List Subscription) {sts : List LoopStep}
    (hclock : ((start settings subs).readings sts).Pairwise fun r s => r.notAfter s = true) :
    ((start settings subs).run sts).Fired ((start settings subs).readings sts)
      ((start settings subs).begun sts) := by
  induction sts using List.reverseRecOn with
  | nil => exact fired_start settings subs
  | append_singleton sts st ih =>
    rw [readings, trace_concat] at hclock
    obtain ⟨hbefore, -, hacross⟩ := List.pairwise_append.1 hclock
    have hfired := ih hbefore
    have hl : ((start settings subs).run sts).Stamped := (stamped_start settings subs).run sts
    rw [run_concat, readings, begun, trace_concat, trace_concat]
    rcases ((start settings subs).run sts).none_or_change st with hnone | hc
    · rw [next_of_none hnone, begins_of_none hnone, opens_of_none hnone, List.append_nil,
        List.append_nil]
      exact hfired
    · exact hfired.change hl hc hacross

/-! ### Turns -/

/-- **A due entry fires at its first turn**: the first tick that begins when no retry has to be
waited for. -/
theorem Stamped.fires_at_first (hl : l.Stamped) {e : Entry} (he : e ∈ l.scheduler.entries)
    (hactive : e.subscription.active = true) {t : TriggerState} (ht : e.trigger = some t)
    (hdue : t.due = true) (hflight : e.stamp ∉ l.inFlight) {later : List LoopStep}
    (hlater : ∀ r ∈ l.readings later, t.isReady r = false) :
    (∀ p ∈ l.begun later, p.2.stamp ≠ e.stamp) ∧
      ∀ now, t.isReady now = true → (l.run later).phase = .accepting →
        (l.run later).tick = none → (l.run later).scheduler.isLive e.stamp = true →
        ⟨e.stamp, e.subscription⟩ ∈ ((l.run later).next (.tick now)).1.evaluating := by
  have hfires := Entry.fires_of_trigger (hl.scheduler.fits e he) ht
  have hmark : ∀ caller, .command caller .captured ∈ later → e.markDue = e :=
    fun _ _ => Entry.markDue_of_due ht hdue
  have hquiet := (hl.rests he hflight).not_begun hl hmark fun r hr => by
    rw [hfires, hlater r hr, Bool.and_false, Bool.and_false]
  have hrest := (hl.rests he hflight).run hl hmark hquiet
  refine ⟨hquiet, fun now hready hphase htick hlive => ?_⟩
  obtain ⟨e', he', hstamp⟩ := List.any_eq_true.1 hlive
  obtain rfl := hrest.eq e' he' (beq_iff_eq.1 hstamp)
  have hnow : e'.fires now = true := by
    rw [hfires, hactive, hdue, hready]
    rfl
  rw [next_tick hphase, (startTick_eq htick now).1]
  exact List.mem_map.2 ⟨e', List.mem_filter.2 ⟨he', hnow⟩, rfl⟩

/-- **Schedules fire at most once in a second, and evaluations never overlap**, in every run in
which the clock does not go back from one tick that begins to the next.  What is begun is what waits
in the tick that a step leaves.

* A tick that comes while another is in flight does nothing, and after any step only evaluations
  wait or run that did so before, or that a tick has begun in the step.
* What waits or runs are evaluations of different names, each begun by the last tick that began.
  None gets a place more often than it was begun; and one that waits gets a place when its turn
  comes, if its entry is still registered.
* What was begun is of an active subscription, and, if it is on a schedule, in a second that the
  schedule covers; and of each entry on a schedule in a later second than all before.
* A due entry after captures of which nothing is in flight is not begun before its next attempt,
  and it waits in the first tick that begins then, if it is still registered. -/
theorem fires_in_turn (settings : SchedulerSettings) (subs : List Subscription)
    (sts : List LoopStep)
    (hclock : ((start settings subs).readings sts).Pairwise fun r s => r.notAfter s = true) :
    let l := (start settings subs).run sts
    let begun := (start settings subs).begun sts
    ((l.tick.isSome = true → ∀ now, (l.next (.tick now)).1 = l) ∧
      ∀ st, (l.next st).1.evaluating.Subperm (l.evaluating ++ (l.begins st).map Prod.snd)) ∧
    ((l.evaluating.map fun d => d.subscription.name).Nodup ∧
      (∀ d ∈ l.evaluating, ∃ now, ((start settings subs).readings sts).getLast? = some now ∧
        (now, d) ∈ begun) ∧
      (∀ n, ((start settings subs).started sts).count n ≤
        (begun.map fun b => b.2.stamp).count n) ∧
      ∀ t, l.tick = some t → t.running.length < l.scheduler.maxConcurrency →
        ∀ d ∈ t.queued, l.scheduler.isLive d.stamp = true →
          ∃ l', l.step (.start d.stamp) = some (l', []) ∧ d.stamp ∈ l'.running) ∧
    (∀ p ∈ begun, p.2.subscription.active = true ∧
      ∀ s, p.2.subscription.trigger = .schedule s → s.covers p.1 = true) ∧
    begun.Pairwise InTurn ∧
    ∀ e ∈ l.scheduler.entries, e.subscription.active = true →
      ∀ t, e.trigger = some t → t.due = true → e.stamp ∉ l.inFlight →
      ∀ later, (∀ r ∈ l.readings later, t.isReady r = false) →
        (∀ p ∈ l.begun later, p.2.stamp ≠ e.stamp) ∧
        ∀ now, t.isReady now = true → (l.run later).phase = .accepting →
          (l.run later).tick = none → (l.run later).scheduler.isLive e.stamp = true →
          ⟨e.stamp, e.subscription⟩ ∈ ((l.run later).next (.tick now)).1.evaluating := by
  intro l begun
  have hl : l.Stamped := (stamped_start settings subs).run sts
  refine ⟨⟨?_, l.evaluating_next⟩, ⟨(distinct_run settings subs sts).evaluating,
    fun d hd => exists_begun rfl sts hd, count_started_le settings subs sts, ?_⟩,
    fun p hp => wanted_of_begun hp, (fired_run settings subs hclock).inTurn, ?_⟩
  · intro hbusy now
    rcases l.none_or_change (.tick now) with hnone | hc
    · rw [next_of_none hnone]
    · generalize (l.next (.tick now)).1 = l' at hc
      cases hc with
      | tick => exact startTick_of_isSome hbusy now
  · intro t ht hroom d hd hlive
    exact exists_step_start ht (List.mem_map_of_mem hd) hroom hlive
  · intro e he hactive t ht hdue hflight later hlater
    exact hl.fires_at_first he hactive ht hdue hflight hlater

/-- A subscription that is due in every second. -/
def steadySubscription : Subscription :=
  { promptSubscription with
    name := "s0"
    trigger :=
      .schedule ⟨.wildcard, .wildcard, .wildcard, .wildcard, .wildcard, .wildcard⟩ }

/-- The loop at the start, with a schedule and an entry after captures. -/
def steadyLoop : Loop :=
  start strictSettings [steadySubscription, promptSubscription]

/-- The evaluation of an entry gets a place and fails. -/
def failing (stamp : Nat) : List LoopStep :=
  [.start stamp, .finish stamp (.error (.delivery 503))]

/-- Ticks in two seconds, one of them while another is in flight and one in a second in which the
schedule has fired; then a capture comes while the schedule is evaluated. -/
def turnsSteps : List LoopStep :=
  [.tick ⟨0, 0⟩, .tick ⟨0, 5⟩] ++ failing 0 ++ failing 1 ++
    [.report ⟨0, 6⟩, .tick ⟨0, 7⟩, .tick ⟨1, 0⟩, .command 0 .captured]

/-- The entry after captures after that. -/
def turnsEntry : Entry where
  stamp := 1
  subscription := promptSubscription
  lastFired := some 0
  trigger := some ⟨true, none, .start strictSettings.retry⟩

/-- The schedule fires once in each of the two seconds; the entry after captures fires at the start,
and after the capture with the next tick that begins.  The second evaluation on the schedule still
waits for a place by then. -/
theorem fires_in_turn_steady :
    (steadyLoop.readings turnsSteps).Pairwise (fun r s => r.notAfter s = true) ∧
      (steadyLoop.begun turnsSteps).map (fun p => (p.1.second, p.2.stamp)) =
        [(0, 0), (0, 1), (1, 0)] ∧
      steadyLoop.started turnsSteps = [0, 1] ∧
      (steadyLoop.begun turnsSteps).Pairwise InTurn ∧
      turnsEntry ∈ (steadyLoop.run turnsSteps).scheduler.entries ∧
      (⟨1, promptSubscription⟩ : Due) ∈ (((steadyLoop.run turnsSteps).run
        (failing 0 ++ [.report ⟨1, 3⟩])).next (.tick ⟨1, 5⟩)).1.evaluating := by
  have hclock : (steadyLoop.readings turnsSteps).Pairwise (fun r s => r.notAfter s = true) := by
    decide
  have he : turnsEntry ∈ (steadyLoop.run turnsSteps).scheduler.entries := by decide
  have hflight : turnsEntry.stamp ∉ (steadyLoop.run turnsSteps).inFlight := by decide
  have hphase : ((steadyLoop.run turnsSteps).run
      (failing 0 ++ [.report ⟨1, 3⟩])).phase = .accepting := by decide
  have hlive : ((steadyLoop.run turnsSteps).run
      (failing 0 ++ [.report ⟨1, 3⟩])).scheduler.isLive turnsEntry.stamp = true := by decide
  obtain ⟨-, -, -, hturn, hfirst⟩ := fires_in_turn strictSettings
    [steadySubscription, promptSubscription] turnsSteps hclock
  obtain ⟨-, hwaits⟩ := hfirst turnsEntry he rfl _ rfl rfl hflight
    (failing 0 ++ [.report ⟨1, 3⟩]) (by decide)
  exact ⟨hclock, by decide, by decide, hturn, he, hwaits ⟨1, 5⟩ rfl hphase rfl hlive⟩

end Loop

end Provenance
