import Provenance.Proofs.Scheduler.Steps

/-!
# What happens in a run

Beside the state that it leads to, a run has a history: when the ticks that began read the clock,
which evaluations they began, which of these got a place, and which ends of evaluations the reports
put into the entries.  All of it is read off the states before and after the steps: what a tick
begins is what waits or runs in the tick that it leaves, and what gets a place is what runs after a
step and did not run before it.  So the history cannot tell of a tick that does nothing.

A tick that comes while one is in flight reads no clock and begins nothing, and a report that breaks
the loop puts nothing into any entry.

An entry changes in few ways.  As long as no evaluation of it is in flight and it does not fire,
only a capture can change it, and only by setting the mark.  So an entry that waits for its next
attempt stays as it is until a tick reads the clock at that time or later, and an entry that was
given up stays as it is until a capture.

## Main definitions

* `Loop.start`, `Loop.next`, `Loop.run` — runs of the loop.
* `Loop.evaluating`, `Loop.queued`, `Loop.running` — the evaluations that wait for a place or run.
* `Loop.trace` — what is noted of the steps of a run.
* `Loop.opens`, `Loop.begins`, `Loop.starts`, `Loop.ends` — what there is to note of a step.
* `Loop.readings`, `Loop.begun`, `Loop.started`, `Loop.reported` — the histories of runs.
* `Entry.after` — what a step makes of an entry that stays registered.
* `Loop.Rests` — nothing of an entry is in flight, and it has not changed.

## Main results

* `Loop.begins_eq` — **a tick that begins evaluates what fires**, and nothing else.
* `Loop.Change.entries` — the entries after a step.
* `Loop.Rests.run` — **how long an entry rests.**
-/

namespace Provenance

namespace Loop

variable {l l' : Loop} {st : LoopStep} {now : Instant} {d : Due}

/-! ### Runs -/

/-- The loop on the registry with some subscriptions. -/
def start (settings : SchedulerSettings) (subs : List Subscription) : Loop :=
  .ofScheduler (.ofSubscriptions settings subs)

/-- Takes a step, if it can be taken, and tells what callers are told. -/
def next (l : Loop) (st : LoopStep) : Loop × List Reply := (l.step st).getD (l, [])

/-- Takes steps one after the other, leaving out those that cannot be taken. -/
def run : Loop → List LoopStep → Loop
  | l, [] => l
  | l, st :: sts => (l.next st).1.run sts

theorem next_of_none (h : l.step st = none) : l.next st = (l, []) := by
  rw [next, h]
  rfl

/-- A step cannot be taken, or it is taken as `Loop.next` says. -/
theorem step_eq_none_or (l : Loop) (st : LoopStep) :
    l.step st = none ∨ l.step st = some (l.next st) := by
  cases h : l.step st with
  | none => exact .inl rfl
  | some after =>
    rw [next, h]
    exact .inr rfl

theorem none_or_change (l : Loop) (st : LoopStep) :
    l.step st = none ∨ l.Change st (l.next st).1 :=
  (l.step_eq_none_or st).imp_right change_of_step

theorem next_cases (l : Loop) (st : LoopStep) :
    l.next st = (l, []) ∨ l.step st = some (l.next st) ∧ l.Change st (l.next st).1 :=
  (l.step_eq_none_or st).imp next_of_none fun h => ⟨h, change_of_step h⟩

theorem next_tick (hphase : l.phase = .accepting) (now : Instant) :
    (l.next (.tick now)).1 = l.startTick now := by
  rw [next, step, if_pos hphase]
  rfl

/-- What every change keeps holds after a run. -/
theorem run_induction {P : Loop → Prop} (hkeep : ∀ l st l', P l → l.Change st l' → P l')
    (h : P l) (sts : List LoopStep) : P (l.run sts) := by
  induction sts generalizing l with
  | nil => exact h
  | cons st sts ih =>
    refine ih ?_
    rcases l.next_cases st with hnone | ⟨-, hchange⟩
    · rw [hnone]
      exact h
    · exact hkeep l st _ h hchange

theorem run_append (l : Loop) (sts more : List LoopStep) :
    l.run (sts ++ more) = (l.run sts).run more := by
  induction sts generalizing l with
  | nil => rfl
  | cons st sts ih => exact ih _

theorem run_concat (l : Loop) (sts : List LoopStep) (st : LoopStep) :
    l.run (sts ++ [st]) = ((l.run sts).next st).1 := l.run_append sts [st]

theorem Stamped.run (h : l.Stamped) (sts : List LoopStep) : (l.run sts).Stamped :=
  run_induction (fun _ _ _ hl hc => hl.change hc) h sts

theorem stamped_start (settings : SchedulerSettings) (subs : List Subscription) :
    (start settings subs).Stamped :=
  stamped_ofScheduler (Scheduler.stamped_ofSubscriptions settings subs)

/-! ### What waits and what runs -/

/-- The evaluations that wait for a place or run. -/
def evaluating (l : Loop) : List Due := (l.tick.map fun t => t.queued ++ t.running).getD []

/-- The stamps of the evaluations that wait for a place. -/
def queued (l : Loop) : List Nat := (l.tick.map fun t => t.queued.map Due.stamp).getD []

/-- The stamps of the evaluations that run. -/
def running (l : Loop) : List Nat := (l.tick.map fun t => t.running.map Due.stamp).getD []

/-- The tick that begins has what fires, all of it waiting. -/
theorem startTick_eq (h : l.tick = none) (now : Instant) :
    (l.startTick now).evaluating = l.scheduler.due now ∧
      (l.startTick now).queued = (l.scheduler.due now).map Due.stamp ∧
      (l.startTick now).running = [] := by
  have hdue : (l.scheduler.collect now).2 = l.scheduler.due now := rfl
  cases hds : l.scheduler.due now <;>
    simp [startTick, evaluating, queued, running, h, hdue, hds, Tick.start]

/-! ### Histories -/

/-- The reading of the clock in a step: that of a tick that begins. -/
def opens (l : Loop) : LoopStep → List Instant
  | .tick now => if l.phase = .accepting ∧ l.tick.isNone = true then [now] else []
  | _ => []

/-- The evaluations that a step begins, each with the reading of the clock: those of the tick that
it leaves. -/
def begins (l : Loop) (st : LoopStep) : List (Instant × Due) :=
  (l.opens st).flatMap fun now => (l.next st).1.evaluating.map fun d => (now, d)

/-- The stamps of the evaluations that get a place in a step. -/
def starts (l : Loop) (st : LoopStep) : List Nat := (l.next st).1.running.diff l.running

/-- The ends of evaluations that a step puts into the entries. -/
def ends (l : Loop) : LoopStep → List Evaluated
  | .report now =>
    match l.tick with
    | some t => if t.isOver && !l.scheduler.overruns now t.ended then t.ended else []
    | none => []
  | _ => []

/-- What is noted of the steps of a run, one after the other. -/
def trace {α : Type} (note : Loop → LoopStep → List α) : Loop → List LoopStep → List α
  | _, [] => []
  | l, st :: sts => note l st ++ trace note (l.next st).1 sts

/-- The readings of the clock by the ticks that begin in a run. -/
def readings (l : Loop) (sts : List LoopStep) : List Instant := l.trace opens sts

/-- The evaluations that the ticks of a run begin, each with the reading of the clock. -/
def begun (l : Loop) (sts : List LoopStep) : List (Instant × Due) := l.trace begins sts

/-- The stamps of the evaluations that get a place in a run. -/
def started (l : Loop) (sts : List LoopStep) : List Nat := l.trace starts sts

/-- The ends of evaluations that the reports of a run put into the entries. -/
def reported (l : Loop) (sts : List LoopStep) : List Evaluated := l.trace ends sts

theorem trace_concat {α : Type} (note : Loop → LoopStep → List α) (l : Loop) (sts : List LoopStep)
    (st : LoopStep) : l.trace note (sts ++ [st]) = l.trace note sts ++ note (l.run sts) st := by
  induction sts generalizing l with
  | nil => simp [trace, run]
  | cons s sts ih => rw [List.cons_append, trace, ih, trace, List.append_assoc, run]

theorem mem_opens (h : now ∈ l.opens st) :
    st = .tick now ∧ l.phase = .accepting ∧ l.tick = none := by
  cases st with
  | tick r =>
    rw [opens] at h
    split at h
    · next hopen =>
      obtain rfl := List.mem_singleton.1 h
      exact ⟨rfl, hopen.1, Option.isNone_iff_eq_none.1 hopen.2⟩
    · exact absurd h List.not_mem_nil
  | _ => exact absurd h List.not_mem_nil

theorem opens_of_idle (hphase : l.phase = .accepting) (htick : l.tick = none) (now : Instant) :
    l.opens (.tick now) = [now] := by simp [opens, hphase, htick]

/-- **A tick that begins evaluates what fires** at its reading of the clock, and nothing else. -/
theorem begins_eq (l : Loop) (st : LoopStep) :
    l.begins st = (l.opens st).flatMap fun now => (l.scheduler.due now).map fun d => (now, d) := by
  refine List.flatMap_congr fun now hnow => ?_
  obtain ⟨rfl, hphase, htick⟩ := mem_opens hnow
  rw [next_tick hphase, (startTick_eq htick now).1]

theorem mem_begins : (now, d) ∈ l.begins st ↔ now ∈ l.opens st ∧ d ∈ l.scheduler.due now := by
  simp only [begins_eq, List.mem_flatMap, List.mem_map, Prod.mk.injEq]
  constructor
  · rintro ⟨r, hr, d', hd', rfl, rfl⟩
    exact ⟨hr, hd'⟩
  · rintro ⟨hnow, hd⟩
    exact ⟨now, hnow, d, hd, rfl, rfl⟩

theorem begins_of_idle (hphase : l.phase = .accepting) (htick : l.tick = none) (now : Instant) :
    l.begins (.tick now) = (l.scheduler.due now).map fun d => (now, d) := by
  rw [begins_eq, opens_of_idle hphase htick, List.flatMap_singleton]

/-- What a step puts into the entries is of a report. -/
theorem mem_ends {v : Evaluated} (h : v ∈ l.ends st) : ∃ now t, st = .report now ∧
    l.tick = some t ∧ t.isOver = true ∧ l.scheduler.overruns now t.ended = false ∧ v ∈ t.ended := by
  cases st with
  | report now =>
    simp only [ends] at h
    split at h
    · next t ht =>
      split at h
      · next hover =>
        obtain ⟨hover, hoverrun⟩ := Bool.and_eq_true_iff.1 hover
        exact ⟨now, t, rfl, ht, hover, by simpa using hoverrun, h⟩
      · exact absurd h List.not_mem_nil
    · exact absurd h List.not_mem_nil
  | _ => exact absurd h List.not_mem_nil

theorem ends_of_report {t : Tick} (ht : l.tick = some t) (hover : t.isOver = true)
    (hoverrun : l.scheduler.overruns now t.ended = false) : l.ends (.report now) = t.ended := by
  simp [ends, ht, hover, hoverrun]

theorem Stamped.nodup_ends (hl : l.Stamped) (st : LoopStep) :
    ((l.ends st).map Evaluated.stamp).Nodup := by
  by_cases hnone : l.ends st = []
  · rw [hnone]
    exact .nil
  · obtain ⟨v, hv⟩ := List.exists_mem_of_ne_nil _ hnone
    obtain ⟨now, t, rfl, ht, hover, hoverrun, -⟩ := mem_ends hv
    rw [ends_of_report ht hover hoverrun]
    exact hl.ended_nodup ht

/-- What a report puts into the entries was in flight until then. -/
theorem mem_inFlight_of_ends {v : Evaluated} (hv : v ∈ l.ends st) : v.stamp ∈ l.inFlight := by
  obtain ⟨now, t, -, ht, -, -, hv⟩ := mem_ends hv
  exact mem_inFlight_of_ended ht hv

/-- What is noted of a run is noted of one of its steps. -/
theorem exists_of_mem_trace {α : Type} {note : Loop → LoopStep → List α} {l : Loop}
    {sts : List LoopStep} {a : α} (h : a ∈ l.trace note sts) :
    ∃ before st, a ∈ note (l.run before) st := by
  induction sts generalizing l with
  | nil => exact absurd h List.not_mem_nil
  | cons st sts ih =>
    rcases List.mem_append.1 h with h | h
    · exact ⟨[], st, h⟩
    · obtain ⟨before, st', h⟩ := ih h
      exact ⟨st :: before, st', h⟩

/-! Of a step that cannot be taken there is nothing to note. -/

theorem opens_of_none (h : l.step st = none) : l.opens st = [] := by
  refine List.eq_nil_iff_forall_not_mem.2 fun now hnow => ?_
  obtain ⟨rfl, hphase, -⟩ := mem_opens hnow
  simp [step, hphase] at h

theorem begins_of_none (h : l.step st = none) : l.begins st = [] := by
  rw [begins, opens_of_none h, List.flatMap_nil]

theorem ends_of_none (h : l.step st = none) : l.ends st = [] := by
  refine List.eq_nil_iff_forall_not_mem.2 fun v hv => ?_
  obtain ⟨now, t, rfl, ht, hover, hoverrun, -⟩ := mem_ends hv
  cases hphase : l.phase <;> simp [step, report, ht, hover, hoverrun, hphase] at h

end Loop

/-! ### The entries after a step -/

/-- What a step makes of an entry that stays registered. -/
def Entry.after (l : Loop) (st : LoopStep) (e : Entry) : Entry :=
  match st with
  | .command _ .captured => e.markDue
  | .tick now => if l.tick.isNone && e.fires now then e.fired now else e
  | .report now => e.settleAll now (l.ends (.report now))
  | _ => e

@[simp] theorem Entry.stamp_after (l : Loop) (st : LoopStep) (e : Entry) :
    (e.after l st).stamp = e.stamp := by
  unfold after
  split
  · rfl
  · split <;> rfl
  · exact stamp_settleAll _ _ e
  · rfl

@[simp] theorem Entry.subscription_after (l : Loop) (st : LoopStep) (e : Entry) :
    (e.after l st).subscription = e.subscription := by
  unfold after
  split
  · rfl
  · split <;> rfl
  · exact subscription_settleAll _ _ e
  · rfl

/-- The ends of evaluations leave the second in which an entry fired last. -/
theorem Entry.lastFired_settleAll (now : Instant) (vs : List Evaluated) (e : Entry) :
    (e.settleAll now vs).lastFired = e.lastFired := by
  refine List.foldlRecOn vs (settleOne now) (motive := fun e' => e'.lastFired = e.lastFired) rfl
    fun e' he' v _ => ?_
  rw [← he']
  unfold settleOne
  split
  · rfl
  · split <;> rfl

/-- When an entry after captures fires. -/
theorem Entry.fires_of_trigger {p : RetryPolicy} {e : Entry} (hfits : e.Fits p) {t : TriggerState}
    (ht : e.trigger = some t) (now : Instant) :
    e.fires now = (e.subscription.active && (t.due && t.isReady now)) := by
  have hkind := hfits.isSome_trigger
  unfold fires
  cases hsub : e.subscription.trigger with
  | schedule s => simp [ht, hsub, Trigger.onCapture] at hkind
  | capture uri => simp only [ht]

theorem Entry.markDue_of_due {e : Entry} {t : TriggerState} (ht : e.trigger = some t)
    (hdue : t.due = true) : e.markDue = e := by
  obtain ⟨stamp, sub, lastFired, trigger⟩ := e
  obtain ⟨due, next, b⟩ := t
  simp only at ht hdue
  rw [ht, hdue, markDue]
  rfl

namespace Loop

variable {l l' : Loop} {st : LoopStep}

/-- **The entries after a step**: one is added in place of any of the same name, those of a name are
taken out, or each entry changes by itself. -/
theorem Change.entries (h : l.Change st l') :
    (∃ caller sub, st = .command caller (.register sub) ∧
        l'.scheduler = l.scheduler.register sub) ∨
      (∃ caller name, st = .command caller (.remove name) ∧
        l'.scheduler = l.scheduler.remove name) ∨
      l'.scheduler.entries = l.scheduler.entries.map (Entry.after l st) := by
  have hsame (hall : ∀ e : Entry, e.after l st = e) :
      l.scheduler.entries = l.scheduler.entries.map (Entry.after l st) := by
    rw [List.map_congr_left fun e _ => hall e, List.map_id']
  cases h with
  | command h caller c =>
    rw [scheduler_command]
    cases c with
    | register sub => exact .inl ⟨caller, sub, rfl, rfl⟩
    | remove name => exact .inr (.inl ⟨caller, name, rfl, rfl⟩)
    | captured => exact .inr (.inr rfl)
    | names => exact .inr (.inr (hsame fun _ => rfl))
    | shutdown => exact .inr (.inr (hsame fun _ => rfl))
  | tick h now =>
    refine .inr (.inr ?_)
    cases htick : l.tick with
    | none =>
      rw [scheduler_startTick htick]
      exact List.map_congr_left fun e _ => by simp [Entry.after, htick]
    | some t =>
      rw [startTick_of_isSome (by rw [htick]; rfl)]
      exact hsame fun e => by simp [Entry.after, htick]
  | overrun ht hover hoverrun =>
    exact .inr (.inr (hsame fun e => by
      simp [Entry.after, ends, ht, hover, hoverrun, Entry.settleAll]))
  | report ht hover hoverrun =>
    refine .inr (.inr ?_)
    rw [Scheduler.entries_settle]
    exact List.map_congr_left fun e _ => by
      rw [Entry.after, ends_of_report ht hover hoverrun]
  | start => exact .inr (.inr (hsame fun _ => rfl))
  | skip => exact .inr (.inr (hsame fun _ => rfl))
  | finish => exact .inr (.inr (hsame fun _ => rfl))

/-- An entry after a step is a new one, or what the step made of one. -/
theorem Change.mem_entries (h : l.Change st l') {e : Entry} (he : e ∈ l'.scheduler.entries) :
    (∃ caller sub, st = .command caller (.register sub) ∧
        e = .make l.scheduler.nextStamp l.scheduler.retry sub) ∨
      ∃ e₀ ∈ l.scheduler.entries, e = e₀.after l st := by
  rcases h.entries with ⟨caller, sub, rfl, hs⟩ | ⟨caller, name, rfl, hs⟩ | hs
  · rw [hs] at he
    rcases List.mem_append.1 he with he | he
    · exact .inr ⟨e, (List.mem_filter.1 he).1, rfl⟩
    · exact .inl ⟨caller, sub, rfl, List.mem_singleton.1 he⟩
  · rw [hs] at he
    exact .inr ⟨e, (List.mem_filter.1 he).1, rfl⟩
  · rw [hs] at he
    obtain ⟨e₀, he₀, rfl⟩ := List.mem_map.1 he
    exact .inr ⟨e₀, he₀, rfl⟩

/-! ### Entries at rest -/

/-- What fires is begun by a tick that begins. -/
theorem mem_begins_of_fires {now : Instant} (hphase : l.phase = .accepting) (htick : l.tick = none)
    {e : Entry} (he : e ∈ l.scheduler.entries) (hfires : e.fires now = true) :
    (now, ⟨e.stamp, e.subscription⟩) ∈ l.begins (.tick now) := by
  refine mem_begins.2 ⟨?_, List.mem_map.2 ⟨e, List.mem_filter.2 ⟨he, hfires⟩, rfl⟩⟩
  rw [opens_of_idle hphase htick]
  exact List.mem_singleton.2 rfl

/-- An entry whose evaluation a step begins fires at the reading of the clock. -/
theorem exists_of_mem_begins {b : Instant × Due} (hb : b ∈ l.begins st) :
    b.1 ∈ l.opens st ∧ ∃ e ∈ l.scheduler.entries, e.fires b.1 = true ∧
      b.2 = ⟨e.stamp, e.subscription⟩ := by
  obtain ⟨now, d⟩ := b
  obtain ⟨hnow, hd⟩ := mem_begins.1 hb
  obtain ⟨e, he, rfl⟩ := List.mem_map.1 hd
  obtain ⟨he, hfires⟩ := List.mem_filter.1 he
  exact ⟨hnow, e, he, hfires, rfl⟩

/-- Nothing of an entry is in flight, and it has not changed if it is still registered. -/
structure Rests (l : Loop) (e : Entry) : Prop where
  notMem_inFlight : e.stamp ∉ l.inFlight
  lt_next : e.stamp < l.scheduler.nextStamp
  eq : ∀ e' ∈ l.scheduler.entries, e'.stamp = e.stamp → e' = e

theorem Stamped.rests (hl : l.Stamped) {e : Entry} (he : e ∈ l.scheduler.entries)
    (hflight : e.stamp ∉ l.inFlight) : l.Rests e :=
  ⟨hflight, hl.scheduler.lt_next e he, fun _ he' hstamp => hl.scheduler.eq_of_stamp he' he hstamp⟩

namespace Rests

variable {e : Entry}

/-- When a tick begins the evaluation of an entry at rest, it fires. -/
theorem fires (h : l.Rests e) {p : Instant × Due} (hp : p ∈ l.begins st)
    (hstamp : p.2.stamp = e.stamp) : p.1 ∈ l.opens st ∧ e.fires p.1 = true := by
  obtain ⟨hnow, e', he', hfires, hd⟩ := exists_of_mem_begins hp
  rw [hd] at hstamp
  rw [h.eq e' he' hstamp] at hfires
  exact ⟨hnow, hfires⟩

/-- **An entry rests** in a step that does not begin its evaluation, if a capture does not change
its mark. -/
theorem change (h : l.Rests e) (hl : l.Stamped) (hc : l.Change st l')
    (hmark : ∀ caller, st = .command caller .captured → e.markDue = e)
    (hquiet : ∀ p ∈ l.begins st, p.2.stamp ≠ e.stamp) : l'.Rests e := by
  have haccepting {now : Instant} (hst : st = .tick now) : l.phase = .accepting := by
    subst hst
    cases hc with
    | tick hphase => exact hphase
  refine ⟨?_, Nat.lt_of_lt_of_le h.lt_next (hc.scheduler hl.scheduler).2, ?_⟩
  · rcases hc.inFlight with ⟨hperm, -⟩ | hnil | ⟨now, hst, htick, hdue⟩
    · exact fun hn => h.notMem_inFlight (hperm.mem_iff.1 hn)
    · simp [hnil]
    · -- a tick puts into flight what it begins
      rw [hdue]
      intro hn
      obtain ⟨d, hd, hstamp⟩ := List.mem_map.1 hn
      have hnow : now ∈ l.opens st := by
        rw [hst, opens_of_idle (haccepting hst) htick]
        exact List.mem_singleton.2 rfl
      exact hquiet (now, d) (mem_begins.2 ⟨hnow, hd⟩) hstamp
  · intro e' he' hstamp
    rcases hc.mem_entries he' with ⟨caller, sub, -, rfl⟩ | ⟨e₀, he₀, rfl⟩
    · -- a new entry has another stamp
      exact absurd hstamp (Nat.ne_of_gt h.lt_next)
    · rw [Entry.stamp_after] at hstamp
      obtain rfl := h.eq e₀ he₀ hstamp
      unfold Entry.after
      split
      · next caller => exact hmark caller rfl
      · next now =>
        split
        · next hfires =>
          obtain ⟨htick, hfires⟩ := Bool.and_eq_true_iff.1 hfires
          exact absurd rfl (hquiet _ (mem_begins_of_fires (haccepting rfl)
            (Option.isNone_iff_eq_none.1 htick) he₀ hfires))
        · rfl
      · next now =>
        refine Entry.settleAll_of_notMem fun v hv hsame => ?_
        exact h.notMem_inFlight (hsame ▸ mem_inFlight_of_ends hv)
      · rfl

/-- **How long an entry rests**: until its evaluation begins, or a capture sets its mark. -/
theorem run (h : l.Rests e) (hl : l.Stamped) {sts : List LoopStep}
    (hmark : ∀ caller, .command caller .captured ∈ sts → e.markDue = e)
    (hquiet : ∀ p ∈ l.begun sts, p.2.stamp ≠ e.stamp) : (l.run sts).Rests e := by
  induction sts generalizing l with
  | nil => exact h
  | cons st sts ih =>
    have hfirst : ∀ p ∈ l.begins st, p.2.stamp ≠ e.stamp :=
      fun p hp => hquiet p (List.mem_append_left _ hp)
    have hnext : (l.next st).1.Stamped ∧ (l.next st).1.Rests e := by
      rcases l.next_cases st with hnone | ⟨-, hc⟩
      · rw [hnone]
        exact ⟨hl, h⟩
      · exact ⟨hl.change hc, h.change hl hc
          (fun caller hst => hmark caller (hst ▸ List.mem_cons_self)) hfirst⟩
    exact ih hnext.2 hnext.1 (fun caller hmem => hmark caller (List.mem_cons_of_mem _ hmem))
      fun p hp => hquiet p (List.mem_append_right _ hp)

/-- The evaluation of an entry at rest does not begin while it does not fire. -/
theorem not_begun (h : l.Rests e) (hl : l.Stamped) {sts : List LoopStep}
    (hmark : ∀ caller, .command caller .captured ∈ sts → e.markDue = e)
    (hquiet : ∀ now ∈ l.readings sts, e.fires now = false) :
    ∀ p ∈ l.begun sts, p.2.stamp ≠ e.stamp := by
  induction sts generalizing l with
  | nil => exact fun p hp => absurd hp List.not_mem_nil
  | cons st sts ih =>
    have hfirst : ∀ p ∈ l.begins st, p.2.stamp ≠ e.stamp := by
      intro p hp hstamp
      obtain ⟨hnow, hfires⟩ := h.fires hp hstamp
      rw [hquiet p.1 (List.mem_append_left _ hnow)] at hfires
      exact absurd hfires (by decide)
    have hmarkFirst : ∀ caller, .command caller .captured ∈ [st] → e.markDue = e :=
      fun caller hmem => hmark caller (List.mem_cons.2 (.inl (List.mem_singleton.1 hmem)))
    have hnext : (l.run [st]).Rests e :=
      h.run hl hmarkFirst (by simpa [begun, trace] using hfirst)
    have hlater := ih hnext (hl.run [st])
      (fun caller hmem => hmark caller (List.mem_cons_of_mem _ hmem))
      (fun now hnow => hquiet now (List.mem_append_right _ hnow))
    intro p hp
    rcases List.mem_append.1 hp with hp | hp
    · exact hfirst p hp
    · exact hlater p hp

end Rests

end Loop

end Provenance
