import Provenance.Proofs.Scheduler.Marks

/-!
# After a removal

An entry that is removed may have been collected by the tick in flight, so that an evaluation of it
waits for a place, or runs.  From then on an evaluation that waits is skipped when its turn comes,
no tick collects the entry, and the end of an evaluation that ran changes no other entry.  So
evaluations of the entry only get fewer; and as who removed it is answered when no tick is in
flight, none is left by then.  When who shut the loop down has been answered, none is left of any
entry.

A subscription that is registered under the same name gets an entry with a new stamp, which nothing
of this concerns.

## Main definitions

* `Loop.replies` — what callers are told in a run.
* `Loop.Gone` — the entry of a stamp was removed.
* `Loop.without` — the loop without the end of an evaluation.

## Main results

* `Loop.Gone.change` — an entry that was removed does not come back.
* `Loop.Gone.report_without` — the late end of its evaluation makes no difference.
* `Loop.quiet_of_answered` — **nothing fires after a removal or a shutdown.**
-/

namespace Provenance

namespace Loop

variable {l l' : Loop} {st : LoopStep} {rs : List Reply} {n : Nat}

/-! ### What is told in a run -/

/-- What callers are told in a run. -/
def replies : Loop → List LoopStep → List Reply
  | _, [] => []
  | l, st :: sts => (l.next st).2 ++ (l.next st).1.replies sts

/-- What holds when something is told, and is kept, holds after a run in which it is told. -/
theorem run_of_mem_replies {P Q : Loop → Prop} {r : Reply}
    (hkeep : ∀ l st l', P l → l.Change st l' → P l')
    (hstay : ∀ l st l', P l → Q l → l.Change st l' → Q l')
    (htold : ∀ l st l' rs, P l → l.step st = some (l', rs) → r ∈ rs → Q l')
    (h : P l) {sts : List LoopStep} (hr : r ∈ l.replies sts) : Q (l.run sts) := by
  induction sts generalizing l with
  | nil => exact absurd hr List.not_mem_nil
  | cons st sts ih =>
    rw [replies] at hr
    rw [run]
    rcases l.next_cases st with hnone | ⟨hstep, hchange⟩
    · rw [hnone] at hr ⊢
      exact ih h hr
    · have hafter := hkeep l st _ h hchange
      rcases List.mem_append.1 hr with hr | hr
      · have hpq := run_induction (P := fun l => P l ∧ Q l)
          (fun l st l' hl hc => ⟨hkeep l st l' hl.1 hc, hstay l st l' hl.1 hl.2 hc⟩)
          ⟨hafter, htold l st _ _ h hstep hr⟩ sts
        exact hpq.2
      · exact ih hafter hr

/-! ### What runs -/

/-- Only the evaluation of an entry that is registered begins. -/
theorem Change.running (h : l.Change st l') (hn : n ∈ l'.running) :
    n ∈ l.running ∨ l.scheduler.isLive n = true := by
  cases h with
  | command h caller c =>
    rw [Loop.running, tick_command] at hn
    exact .inl hn
  | tick h now =>
    cases htick : l.tick with
    | none =>
      -- a tick begins with all its evaluations waiting
      rw [(startTick_eq htick now).2.2] at hn
      exact absurd hn List.not_mem_nil
    | some t =>
      rw [startTick_of_isSome (by rw [htick]; rfl)] at hn
      exact .inl hn
  | start ht hd hroom hlive =>
    simp only [Loop.running, ht, Option.map_some, Option.getD_some, List.map_append, List.map_cons,
      List.map_nil, List.mem_append, List.mem_singleton] at hn ⊢
    rcases hn with hn | rfl
    · exact .inl hn
    · rw [stamp_of_takeDue hd]
      exact .inr hlive
  | skip ht hd hroom hlive =>
    simp only [Loop.running, ht, Option.map_some, Option.getD_some] at hn ⊢
    exact .inl hn
  | finish ht hd =>
    simp only [Loop.running, ht, Option.map_some, Option.getD_some] at hn ⊢
    have hcount := count_of_takeDue hd n
    have hpos := List.count_pos_iff.2 hn
    exact .inl (List.count_pos_iff.1 (by omega))
  | overrun => exact absurd hn List.not_mem_nil
  | report => exact absurd hn List.not_mem_nil

/-- An evaluation whose turn comes while its entry is registered begins. -/
theorem exists_step_start {t : Tick} (ht : l.tick = some t) (hwait : n ∈ t.queued.map Due.stamp)
    (hroom : t.running.length < l.scheduler.maxConcurrency)
    (hlive : l.scheduler.isLive n = true) :
    ∃ l', l.step (.start n) = some (l', []) ∧ n ∈ l'.running := by
  obtain ⟨d, queued, hd⟩ : ∃ d queued, takeDue n t.queued = some (d, queued) := by
    generalize t.queued = ds at hwait
    induction ds with
    | nil => exact absurd hwait List.not_mem_nil
    | cons e ds ih =>
      by_cases he : e.stamp = n
      · exact ⟨e, ds, if_pos he⟩
      · obtain ⟨d, rest, hd⟩ := ih ((List.mem_cons.1 hwait).resolve_left (Ne.symm he))
        exact ⟨d, e :: rest, by rw [takeDue, if_neg he, hd]; rfl⟩
  refine ⟨{ l with tick := some ⟨queued, t.running ++ [d], t.ended⟩ }, ?_, ?_⟩
  · have hnot : ¬l.scheduler.maxConcurrency ≤ t.running.length := Nat.not_le.2 hroom
    simp [step, startEvaluation, ht, hd, hnot, hlive]
  · simp [running, stamp_of_takeDue hd]

/-! ### Entries that were removed -/

/-- An entry with this stamp was registered and is not any more. -/
structure Gone (l : Loop) (n : Nat) : Prop where
  stamp_ne : ∀ e ∈ l.scheduler.entries, e.stamp ≠ n
  lt_next : n < l.scheduler.nextStamp

namespace Gone

/-- **What was removed does not come back.** -/
theorem change (h : l.Gone n) (hl : l.Stamped) (hc : l.Change st l') : l'.Gone n where
  stamp_ne := by
    intro e he
    rcases hc.mem_entries he with ⟨_, sub, -, rfl⟩ | ⟨e₀, he₀, rfl⟩
    · -- a new entry gets a stamp that was not given
      exact Nat.ne_of_gt h.lt_next
    · rw [Entry.stamp_after]
      exact h.stamp_ne e₀ he₀
  lt_next := Nat.lt_of_lt_of_le h.lt_next (hc.scheduler hl.scheduler).2

theorem run (h : l.Gone n) (hl : l.Stamped) (sts : List LoopStep) : (l.run sts).Gone n :=
  (run_induction (P := fun l => l.Stamped ∧ l.Gone n)
    (fun _ _ _ hl hc => ⟨hl.1.change hc, hl.2.change hl.1 hc⟩) ⟨hl, h⟩ sts).2

theorem isLive_eq (h : l.Gone n) : l.scheduler.isLive n = false := by
  rw [Scheduler.isLive, List.any_eq_false]
  intro e he
  simpa using h.stamp_ne e he

/-- Evaluations of what was removed only get fewer. -/
theorem running_change (h : l.Gone n) (hc : l.Change st l') (hn : n ∈ l'.running) :
    n ∈ l.running := by
  refine (hc.running hn).resolve_right fun hlive => ?_
  rw [h.isLive_eq] at hlive
  exact absurd hlive (by decide)

theorem running_run (h : l.Gone n) (hl : l.Stamped) (sts : List LoopStep)
    (hn : n ∈ (l.run sts).running) : n ∈ l.running :=
  (run_induction (P := fun k => (k.Stamped ∧ k.Gone n) ∧ (n ∈ k.running → n ∈ l.running))
    (fun _ _ _ hk hc => ⟨⟨hk.1.1.change hc, hk.1.2.change hk.1.1 hc⟩,
      fun hn => hk.2 (hk.1.2.running_change hc hn)⟩)
    ⟨⟨hl, h⟩, id⟩ sts).2 hn

/-- What was removed, and is not in flight, does not get in flight. -/
theorem notMem_inFlight_change (h : l.Gone n) (hc : l.Change st l') (hn : n ∉ l.inFlight) :
    n ∉ l'.inFlight := by
  rcases hc.inFlight with ⟨hperm, -⟩ | hnil | ⟨now, -, -, hdue⟩
  · exact fun hmem => hn (hperm.mem_iff.1 hmem)
  · simp [hnil]
  · -- a tick collects entries that are registered
    rw [hdue, Scheduler.due, List.map_map]
    intro hmem
    obtain ⟨e, he, hstamp⟩ := List.mem_map.1 hmem
    exact h.stamp_ne e (List.mem_filter.1 he).1 hstamp

theorem notMem_inFlight_run (h : l.Gone n) (hl : l.Stamped) (hn : n ∉ l.inFlight)
    (sts : List LoopStep) : n ∉ (l.run sts).inFlight :=
  (run_induction (P := fun l => (l.Stamped ∧ l.Gone n) ∧ n ∉ l.inFlight)
    (fun _ _ _ hl hc => ⟨⟨hl.1.1.change hc, hl.1.2.change hl.1.1 hc⟩,
      hl.1.2.notMem_inFlight_change hc hl.2⟩)
    ⟨⟨hl, h⟩, hn⟩ sts).2

end Gone

/-- A removal removes. -/
theorem gone_of_remove (hl : l.Stamped) (hphase : l.phase = .accepting) {e : Entry}
    (he : e ∈ l.scheduler.entries) (caller : Nat) :
    (l.next (.command caller (.remove e.subscription.name))).1.Gone e.stamp := by
  have hnext : l.next (.command caller (.remove e.subscription.name)) =
      l.command caller (.remove e.subscription.name) := by
    rw [next, step, if_pos hphase]
    rfl
  constructor
  · intro e' he' hstamp
    rw [hnext, scheduler_command] at he'
    obtain ⟨he', hname⟩ := List.mem_filter.1 he'
    -- the entry that is left would be the one that was removed
    obtain rfl := hl.scheduler.eq_of_stamp he' he hstamp
    simp at hname
  · rw [hnext, scheduler_command]
    exact hl.scheduler.lt_next e he

/-! ### Late reports -/

/-- The loop without the end of the evaluation of a stamp. -/
def without (l : Loop) (n : Nat) : Loop :=
  { l with
    tick := l.tick.map fun t => { t with ended := t.ended.filter fun v => v.stamp != n } }

theorem Gone.overruns_filter (h : l.Gone n) (now : Instant) (vs : List Evaluated) :
    l.scheduler.overruns now (vs.filter fun v => v.stamp != n) = l.scheduler.overruns now vs := by
  rw [Scheduler.overruns, Scheduler.overruns, List.any_filter]
  refine List.any_congr rfl fun v => ?_
  by_cases hv : v.stamp = n
  · -- no entry is there to ask for a retry
    have hnone : l.scheduler.overrunsAt now v = false := by
      unfold Scheduler.overrunsAt
      split
      · rw [List.any_eq_false]
        intro e he
        have := h.stamp_ne e he
        simp [hv, this]
      · rfl
    simp [hv, hnone]
  · simp [hv]

theorem Gone.settle_filter (h : l.Gone n) (now : Instant) (vs : List Evaluated) :
    l.scheduler.settle now (vs.filter fun v => v.stamp != n) = l.scheduler.settle now vs := by
  have hentries : (l.scheduler.settle now (vs.filter fun v => v.stamp != n)).entries =
      (l.scheduler.settle now vs).entries := by
    rw [Scheduler.entries_settle, Scheduler.entries_settle]
    exact List.map_congr_left fun e he => Entry.settleAll_filter (h.stamp_ne e he) now vs
  obtain ⟨hnext, hretry, hmax⟩ := l.scheduler.frame_settle now vs
  obtain ⟨hnext', hretry', hmax'⟩ :=
    l.scheduler.frame_settle now (vs.filter fun v => v.stamp != n)
  exact Scheduler.ext hentries (hnext'.trans hnext.symm) (hretry'.trans hretry.symm)
    (hmax'.trans hmax.symm)

/-- **The late end of an evaluation makes no difference** to a report. -/
theorem Gone.report_without (h : l.Gone n) (now : Instant) :
    (l.without n).report now = l.report now := by
  cases ht : l.tick with
  | none => simp [report, without, ht]
  | some t =>
    have hover : ({ t with ended := t.ended.filter fun v => v.stamp != n } : Tick).isOver =
        t.isOver := rfl
    simp only [report, without, ht, Option.map_some, Option.bind_eq_bind, Option.bind_some, hover,
      h.overruns_filter, h.settle_filter]

/-! ### Answers -/

/-- What is so when a caller is told something. -/
def Bears (l : Loop) : Reply → Prop
  | .removed _ true => l.tick = none
  | .stopped _ => l.tick = none ∧ l.phase = .closed
  | _ => True

theorem bears_of_report {now : Instant} (h : l.report now = some (l', rs)) {r : Reply}
    (hr : r ∈ rs) : l'.Bears r := by
  obtain ⟨t, -, h⟩ := Option.bind_eq_some_iff.1 h
  split at h
  · exact absurd h (by simp)
  · split at h
    · obtain ⟨-, rfl⟩ := Prod.mk.inj (Option.some.inj h)
      exact absurd hr List.not_mem_nil
    · simp only at h
      split at h <;> obtain ⟨rfl, rfl⟩ := Prod.mk.inj (Option.some.inj h)
      · rcases List.mem_append.1 hr with hr | hr
        · obtain ⟨c, -, rfl⟩ := List.mem_map.1 hr
          rfl
        · obtain rfl := List.mem_singleton.1 hr
          exact ⟨rfl, rfl⟩
      · obtain ⟨c, -, rfl⟩ := List.mem_map.1 hr
        rfl

theorem bears_of_command {caller : Nat} {c : Command} {r : Reply}
    (hr : r ∈ (l.command caller c).2) : (l.command caller c).1.Bears r := by
  cases c with
  | register sub =>
    obtain rfl := List.mem_singleton.1 hr
    trivial
  | remove name =>
    rw [command] at hr ⊢
    split at hr
    · next hhas =>
      split at hr
      · exact absurd hr List.not_mem_nil
      · next htick =>
        obtain rfl := List.mem_singleton.1 hr
        rw [if_pos hhas, if_neg htick]
        exact Option.not_isSome_iff_eq_none.1 htick
    · obtain rfl := List.mem_singleton.1 hr
      trivial
  | names =>
    obtain rfl := List.mem_singleton.1 hr
    trivial
  | captured => exact absurd hr List.not_mem_nil
  | shutdown =>
    rw [command] at hr ⊢
    split at hr
    · exact absurd hr List.not_mem_nil
    · next htick =>
      obtain rfl := List.mem_singleton.1 hr
      rw [if_neg htick]
      exact ⟨Option.not_isSome_iff_eq_none.1 htick, rfl⟩

/-- **A removal, or a shutdown, is answered when no tick is in flight.** -/
theorem bears_of_step (h : l.step st = some (l', rs)) {r : Reply} (hr : r ∈ rs) : l'.Bears r := by
  cases st with
  | command caller c =>
    rw [step] at h
    split at h
    · obtain ⟨hl, hrs⟩ := Prod.mk.inj (Option.some.inj h)
      rw [← hrs] at hr
      rw [← hl]
      exact bears_of_command hr
    · exact absurd h (by simp)
  | tick now =>
    rw [step] at h
    split at h
    · obtain ⟨-, rfl⟩ := Prod.mk.inj (Option.some.inj h)
      exact absurd hr List.not_mem_nil
    · exact absurd h (by simp)
  | start m =>
    obtain ⟨k, -, h⟩ := Option.map_eq_some_iff.1 h
    obtain ⟨-, rfl⟩ := Prod.mk.inj h
    exact absurd hr List.not_mem_nil
  | finish m r =>
    obtain ⟨k, -, h⟩ := Option.map_eq_some_iff.1 h
    obtain ⟨-, rfl⟩ := Prod.mk.inj h
    exact absurd hr List.not_mem_nil
  | report now => exact bears_of_report h hr

theorem bears_of_next {r : Reply} (hr : r ∈ (l.next st).2) : (l.next st).1.Bears r := by
  rcases l.next_cases st with hnone | ⟨hstep, -⟩
  · rw [hnone] at hr
    exact absurd hr List.not_mem_nil
  · exact bears_of_step hstep hr

/-- A loop that takes no commands any more stands still once the tick in flight is over. -/
theorem not_change_of_still (htick : l.tick = none) (hphase : l.phase ≠ .accepting) :
    ¬l.Change st l' := by
  intro h
  have hopen (h : l.phase = .accepting) : False := hphase h
  have hover {t : Tick} (ht : l.tick = some t) : False := by
    rw [htick] at ht
    exact absurd ht (by simp)
  cases h with
  | command h => exact hopen h
  | tick h => exact hopen h
  | start ht => exact hover ht
  | skip ht => exact hover ht
  | finish ht => exact hover ht
  | overrun ht => exact hover ht
  | report ht => exact hover ht

theorem run_of_still (htick : l.tick = none) (hphase : l.phase ≠ .accepting)
    (sts : List LoopStep) : l.run sts = l :=
  run_induction (P := (· = l))
    (fun _ _ _ h hc => absurd (h ▸ hc) (not_change_of_still htick hphase)) rfl sts

/-- When who removed an entry has been answered, no evaluation of the entry is left. -/
theorem notMem_inFlight_of_answered (hl : l.Stamped) (hphase : l.phase = .accepting) {e : Entry}
    (he : e ∈ l.scheduler.entries) {caller : Nat} {later : List LoopStep}
    (hr : .removed caller true ∈
      l.replies (.command caller (.remove e.subscription.name) :: later)) :
    e.stamp ∉ (l.run (.command caller (.remove e.subscription.name) :: later)).inFlight := by
  have hidle {l : Loop} (h : l.Bears (.removed caller true)) : e.stamp ∉ l.inFlight := by
    have htick : l.tick = none := h
    simp [inFlight, htick]
  have hgone := gone_of_remove hl hphase he caller
  have hstamped := hl.run [.command caller (.remove e.subscription.name)]
  rcases List.mem_append.1 hr with hr | hr
  · -- the command was answered at once
    exact hgone.notMem_inFlight_run hstamped (hidle (bears_of_next hr)) later
  · -- the report of the tick in flight has answered it
    exact run_of_mem_replies (P := fun l => l.Stamped ∧ l.Gone e.stamp)
      (fun _ _ _ hl hc => ⟨hl.1.change hc, hl.2.change hl.1 hc⟩)
      (fun _ _ _ hl hn hc => hl.2.notMem_inFlight_change hc hn)
      (fun _ _ _ _ _ hstep hr => hidle (bears_of_step hstep hr))
      ⟨hstamped, hgone⟩ hr

/-- When who shut the loop down has been answered, the loop stands still. -/
theorem run_of_stopped {caller : Nat} {sts : List LoopStep} (hr : .stopped caller ∈ l.replies sts)
    (more : List LoopStep) :
    (l.run sts).tick = none ∧ (l.run sts).run more = l.run sts := by
  have hclosed : (l.run sts).tick = none ∧ (l.run sts).phase = .closed :=
    run_of_mem_replies (P := fun _ => True) (fun _ _ _ _ _ => trivial)
      (fun _ _ _ _ h hc => absurd hc (not_change_of_still h.1 (by rw [h.2]; decide)))
      (fun _ _ _ _ _ hstep hr => bears_of_step hstep hr) trivial hr
  exact ⟨hclosed.1, run_of_still hclosed.1 (by rw [hclosed.2]; decide) more⟩

/-- **Nothing fires after a removal or a shutdown.**  A command that removes an entry may come at
any time, with any steps before and after it.

* From then on no evaluation of the entry begins, and once the command has been answered none is in
  flight: none waits, none runs, and none is reported any more.
* The entries that are there afterwards, of whatever name, have other stamps: the evaluation of such
  an entry begins when its turn comes, and a report is the same without the end of the evaluation of
  the entry that was removed.
* Once a shutdown has been answered, nothing is in flight. -/
theorem quiet_of_answered (settings : SchedulerSettings) (subs : List Subscription) :
    (∀ (before later : List LoopStep) (caller : Nat) (e : Entry),
      let l := (start settings subs).run before
      let sts := .command caller (.remove e.subscription.name) :: later
      l.phase = .accepting → e ∈ l.scheduler.entries →
        (∀ more, e.stamp ∈ ((l.run sts).run more).running → e.stamp ∈ (l.run sts).running) ∧
        (.removed caller true ∈ l.replies sts →
          ∀ more, e.stamp ∉ ((l.run sts).run more).inFlight) ∧
        (∀ e' ∈ (l.run sts).scheduler.entries, e'.stamp ≠ e.stamp ∧
          ∀ t, (l.run sts).tick = some t → e'.stamp ∈ t.queued.map Due.stamp →
            t.running.length < (l.run sts).scheduler.maxConcurrency →
            ∃ l', (l.run sts).step (.start e'.stamp) = some (l', []) ∧ e'.stamp ∈ l'.running) ∧
        ∀ now, (l.run sts).report now = ((l.run sts).without e.stamp).report now) ∧
    ∀ (sts : List LoopStep) (caller : Nat), .stopped caller ∈ (start settings subs).replies sts →
      ∀ more, (((start settings subs).run sts).run more).inFlight = [] := by
  constructor
  · intro before later caller e l sts hphase he
    have hl : l.Stamped := (stamped_start settings subs).run before
    have hlater : (l.run sts).Stamped := hl.run sts
    have hgone : (l.run sts).Gone e.stamp :=
      (gone_of_remove hl hphase he caller).run (hl.run [_]) later
    refine ⟨fun more => hgone.running_run hlater more, ?_, ?_, ?_⟩
    · intro hr more
      exact hgone.notMem_inFlight_run hlater (notMem_inFlight_of_answered hl hphase he hr) more
    · intro e' he'
      refine ⟨hgone.stamp_ne e' he', fun t ht hwait hroom => exists_step_start ht hwait hroom ?_⟩
      exact List.any_eq_true.2 ⟨e', he', beq_self_eq_true _⟩
    · intro now
      exact (hgone.report_without now).symm
  · intro sts caller hr more
    obtain ⟨htick, hrun⟩ := run_of_stopped hr more
    rw [hrun, inFlight, htick]
    rfl

/-- An evaluation of the first entry runs. -/
def busySteps : List LoopStep := [.tick .epoch, .start 0]

/-- Its subscription is removed and registered anew, and then the evaluation fails. -/
def replacingSteps : List LoopStep :=
  [.command 7 (.remove "s1"), .command 8 (.register promptSubscription),
    .finish 0 (.error (.delivery 503)), .report .epoch]

/-- The first entry while its evaluation runs. -/
def busyEntry : Entry where
  stamp := 0
  subscription := promptSubscription
  lastFired := some 0
  trigger := some ⟨false, none, .start strictSettings.retry⟩

/-- The removal is answered by the report; nothing of the old entry is left, and the failure of
its evaluation did not touch the new one, which is due as it was. -/
theorem quiet_replaced :
    let l := (start strictSettings [promptSubscription]).run busySteps
    l.phase = .accepting ∧ busyEntry ∈ l.scheduler.entries ∧ l.running = [0] ∧
      .removed 7 true ∈ l.replies replacingSteps ∧
      (∀ more, 0 ∉ ((l.run replacingSteps).run more).inFlight) ∧
      (l.run replacingSteps).scheduler.entries =
        [.make 1 strictSettings.retry promptSubscription] := by
  intro l
  have hphase : l.phase = .accepting := by decide
  have he : busyEntry ∈ l.scheduler.entries := by decide
  have hr : .removed 7 true ∈ l.replies replacingSteps := by decide
  obtain ⟨-, hquiet, -⟩ :=
    (quiet_of_answered strictSettings [promptSubscription]).1 busySteps
      replacingSteps.tail 7 busyEntry hphase he
  exact ⟨hphase, he, by decide, hr, hquiet hr, by decide⟩

end Loop

end Provenance
