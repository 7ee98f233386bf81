import Provenance.Proofs.Scheduler.Registry
import Provenance.Scheduler.Loop

/-!
# The steps of the loop

What each step of the loop does, told once, for all that is proved of runs.  Evaluations are known
by the stamps of their entries: a tick collects each entry at most once, and its evaluations wait,
run and end without getting lost, so in all states of a tick the stamps in flight are the same.

## Main definitions

* `Tick.stamps`, `Loop.inFlight` — the stamps of the evaluations of a tick.
* `Loop.Change` — the steps that can be taken, each with its outcome.
* `Loop.Stamped` — what holds of stamps.

## Main results

* `Loop.change_of_step` — **every step is one of those.**
* `Loop.Change.inFlight` — the stamps in flight after a step.
* `Loop.Stamped.change` — each stamp is in flight at most once.
-/

namespace Provenance

/-- The stamps of the evaluations of a tick. -/
def Tick.stamps (t : Tick) : List Nat :=
  t.queued.map Due.stamp ++ (t.running.map Due.stamp ++ t.ended.map Evaluated.stamp)

/-- What a command changes in the registry. -/
def Scheduler.obey (s : Scheduler) : Command → Scheduler
  | .register sub => s.register sub
  | .remove name => s.remove name
  | .captured => s.markDue
  | .names | .shutdown => s

theorem Scheduler.remove_of_not_has {s : Scheduler} {name : String} (h : s.has name = false) :
    s.remove name = s := by
  have hall : ∀ e ∈ s.entries, (e.subscription.name != name) = true := by
    simpa [has] using h
  rw [remove, List.filter_eq_self.2 hall]

/-- The phase after a report. -/
def LoopPhase.reported : LoopPhase → LoopPhase
  | .closing _ => .closed
  | phase => phase

namespace Loop

/-- The stamps of the evaluations in flight. -/
def inFlight (l : Loop) : List Nat := (l.tick.map Tick.stamps).getD []

/-- What the steps that can be taken lead to. -/
inductive Change (l : Loop) : LoopStep → Loop → Prop
  | command (h : l.phase = .accepting) (caller : Nat) (c : Command) :
      Change l (.command caller c) (l.command caller c).1
  | tick (h : l.phase = .accepting) (now : Instant) : Change l (.tick now) (l.startTick now)
  | start {t : Tick} {n : Nat} {d : Due} {queued : List Due} (ht : l.tick = some t)
      (hd : takeDue n t.queued = some (d, queued))
      (hroom : t.running.length < l.scheduler.maxConcurrency)
      (hlive : l.scheduler.isLive n = true) :
      Change l (.start n) { l with tick := some ⟨queued, t.running ++ [d], t.ended⟩ }
  | skip {t : Tick} {n : Nat} {d : Due} {queued : List Due} (ht : l.tick = some t)
      (hd : takeDue n t.queued = some (d, queued))
      (hroom : t.running.length < l.scheduler.maxConcurrency)
      (hlive : l.scheduler.isLive n = false) :
      Change l (.start n)
        { l with tick := some ⟨queued, t.running, t.ended ++ [⟨n, d.subscription.name, none⟩]⟩ }
  | finish {t : Tick} {n : Nat} {d : Due} {running : List Due} {r : Except RunFailure Outcome}
      (ht : l.tick = some t) (hd : takeDue n t.running = some (d, running)) :
      Change l (.finish n r)
        { l with tick := some ⟨t.queued, running, t.ended ++ [⟨n, d.subscription.name, some r⟩]⟩ }
  /-- A report breaks the loop. -/
  | overrun {t : Tick} {now : Instant} (ht : l.tick = some t) (hover : t.isOver = true)
      (h : l.scheduler.overruns now t.ended = true) :
      Change l (.report now) { l with tick := none, waiting := [], phase := .broken }
  | report {t : Tick} {now : Instant} (ht : l.tick = some t) (hover : t.isOver = true)
      (h : l.scheduler.overruns now t.ended = false) :
      Change l (.report now)
        { scheduler := l.scheduler.settle now t.ended
          tick := none
          waiting := []
          phase := l.phase.reported }

variable {l l' : Loop} {st : LoopStep} {rs : List Reply}

theorem change_of_startEvaluation {n : Nat} (h : l.startEvaluation n = some l') :
    l.Change (.start n) l' := by
  obtain ⟨t, ht, h⟩ := Option.bind_eq_some_iff.1 h
  obtain ⟨⟨d, queued⟩, hd, h⟩ := Option.bind_eq_some_iff.1 h
  simp only at h
  split at h
  · exact absurd h (by simp)
  · next hroom =>
    have hroom := Nat.lt_of_not_le hroom
    split at h
    · next hlive =>
      obtain rfl := Option.some.inj h
      exact .start ht hd hroom hlive
    · next hlive =>
      obtain rfl := Option.some.inj h
      exact .skip ht hd hroom (Bool.eq_false_iff.2 hlive)

theorem change_of_finishEvaluation {n : Nat} {r : Except RunFailure Outcome}
    (h : l.finishEvaluation n r = some l') : l.Change (.finish n r) l' := by
  obtain ⟨t, ht, h⟩ := Option.bind_eq_some_iff.1 h
  obtain ⟨⟨d, running⟩, hd, h⟩ := Option.bind_eq_some_iff.1 h
  obtain rfl := Option.some.inj h
  exact .finish ht hd

theorem change_of_report {now : Instant} (h : l.report now = some (l', rs)) :
    l.Change (.report now) l' := by
  obtain ⟨t, ht, h⟩ := Option.bind_eq_some_iff.1 h
  split at h
  · exact absurd h (by simp)
  · next hover =>
    have hover : t.isOver = true := by simpa using hover
    split at h
    · next hoverrun =>
      obtain ⟨rfl, -⟩ := Prod.mk.inj (Option.some.inj h)
      exact .overrun ht hover hoverrun
    · -- the phases differ in what is replied, and in whether the loop is closed
      next hoverrun =>
      have hoverrun := Bool.eq_false_iff.2 hoverrun
      have hreport : l.Change (.report now) _ := .report ht hover hoverrun
      cases hphase : l.phase <;>
        simp only [hphase, LoopPhase.reported, Option.some.injEq, Prod.mk.injEq] at h hreport <;>
        exact h.1 ▸ hreport

/-- **Every step that can be taken is a change.** -/
theorem change_of_step (h : l.step st = some (l', rs)) : l.Change st l' := by
  cases st with
  | command caller c =>
    rw [step] at h
    split at h
    · next hphase =>
      obtain rfl := congrArg Prod.fst (Option.some.inj h)
      exact .command hphase caller c
    · exact absurd h (by simp)
  | tick now =>
    rw [step] at h
    split at h
    · next hphase =>
      obtain rfl := congrArg Prod.fst (Option.some.inj h)
      exact .tick hphase now
    · exact absurd h (by simp)
  | start n =>
    obtain ⟨k, hk, h⟩ := Option.map_eq_some_iff.1 h
    obtain rfl := congrArg Prod.fst h
    exact change_of_startEvaluation hk
  | finish n r =>
    obtain ⟨k, hk, h⟩ := Option.map_eq_some_iff.1 h
    obtain rfl := congrArg Prod.fst h
    exact change_of_finishEvaluation hk
  | report now => exact change_of_report h

/-! ### What steps do to the registry and the tick -/

theorem scheduler_command (l : Loop) (caller : Nat) (c : Command) :
    (l.command caller c).1.scheduler = l.scheduler.obey c := by
  cases c with
  | remove name =>
    rw [command]
    split
    · split <;> rfl
    · next h => exact (Scheduler.remove_of_not_has (Bool.eq_false_iff.2 h)).symm
  | shutdown =>
    rw [command]
    split <;> rfl
  | _ => rfl

theorem tick_command (l : Loop) (caller : Nat) (c : Command) :
    (l.command caller c).1.tick = l.tick := by
  cases c with
  | remove name =>
    rw [command]
    split
    · split <;> rfl
    · rfl
  | shutdown =>
    rw [command]
    split <;> rfl
  | _ => rfl

theorem startTick_of_isSome (h : l.tick.isSome = true) (now : Instant) : l.startTick now = l :=
  if_pos h

theorem scheduler_startTick (h : l.tick = none) (now : Instant) :
    (l.startTick now).scheduler = (l.scheduler.collect now).1 := by
  simp [startTick, h]

theorem inFlight_startTick (h : l.tick = none) (now : Instant) :
    (l.startTick now).inFlight = (l.scheduler.due now).map Due.stamp := by
  have hdue : (l.scheduler.collect now).2 = l.scheduler.due now := rfl
  cases hds : l.scheduler.due now <;>
    simp [startTick, inFlight, h, hdue, hds, Tick.start, Tick.stamps]

theorem stamp_of_takeDue {n : Nat} {ds rest : List Due} {d : Due}
    (h : takeDue n ds = some (d, rest)) : d.stamp = n := by
  induction ds generalizing rest with
  | nil => exact absurd h (by simp [takeDue])
  | cons e ds ih =>
    rw [takeDue] at h
    split at h
    · next hstamp =>
      obtain ⟨rfl, -⟩ := Prod.mk.inj (Option.some.inj h)
      exact hstamp
    · obtain ⟨⟨found, others⟩, hfound, h⟩ := Option.map_eq_some_iff.1 h
      obtain ⟨rfl, -⟩ := Prod.mk.inj h
      exact ih hfound

/-- What is taken out of a list is missing once. -/
theorem count_of_takeDue {n : Nat} {ds rest : List Due} {d : Due}
    (h : takeDue n ds = some (d, rest)) (m : Nat) :
    (ds.map Due.stamp).count m = (rest.map Due.stamp).count m + [n].count m := by
  induction ds generalizing rest with
  | nil => exact absurd h (by simp [takeDue])
  | cons e ds ih =>
    rw [takeDue] at h
    split at h
    · next hstamp =>
      obtain ⟨-, rfl⟩ := Prod.mk.inj (Option.some.inj h)
      rw [List.map_cons, hstamp, List.count_cons, List.count_singleton]
    · obtain ⟨⟨found, others⟩, hfound, h⟩ := Option.map_eq_some_iff.1 h
      obtain ⟨rfl, rfl⟩ := Prod.mk.inj h
      rw [List.map_cons, List.map_cons, List.count_cons, List.count_cons, ih hfound]
      omega

/-! ### Stamps in flight -/

/-- The stamps in flight after a step. -/
theorem Change.inFlight (h : l.Change st l') :
    (l'.inFlight.Perm l.inFlight ∧ ∀ now, st ≠ .report now) ∨ l'.inFlight = [] ∨
      ∃ now, st = .tick now ∧ l.tick = none ∧
        l'.inFlight = (l.scheduler.due now).map Due.stamp := by
  -- evaluations that move on within a tick keep their stamps
  have hwork {t t' : Tick} (ht : l.tick = some t)
      (hcount : ∀ m, t'.stamps.count m = t.stamps.count m) :
      ({ l with tick := some t' } : Loop).inFlight.Perm l.inFlight := by
    simpa [Loop.inFlight, ht] using List.perm_iff_count.2 hcount
  cases h with
  | command h caller c =>
    refine .inl ⟨?_, by simp⟩
    rw [Loop.inFlight, tick_command]
    exact .refl _
  | tick h now =>
    cases htick : l.tick with
    | none => exact .inr (.inr ⟨now, rfl, rfl, inFlight_startTick htick now⟩)
    | some t =>
      refine .inl ⟨?_, by simp⟩
      rw [startTick_of_isSome (by rw [htick]; rfl)]
  | start ht hd hroom hlive =>
    refine .inl ⟨hwork ht fun m => ?_, by simp⟩
    have hcount := count_of_takeDue hd m
    have hstamp := stamp_of_takeDue hd
    simp only [Tick.stamps, List.map_append, List.map_cons, List.map_nil, List.count_append, hstamp]
    omega
  | skip ht hd hroom hlive =>
    refine .inl ⟨hwork ht fun m => ?_, by simp⟩
    have hcount := count_of_takeDue hd m
    simp only [Tick.stamps, List.map_append, List.map_cons, List.map_nil, List.count_append]
    omega
  | finish ht hd =>
    refine .inl ⟨hwork ht fun m => ?_, by simp⟩
    have hcount := count_of_takeDue hd m
    simp only [Tick.stamps, List.map_append, List.map_cons, List.map_nil, List.count_append]
    omega
  | overrun => exact .inr (.inl rfl)
  | report => exact .inr (.inl rfl)

/-- Each stamp is in flight at most once and was given to an entry. -/
structure Stamped (l : Loop) : Prop where
  scheduler : l.scheduler.Stamped
  nodup : l.inFlight.Nodup
  lt_next : ∀ n ∈ l.inFlight, n < l.scheduler.nextStamp

/-- A step keeps the entries as they should be, and takes back no stamp that was given. -/
theorem Change.scheduler (h : l.Change st l') (hl : l.scheduler.Stamped) :
    l'.scheduler.Stamped ∧ l.scheduler.nextStamp ≤ l'.scheduler.nextStamp := by
  cases h with
  | command h caller c =>
    rw [scheduler_command]
    cases c with
    | register sub => exact ⟨hl.register sub, Nat.le_succ _⟩
    | remove name => exact ⟨hl.remove name, Nat.le_refl _⟩
    | captured => exact ⟨hl.markDue, Nat.le_refl _⟩
    | names => exact ⟨hl, Nat.le_refl _⟩
    | shutdown => exact ⟨hl, Nat.le_refl _⟩
  | tick h now =>
    cases htick : l.tick with
    | none =>
      rw [scheduler_startTick htick]
      exact ⟨hl.collect now, Nat.le_refl _⟩
    | some t =>
      rw [startTick_of_isSome (by rw [htick]; rfl)]
      exact ⟨hl, Nat.le_refl _⟩
  | report => exact ⟨hl.settle _ _, Nat.le_of_eq (l.scheduler.frame_settle _ _).1.symm⟩
  | _ => exact ⟨hl, Nat.le_refl _⟩

theorem Change.retry (h : l.Change st l') : l'.scheduler.retry = l.scheduler.retry := by
  cases h with
  | command h caller c =>
    rw [scheduler_command]
    cases c <;> rfl
  | tick h now =>
    cases htick : l.tick with
    | none =>
      rw [scheduler_startTick htick]
      rfl
    | some t => rw [startTick_of_isSome (by rw [htick]; rfl)]
  | report => exact (l.scheduler.frame_settle _ _).2.1
  | _ => rfl

/-- **Each stamp stays in flight at most once.** -/
theorem Stamped.change (h : l.Stamped) (hc : l.Change st l') : l'.Stamped := by
  obtain ⟨hentries, hnext⟩ := hc.scheduler h.scheduler
  rcases hc.inFlight with ⟨hperm, -⟩ | hnil | ⟨now, rfl, htick, hdue⟩
  · refine ⟨hentries, hperm.nodup_iff.2 h.nodup, fun n hn => ?_⟩
    exact Nat.lt_of_lt_of_le (h.lt_next n (hperm.mem_iff.1 hn)) hnext
  · exact ⟨hentries, hnil ▸ .nil, fun n hn => by simp [hnil] at hn⟩
  · -- a tick collects some of the entries, each of them once
    have hstamps : (l.scheduler.due now).map Due.stamp =
        (l.scheduler.entries.filter fun e => e.fires now).map Entry.stamp := by
      rw [Scheduler.due, List.map_map]
      rfl
    refine ⟨hentries, ?_, fun n hn => ?_⟩
    · rw [hdue, hstamps]
      exact h.scheduler.nodup.sublist (List.filter_sublist.map _)
    · rw [hdue, hstamps] at hn
      obtain ⟨e, he, rfl⟩ := List.mem_map.1 hn
      exact Nat.lt_of_lt_of_le (h.scheduler.lt_next e (List.mem_filter.1 he).1) hnext

/-- What has ended is in flight until the report. -/
theorem mem_inFlight_of_ended {t : Tick} (ht : l.tick = some t) {v : Evaluated}
    (hv : v ∈ t.ended) : v.stamp ∈ l.inFlight := by
  rw [inFlight, ht]
  exact List.mem_append_right _ (List.mem_append_right _ (List.mem_map_of_mem hv))

theorem Stamped.ended_nodup (h : l.Stamped) {t : Tick} (ht : l.tick = some t) :
    (t.ended.map Evaluated.stamp).Nodup := by
  have hall := h.nodup
  rw [inFlight, ht] at hall
  exact (List.nodup_append.1 (List.nodup_append.1 hall).2.1).2.1

theorem stamped_ofScheduler {s : Scheduler} (h : s.Stamped) : (ofScheduler s).Stamped :=
  ⟨h, .nil, fun _ hn => absurd hn List.not_mem_nil⟩

end Loop

end Provenance
