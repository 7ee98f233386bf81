import Provenance.Proofs.Repository.Interleaving
import Provenance.Proofs.Subscription.Preparation

/-!
# Failed calls

A call takes a subscription or drops one: it takes a step on the store, and then it tells the
scheduler.  Whatever is wrong with the call itself is found on the way to the store, before anything
has changed.  The scheduler is told last, and there the call can fail once more, if the loop takes
no commands any more.  Then the step on the store stays: a subscription is stored although it was
turned down, and its name is taken; or it is gone although it was not to be dropped.

Who drops a subscription while a tick is in flight waits for the report of the tick.  It answers who
waits, unless it breaks the loop.

## Main definitions

* `Call`, `Repository.call` — the calls about subscriptions.
* `Store.serve` — their step on the store, with the message that follows it.
* `Repository.SameSubscriptions` — nothing about subscriptions is different.

## Main results

* `Repository.call_eq` — a call is its step on the store, and then its message.
* `Repository.turnedDown_again` — what was turned down for want of a scheduler has taken its name.
* `Repository.changes_of_failure` — **what a failed call has changed.**
-/

namespace Provenance

/-- A call about a subscription. -/
inductive Call
  | subscribe (sub : Subscription)
  | unsubscribe (name : String)

/-- The step of a call on the store, and what the scheduler is told after it. -/
def Store.serve (s : Store) : Call → Except Failure (Store × Command)
  | .subscribe sub => do
    let prepared ← sub.prepare
    let (after, stored) ← s.subscribe prepared
    .ok (after, .register stored)
  | .unsubscribe name =>
    if (s.findSubscription name).isNone then .error (.noSuchName name)
    else .ok (s.removeSubscription name, .remove name)

namespace Repository

/-- Takes a call. -/
def call (r : Repository) : Call → Repository × Except Failure (List Reply)
  | .subscribe sub => r.subscribe sub
  | .unsubscribe name => r.unsubscribe name

/-- Nothing about subscriptions is different: not what is stored of them and their parameters, not
what is pending for them, and not what is registered. -/
structure SameSubscriptions (r r' : Repository) : Prop where
  subscriptions : r'.store.subscriptions = r.store.subscriptions
  parameters : r'.store.parameters = r.store.parameters
  pending : r'.store.pending = r.store.pending
  entries : r'.loop.scheduler.entries = r.loop.scheduler.entries

theorem SameSubscriptions.refl (r : Repository) : r.SameSubscriptions r := ⟨rfl, rfl, rfl, rfl⟩

end Repository

/-! ### The step on the store -/

namespace Store

variable {s after : Store} {m : Command}

theorem serve_subscribe_eq_ok_iff {sub : Subscription} :
    s.serve (.subscribe sub) = .ok (after, m) ↔
      ∃ prepared stored, sub.prepare = .ok prepared ∧ s.subscribe prepared = .ok (after, stored) ∧
        m = .register stored := by
  rw [serve, bind_eq_ok_iff]
  refine exists_congr fun prepared => ?_
  constructor
  · rintro ⟨hprepare, h⟩
    obtain ⟨⟨mid, stored⟩, hsubscribe, h⟩ := bind_eq_ok_iff.1 h
    obtain ⟨rfl, rfl⟩ := Prod.mk.inj (Except.ok.inj h)
    exact ⟨stored, hprepare, hsubscribe, rfl⟩
  · rintro ⟨stored, hprepare, hsubscribe, rfl⟩
    exact ⟨hprepare, bind_eq_ok_iff.2 ⟨(after, stored), hsubscribe, rfl⟩⟩

theorem serve_unsubscribe_eq_ok_iff {name : String} :
    s.serve (.unsubscribe name) = .ok (after, m) ↔
      (s.findSubscription name).isSome = true ∧ after = s.removeSubscription name ∧
        m = .remove name := by
  rw [serve]
  cases s.findSubscription name with
  | none => simp
  | some id => simp [eq_comm]

/-- Nothing inside of the repository is missing when a call takes its step on the store. -/
theorem serve_ne_internal (s : Store) (c : Call) (f : InternalFault) :
    s.serve c ≠ .error (.internal f) := by
  cases c with
  | subscribe sub =>
    rw [serve]
    cases hprepare : sub.prepare with
    | error e =>
      have hne := Subscription.ne_internal_of_prepare hprepare f
      simpa [bind, Except.bind] using hne
    | ok prepared =>
      simp only [bind, Except.bind, subscribe]
      cases (s.findSubscription prepared.name).isSome with
      | true => simp
      | false =>
        cases s.addSubscription prepared with
        | ok added => simp
        | error e => cases e <;> simp [insertionFailure]
  | unsubscribe name =>
    rw [serve]
    split <;> simp

/-- The step of a call that succeeds makes one subscription more, or fewer. -/
theorem length_subscriptions_of_serve {c : Call} (h : s.serve c = .ok (after, m)) :
    after.subscriptions.length ≠ s.subscriptions.length := by
  cases c with
  | subscribe sub =>
    obtain ⟨prepared, stored, -, hsubscribe, -⟩ := serve_subscribe_eq_ok_iff.1 h
    obtain ⟨id, rfl, -⟩ := subscribe_eq_enroll hsubscribe
    simp [enroll]
  | unsubscribe name =>
    obtain ⟨hfound, rfl, -⟩ := serve_unsubscribe_eq_ok_iff.1 h
    obtain ⟨r, hr, hname⟩ : ∃ r ∈ s.subscriptions, r.name = name := by
      simpa [findSubscription] using hfound
    have hlt : (s.subscriptions.filter fun r => r.name != name).length <
        s.subscriptions.length :=
      List.length_filter_lt_length_iff_exists.2 ⟨r, hr, by simp [hname]⟩
    exact Nat.ne_of_lt hlt

end Store

/-! ### Callers that wait -/

namespace Loop

variable {l l' : Loop} {st : LoopStep} {rs : List Reply} {caller : Nat}

theorem waiting_command (l : Loop) (caller : Nat) (c : Command) :
    l.waiting ⊆ (l.command caller c).1.waiting := by
  cases c with
  | remove name =>
    rw [command]
    split
    · split
      · exact List.subset_append_left _ _
      · exact List.Subset.refl _
    · exact List.Subset.refl _
  | shutdown =>
    rw [command]
    split <;> exact List.Subset.refl _
  | _ => exact List.Subset.refl _

/-- Who removes an entry and is not answered waits. -/
theorem mem_waiting_of_remove {name : String} (h : (l.command caller (.remove name)).2 = []) :
    caller ∈ (l.command caller (.remove name)).1.waiting := by
  rw [command] at h ⊢
  split at h
  · next hhas =>
    split at h
    · next htick =>
      rw [if_pos hhas, if_pos htick]
      exact List.mem_append_right _ (List.mem_singleton.2 rfl)
    · exact absurd h (by simp)
  · exact absurd h (by simp)

/-- A report answers all who wait, or breaks the loop. -/
theorem answered_of_report {now : Instant} (h : l.report now = some (l', rs))
    (hw : caller ∈ l.waiting) : .removed caller true ∈ rs ∨ l'.phase = .broken := by
  obtain ⟨t, -, h⟩ := Option.bind_eq_some_iff.1 h
  split at h
  · exact absurd h (by simp)
  · split at h
    · obtain ⟨rfl, -⟩ := Prod.mk.inj (Option.some.inj h)
      exact .inr rfl
    · have htold : Reply.removed caller true ∈ l.waiting.map fun c => Reply.removed c true :=
        List.mem_map_of_mem hw
      simp only at h
      split at h <;> obtain ⟨rfl, rfl⟩ := Prod.mk.inj (Option.some.inj h)
      · exact .inl (List.mem_append_left _ htold)
      · exact .inl htold

/-- Who waits goes on to wait, or is answered, or the loop breaks. -/
theorem waiting_step (h : l.step st = some (l', rs)) (hw : caller ∈ l.waiting) :
    caller ∈ l'.waiting ∨ .removed caller true ∈ rs ∨ l'.phase = .broken := by
  cases st with
  | report now => exact .inr (answered_of_report h hw)
  | command other c =>
    refine .inl ?_
    rw [step] at h
    split at h
    · obtain rfl := congrArg Prod.fst (Option.some.inj h)
      exact waiting_command l other c hw
    · exact absurd h (by simp)
  | tick now =>
    refine .inl ?_
    rw [step] at h
    split at h
    · obtain rfl := congrArg Prod.fst (Option.some.inj h)
      unfold startTick
      split <;> exact hw
    · exact absurd h (by simp)
  | start n =>
    cases change_of_step h <;> exact .inl hw
  | finish n r =>
    cases change_of_step h
    exact .inl hw

/-- A loop that broke stays broken. -/
theorem Change.broken (h : l.Change st l') (hl : l.phase = .broken) : l'.phase = .broken := by
  cases h with
  | command h => rw [h] at hl; cases hl
  | tick h => rw [h] at hl; cases hl
  | overrun => rfl
  | report => simp [hl, LoopPhase.reported]
  | _ => exact hl

/-- So it is after any number of steps. -/
theorem waiting_run (hw : caller ∈ l.waiting) (sts : List LoopStep) :
    caller ∈ (l.run sts).waiting ∨ .removed caller true ∈ l.replies sts ∨
      (l.run sts).phase = .broken := by
  induction sts generalizing l with
  | nil => exact .inl hw
  | cons st sts ih =>
    rw [run, replies]
    rcases l.next_cases st with hnone | ⟨hstep, -⟩
    · rw [hnone]
      exact ih hw
    · rcases waiting_step hstep hw with hw | htold | hbroken
      · rcases ih hw with hw | htold | hbroken
        · exact .inl hw
        · exact .inr (.inl (List.mem_append_right _ htold))
        · exact .inr (.inr hbroken)
      · exact .inr (.inl (List.mem_append_left _ htold))
      · exact .inr (.inr (run_induction (P := fun l => l.phase = .broken)
          (fun _ _ _ hl hc => hc.broken hl) hbroken sts))

end Loop

/-! ### Calls -/

namespace Repository

variable {r : Repository} {c : Call}

/-- **A call is a step on the store**, and then a message to the scheduler. -/
theorem call_eq (r : Repository) (c : Call) :
    r.call c =
      match r.store.serve c with
      | .error f => (r, .error f)
      | .ok (after, m) => { r with store := after }.ask 0 m := by
  cases c with
  | subscribe sub =>
    rw [call, subscribe, Store.serve]
    cases sub.prepare with
    | error f => rfl
    | ok prepared =>
      simp only [bind, Except.bind]
      cases r.store.subscribe prepared <;> rfl
  | unsubscribe name =>
    rw [call, unsubscribe, Store.serve]
    split <;> rfl

/-- A loop that takes commands is told. -/
theorem ask_of_accepting (h : r.loop.phase = .accepting) (m : Command) :
    r.ask 0 m = ({ r with loop := (r.loop.command 0 m).1 }, .ok (r.loop.command 0 m).2) := by
  rw [ask, Loop.step, if_pos h]

/-- One that takes none is not. -/
theorem ask_of_not_accepting (h : r.loop.phase ≠ .accepting) (m : Command) :
    r.ask 0 m = (r, .error (.internal .schedulerStopped)) := by
  rw [ask, Loop.step, if_neg h]

theorem call_of_serve_error {f : Failure} (h : r.store.serve c = .error f) :
    r.call c = (r, .error f) := by
  rw [call_eq, h]

theorem call_of_accepting {after : Store} {m : Command} (h : r.store.serve c = .ok (after, m))
    (hphase : r.loop.phase = .accepting) :
    r.call c = (⟨after, (r.loop.command 0 m).1⟩, .ok (r.loop.command 0 m).2) := by
  rw [call_eq, h]
  exact ask_of_accepting (r := { r with store := after }) hphase m

theorem call_of_not_accepting {after : Store} {m : Command}
    (h : r.store.serve c = .ok (after, m)) (hphase : r.loop.phase ≠ .accepting) :
    r.call c = ({ r with store := after }, .error (.internal .schedulerStopped)) := by
  rw [call_eq, h]
  exact ask_of_not_accepting (r := { r with store := after }) hphase m

/-- A call fails because of itself, or because the loop takes no commands. -/
theorem call_eq_error_iff {f : Failure} :
    (r.call c).2 = .error f ↔
      r.store.serve c = .error f ∨
        f = .internal .schedulerStopped ∧ r.loop.phase ≠ .accepting ∧
          ∃ after m, r.store.serve c = .ok (after, m) := by
  cases hserve : r.store.serve c with
  | error f' =>
    rw [call_of_serve_error hserve]
    simp
  | ok served =>
    obtain ⟨after, m⟩ := served
    by_cases hphase : r.loop.phase = .accepting
    · rw [call_of_accepting hserve hphase]
      simp [hphase]
    · rw [call_of_not_accepting hserve hphase]
      simp [hphase, eq_comm]

/-- A subscription that was turned down for want of a scheduler is turned down for its name if it
comes again. -/
theorem turnedDown_again {sub again prepared : Subscription}
    (h : (r.call (.subscribe sub)).2 = .error (.internal .schedulerStopped))
    (hagain : again.prepare = .ok prepared) (hname : again.name = sub.name) :
    ((r.call (.subscribe sub)).1.call (.subscribe again)).2 =
      .error (.notPermitted (.nameTaken sub.name)) := by
  rcases call_eq_error_iff.1 h with hserve | ⟨-, hphase, after, m, hserve⟩
  · exact absurd hserve (Store.serve_ne_internal _ _ _)
  rw [call_of_not_accepting hserve hphase, call_of_serve_error]
  obtain ⟨first, stored, hfirst, hsubscribe, -⟩ := Store.serve_subscribe_eq_ok_iff.1 hserve
  have hfirstName := (Subscription.prepared_of_prepare hfirst).name_eq
  have hagainName := (Subscription.prepared_of_prepare hagain).name_eq
  have htaken : (after.findSubscription prepared.name).isSome = true := by
    obtain ⟨id, -, rfl⟩ := Store.subscribe_eq_enroll hsubscribe
    rw [Store.isSome_findSubscription_of_subscribe hsubscribe, Command.leaves, if_pos]
    · rfl
    · exact hfirstName.trans (hname.symm.trans hagainName.symm)
  rw [Store.serve, hagain]
  simp only [bind, Except.bind, Store.subscribe, if_pos htaken]
  rw [hagainName, hname]

/-- A call that has taken its step on the store has changed something. -/
theorem not_sameSubscriptions_of_serve {r' : Repository} {m : Command}
    (h : r.store.serve c = .ok (r'.store, m)) : ¬r.SameSubscriptions r' := fun hsame =>
  Store.length_subscriptions_of_serve h (congrArg List.length hsame.subscriptions)

/-- **What a failed call has changed.**  A call that fails for what is wrong with it, with the names
that are taken or with the store leaves the repository as it was.  If it fails for want of a
scheduler, the scheduler is as it was, but the store is not: the call has taken its step on the
store, as if it had succeeded.  That is so whenever the loop takes no commands and the call could
take its step.

A call that has got no answer yet drops a subscription while a tick is in flight.  Whatever the loop
does then, the caller is told of success, or waits, or the loop has broken; in that last case, too,
the subscription is gone. -/
theorem changes_of_failure (r : Repository) (c : Call) :
    (∀ f, (r.call c).2 = .error f →
      (r.call c).1.loop = r.loop ∧
      (f ≠ .internal .schedulerStopped → (r.call c).1 = r) ∧
      (f = .internal .schedulerStopped → ¬r.SameSubscriptions (r.call c).1)) ∧
    ((r.call c).2 = .error (.internal .schedulerStopped) ↔
      r.loop.phase ≠ .accepting ∧ ∃ after m, r.store.serve c = .ok (after, m)) ∧
    (∀ after m, r.store.serve c = .ok (after, m) → (r.call c).1.store = after) ∧
    ((r.call c).2 = .ok [] →
      ¬r.SameSubscriptions (r.call c).1 ∧
      ∀ sts, 0 ∈ ((r.call c).1.loop.run sts).waiting ∨
        .removed 0 true ∈ (r.call c).1.loop.replies sts ∨
        ((r.call c).1.loop.run sts).phase = .broken) := by
  cases hserve : r.store.serve c with
  | error f' =>
    have hne : f' ≠ .internal .schedulerStopped := by
      rintro rfl
      exact Store.serve_ne_internal _ _ _ hserve
    rw [call_of_serve_error hserve]
    refine ⟨fun f hf => ⟨rfl, fun _ => rfl, fun hstopped => ?_⟩, ?_, by simp, by simp⟩
    · exact absurd ((Except.error.inj hf).trans hstopped) hne
    · simpa using hne
  | ok served =>
    obtain ⟨after, m⟩ := served
    by_cases hphase : r.loop.phase = .accepting
    · have hcall := call_of_accepting hserve hphase
      have hchanged : ¬r.SameSubscriptions (r.call c).1 := by
        rw [hcall]
        exact not_sameSubscriptions_of_serve hserve
      refine ⟨fun f hf => ?_, ?_, fun after' m' h => ?_, fun hnone => ⟨hchanged, fun sts => ?_⟩⟩
      · rw [hcall] at hf
        exact absurd hf (by simp)
      · simp [hcall, hphase]
      · rw [hcall, ← (Prod.mk.inj (Except.ok.inj h)).1]
      · -- only who drops a subscription is left without an answer
        rw [hcall] at hnone ⊢
        refine Loop.waiting_run ?_ sts
        cases c with
        | subscribe sub =>
          obtain ⟨prepared, stored, -, -, rfl⟩ := Store.serve_subscribe_eq_ok_iff.1 hserve
          exact absurd (Except.ok.inj hnone) (by simp [Loop.command])
        | unsubscribe name =>
          obtain ⟨-, -, rfl⟩ := Store.serve_unsubscribe_eq_ok_iff.1 hserve
          exact Loop.mem_waiting_of_remove (Except.ok.inj hnone)
    · have hcall := call_of_not_accepting hserve hphase
      rw [hcall]
      refine ⟨fun f hf => ⟨rfl, fun hne => absurd (Except.error.inj hf).symm hne, fun _ => ?_⟩,
        ?_, fun after' m' h => (Prod.mk.inj (Except.ok.inj h)).1, by simp⟩
      · exact not_sameSubscriptions_of_serve hserve
      · simp [hphase]

/-- A repository whose scheduler was shut down. -/
def stopped : Repository :=
  ⟨.empty, (Loop.start Loop.strictSettings []).run [.command 0 .shutdown]⟩

/-- A subscription is stored although it was turned down. -/
theorem stored_stopped :
    (stopped.call (.subscribe Loop.promptSubscription)).2 =
        .error (.internal .schedulerStopped) ∧
      ¬stopped.SameSubscriptions (stopped.call (.subscribe Loop.promptSubscription)).1 ∧
      (stopped.call (.subscribe Loop.promptSubscription)).1.store.subscriptions =
        [Loop.promptSubscription.row 1] := by
  have hprepare : Loop.promptSubscription.prepare = .ok Loop.promptSubscription := by
    decide +kernel
  have hadd : Store.empty.addSubscription Loop.promptSubscription =
      .ok (Store.empty.enroll Loop.promptSubscription 1, 1) :=
    Store.addSubscription_of_admitsAll (by simp [Store.empty]) (by decide) (by decide +kernel)
  have hsubscribe : Store.empty.subscribe Loop.promptSubscription =
      .ok (Store.empty.enroll Loop.promptSubscription 1, Loop.promptSubscription) :=
    Store.subscribe_eq_ok_iff.2 ⟨by decide, 1, hadd, rfl⟩
  have hserve : stopped.store.serve (.subscribe Loop.promptSubscription) =
      .ok (Store.empty.enroll Loop.promptSubscription 1,
        .register Loop.promptSubscription) :=
    Store.serve_subscribe_eq_ok_iff.2 ⟨_, _, hprepare, hsubscribe, rfl⟩
  have hphase : stopped.loop.phase ≠ .accepting := by decide
  obtain ⟨hchanges, hstopped, hstore, -⟩ :=
    changes_of_failure stopped (.subscribe Loop.promptSubscription)
  have hfailed := hstopped.2 ⟨hphase, _, _, hserve⟩
  refine ⟨hfailed, (hchanges _ hfailed).2.2 rfl, ?_⟩
  rw [hstore _ _ hserve]
  rfl

end Repository

end Provenance
