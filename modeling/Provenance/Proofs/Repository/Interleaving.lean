import Mathlib.Data.List.Perm.Basic
import Provenance.Proofs.Delivery.Session
import Provenance.Proofs.Event.Fetch
import Provenance.Proofs.Scheduler.Removal
import Provenance.Repository.Basic

/-!
# Calls side by side

To take a subscription is a step on the store and then a message to the scheduler, and so it is to
drop one.  Nothing keeps calls apart: between the two steps of a call there may be steps of others,
of the scheduler, and of whatever else changes the store.  So messages may come to the scheduler in
another order than the steps on the store were taken.

Each step on the store sets whether a name is stored, and its message sets whether the name is
registered.  When all messages have come, the two agree on a name exactly if the message that came
last is the one of the last step on the store.  This is so if calls for the name do not overlap;
where they do, a subscription that was dropped may stay registered, and one that is stored may not
be registered.

## Main definitions

* `Command.leaves`, `lastLeft` — what messages leave of a name.
* `Scheduler.subscriptions` — the registered subscriptions.
* `Calls`, `CallStep`, `Calls.step` — a repository with the calls under way.
* `Calls.Separate` — calls for a name do not overlap.

## Main results

* `Calls.subscribe_eq`, `Calls.unsubscribe_eq` — a call by itself is its two steps.
* `Calls.Tracked.step` — what is stored and registered follows from the steps.
* `Calls.agree_at_rest` — **when the registry and the store agree.**
-/

namespace Provenance

/-! ### Names -/

/-- What a message leaves of a name, if it is about it: whether the name is there afterwards. -/
def Command.leaves (name : String) : Command → Option Bool
  | .register sub => if sub.name = name then some true else none
  | .remove other => if other = name then some false else none
  | _ => none

theorem Command.isSome_leaves_register (name : String) (sub : Subscription) :
    ((register sub).leaves name).isSome = (sub.name == name) := by
  by_cases h : sub.name = name <;> simp [leaves, h]

theorem Command.isSome_leaves_remove (name other : String) :
    ((remove other).leaves name).isSome = (other == name) := by
  by_cases h : other = name <;> simp [leaves, h]

/-- What messages leave of a name, each of those that are about it. -/
def allLeft (name : String) (ms : List Command) : List Bool := ms.filterMap (Command.leaves name)

/-- What the last message about a name leaves of it. -/
def lastLeft (name : String) (ms : List Command) : Option Bool := (allLeft name ms).getLast?

@[simp] theorem allLeft_append (name : String) (ms ms' : List Command) :
    allLeft name (ms ++ ms') = allLeft name ms ++ allLeft name ms' :=
  List.filterMap_append

@[simp] theorem allLeft_cons (name : String) (m : Command) (ms : List Command) :
    allLeft name (m :: ms) = (m.leaves name).toList ++ allLeft name ms := by
  cases h : m.leaves name <;> simp [allLeft, h]

@[simp] theorem allLeft_nil (name : String) : allLeft name [] = [] := rfl

theorem lastLeft_concat (name : String) (ms : List Command) (m : Command) :
    lastLeft name (ms ++ [m]) = (m.leaves name).or (lastLeft name ms) := by
  cases h : m.leaves name <;> simp [lastLeft, h]

theorem getD_lastLeft_concat (name : String) (ms : List Command) (m : Command) (b : Bool) :
    (lastLeft name (ms ++ [m])).getD b = (m.leaves name).getD ((lastLeft name ms).getD b) := by
  rw [lastLeft_concat]
  cases m.leaves name <;> rfl

namespace Scheduler

/-- The registered subscriptions, in the order in which they were registered. -/
def subscriptions (s : Scheduler) : List Subscription := s.entries.map Entry.subscription

theorem has_eq (s : Scheduler) (name : String) :
    s.has name = (s.subscriptions.map Subscription.name).contains name := by
  rw [has, subscriptions, List.map_map, List.contains_eq_any_beq, List.any_map]
  refine List.any_congr rfl fun e => ?_
  rw [Function.comp_apply, Function.comp_apply, Bool.eq_iff_iff, beq_iff_eq, beq_iff_eq]
  exact eq_comm

theorem has_obey (s : Scheduler) (c : Command) (name : String) :
    (s.obey c).has name = (c.leaves name).getD (s.has name) := by
  cases c with
  | register sub =>
    simp only [obey, register, has, Entry.make, List.any_append, List.any_filter, List.any_cons,
      List.any_nil, Bool.or_false, Command.leaves]
    split
    · next h => simp [h]
    · next h =>
      -- entries of the name are kept, for the new one has another
      have hne : (sub.name == name) = false := by simpa using h
      rw [hne, Bool.or_false]
      refine List.any_congr rfl fun e => ?_
      by_cases he : e.subscription.name = name
      · simp [he, Ne.symm h]
      · simp [he]
  | remove other =>
    simp only [obey, remove, has, List.any_filter, Command.leaves]
    split
    · next h =>
      rw [Option.getD_some, List.any_eq_false]
      intro e he
      simp [h]
    · next h =>
      refine List.any_congr rfl fun e => ?_
      by_cases he : e.subscription.name = name
      · simp [he, Ne.symm h]
      · simp [he]
  | captured =>
    rw [obey, markDue, has, List.any_map]
    rfl
  | names => rfl
  | shutdown => rfl

theorem has_ofSubscriptions (settings : SchedulerSettings) (subs : List Subscription)
    (name : String) : (ofSubscriptions settings subs).has name =
      (subs.map Subscription.name).contains name := by
  have hfold (s : Scheduler) : (subs.foldl register s).has name =
      (s.has name || (subs.map Subscription.name).contains name) := by
    induction subs generalizing s with
    | nil => simp
    | cons sub subs ih =>
      rw [List.foldl_cons, ih, show s.register sub = s.obey (.register sub) from rfl, has_obey]
      by_cases h : sub.name = name
      · simp [Command.leaves, h]
      · simp [Command.leaves, h, Ne.symm h]
  exact (hfold _).trans (Bool.false_or _)

end Scheduler

/-- Whether a step of the loop registers nothing and removes nothing. -/
def LoopStep.keepsNames : LoopStep → Bool
  | .command _ (.register _) | .command _ (.remove _) => false
  | _ => true

/-- Other steps of the loop leave the registered subscriptions as they are. -/
theorem Loop.Change.subscriptions {l l' : Loop} {st : LoopStep} (h : l.Change st l')
    (hst : st.keepsNames = true) : l'.scheduler.subscriptions = l.scheduler.subscriptions := by
  have hmap {s s' : Scheduler} {f : Entry → Entry} (hf : ∀ e, (f e).subscription = e.subscription)
      (hentries : s'.entries = s.entries.map f) : s'.subscriptions = s.subscriptions := by
    rw [Scheduler.subscriptions, hentries, List.map_map]
    exact List.map_congr_left fun e _ => hf e
  cases h with
  | command h caller c =>
    rw [Loop.scheduler_command]
    cases c with
    | register sub => exact absurd hst (by simp [LoopStep.keepsNames])
    | remove other => exact absurd hst (by simp [LoopStep.keepsNames])
    | captured => exact hmap (f := Entry.markDue) (fun _ => rfl) rfl
    | _ => rfl
  | tick h now =>
    cases htick : l.tick with
    | none =>
      rw [Loop.scheduler_startTick htick]
      refine hmap (f := fun e => if e.fires now then e.fired now else e) (fun e => ?_) rfl
      split <;> rfl
    | some t => rw [Loop.startTick_of_isSome (by rw [htick]; rfl)]
  | report => exact hmap (Entry.subscription_settleAll _ _) (Scheduler.entries_settle _ _ _)
  | _ => rfl

/-- So they leave the registered names as they are. -/
theorem Loop.Change.has {l l' : Loop} {st : LoopStep} (h : l.Change st l')
    (hst : st.keepsNames = true) (name : String) :
    l'.scheduler.has name = l.scheduler.has name := by
  rw [Scheduler.has_eq, Scheduler.has_eq, h.subscriptions hst]

/-- A loop that accepts commands has always done so. -/
theorem Loop.Change.accepting {l l' : Loop} {st : LoopStep} (h : l.Change st l')
    (hphase : l'.phase = .accepting) : l.phase = .accepting := by
  cases h with
  | command h => exact h
  | tick h => exact h
  | overrun => exact absurd hphase (by simp)
  | report =>
    cases hold : l.phase <;> simp [hold, LoopPhase.reported] at hphase ⊢
  | _ => exact hphase

namespace Store

theorem isSome_findSubscription (s : Store) (name : String) :
    (s.findSubscription name).isSome =
      (s.subscriptions.map SubscriptionRow.name).contains name := by
  rw [findSubscription, Option.isSome_map, List.isSome_find?, List.contains_eq_any_beq,
    List.any_map]
  refine List.any_congr rfl fun r => ?_
  rw [Function.comp_apply, Bool.eq_iff_iff, beq_iff_eq, beq_iff_eq]
  exact eq_comm

/-- A subscription is put in under a name that is free. -/
theorem subscribe_eq_ok_iff {s after : Store} {sub stored : Subscription} :
    s.subscribe sub = .ok (after, stored) ↔
      (s.findSubscription sub.name).isSome = false ∧
        ∃ id, s.addSubscription sub = .ok (after, id) ∧ stored = { sub with id := some id } := by
  rw [subscribe]
  cases (s.findSubscription sub.name).isSome with
  | true => simp
  | false =>
    cases s.addSubscription sub with
    | error e => simp
    | ok added => simp [Prod.ext_iff, eq_comm]

theorem subscribe_eq_enroll {s after : Store} {sub stored : Subscription}
    (h : s.subscribe sub = .ok (after, stored)) :
    ∃ id, after = s.enroll sub id ∧ stored = { sub with id := some id } := by
  obtain ⟨-, id, hadd, hstored⟩ := subscribe_eq_ok_iff.1 h
  exact ⟨id, (addSubscription_eq_enroll hadd).1, hstored⟩

/-- A subscription that was put in is stored. -/
theorem isSome_findSubscription_of_subscribe {s after : Store} {sub stored : Subscription}
    (h : s.subscribe sub = .ok (after, stored)) (name : String) :
    (after.findSubscription name).isSome =
      ((Command.register stored).leaves name).getD (s.findSubscription name).isSome := by
  obtain ⟨id, rfl, rfl⟩ := subscribe_eq_enroll h
  have hname : (sub.row id).name = sub.name := rfl
  rw [isSome_findSubscription, isSome_findSubscription, enroll, Command.leaves]
  by_cases hsub : sub.name = name
  · simp [hname, hsub]
  · simp [hname, hsub, Ne.symm hsub]

/-- A subscription that was taken out is not stored. -/
theorem isSome_findSubscription_removeSubscription (s : Store) (other name : String) :
    ((s.removeSubscription other).findSubscription name).isSome =
      ((Command.remove other).leaves name).getD (s.findSubscription name).isSome := by
  rw [isSome_findSubscription, isSome_findSubscription, removeSubscription, Command.leaves,
    Bool.eq_iff_iff]
  split
  · next h => simp [h]
  · next h =>
    simp only [List.contains_iff_mem, List.mem_map, List.mem_filter, Option.getD_none]
    refine ⟨fun ⟨r, hr, hname⟩ => ⟨r, hr.1, hname⟩, fun ⟨r, hr, hname⟩ => ⟨r, ⟨hr, ?_⟩, hname⟩⟩
    simpa [hname] using Ne.symm h

/-- The subscriptions that are listed are those that are stored. -/
theorem name_of_listSubscriptions {s : Store} {subs : List Subscription}
    (h : s.listSubscriptions = .ok subs) :
    subs.map Subscription.name = s.subscriptions.map SubscriptionRow.name := by
  obtain ⟨values, -, h⟩ := bind_eq_ok_iff.1 h
  refine map_eq_of_mapM (fun r sub hread => ?_) h
  obtain ⟨_, -, h⟩ := bind_eq_ok_iff.1 hread
  obtain ⟨_, -, h⟩ := bind_eq_ok_iff.1 h
  obtain ⟨_, -, h⟩ := bind_eq_ok_iff.1 h
  obtain ⟨_, -, h⟩ := bind_eq_ok_iff.1 h
  obtain rfl := Except.ok.inj h
  rfl

end Store

/-! ### Calls -/

/-- A repository with the calls under way on it. -/
structure Calls where
  repository : Repository
  /-- What calls have still to tell the scheduler. -/
  unsent : List Command
  /-- The messages of the steps on the store, in the order of the steps. -/
  stored : List Command
  /-- The messages that the scheduler was told, in that order. -/
  told : List Command

/-- What happens while calls are under way. -/
inductive CallStep
  /-- A call puts a subscription into the store, once it is found that its name is free. -/
  | subscribe (prepared : Subscription)
  /-- A call takes a subscription out of the store. -/
  | unsubscribe (name : String)
  /-- A call tells the scheduler. -/
  | tell (i : Nat)
  | schedule (st : LoopStep)
  | capture (request : CaptureRequest) (user : Option String) (recordTime : Instant)
  | acknowledge (scope : Scope)
  | refuse (refusals : List Refusal)

/-- Whether a step begins a call for a name. -/
def CallStep.isFor (name : String) : CallStep → Bool
  | .subscribe prepared => prepared.name == name
  | .unsubscribe other => other == name
  | _ => false

namespace Calls

/-- The step of a call on the store. -/
def keep (c : Calls) (after : Store) (m : Command) : Calls :=
  { c with
    repository := { c.repository with store := after }
    unsent := c.unsent ++ [m]
    stored := c.stored ++ [m] }

/-- Another step on the store. -/
def change (c : Calls) (after : Store) : Calls :=
  { c with repository := { c.repository with store := after } }

/-- Takes a step; what fails leaves everything as it was. -/
def step (c : Calls) : CallStep → Calls
  | .subscribe prepared =>
    match c.repository.store.subscribe prepared with
    | .ok (after, stored) => c.keep after (.register stored)
    | .error _ => c
  | .unsubscribe name =>
    if (c.repository.store.findSubscription name).isNone then c
    else c.keep (c.repository.store.removeSubscription name) (.remove name)
  | .tell i =>
    match c.unsent[i]? with
    | some m =>
      { c with
        repository := (c.repository.ask 0 m).1
        unsent := c.unsent.eraseIdx i
        told := c.told ++ [m] }
    | none => c
  | .schedule st =>
    if st.keepsNames then
      { c with repository := { c.repository with loop := (c.repository.loop.next st).1 } }
    else c
  | .capture request user recordTime =>
    match c.repository.store.captureChecked request user recordTime with
    | .ok (after, _) => c.change after
    | .error _ => c
  | .acknowledge scope => c.change (c.repository.store.acknowledge scope).1
  | .refuse refusals => c.change { c.repository.store with refusals := refusals }

/-- No call is under way, and the scheduler has the subscriptions that are stored. -/
def start (s : Store) (settings : SchedulerSettings) (subs : List Subscription) : Calls :=
  ⟨⟨s, .start settings subs⟩, [], [], []⟩

/-- Takes steps one after the other. -/
def run (c : Calls) (steps : List CallStep) : Calls := steps.foldl step c

/-- Whether a name is stored. -/
def isStored (c : Calls) (name : String) : Bool :=
  (c.repository.store.findSubscription name).isSome

/-- Whether a name is registered. -/
def isRegistered (c : Calls) (name : String) : Bool := c.repository.loop.scheduler.has name

/-- A call by itself that takes a subscription. -/
theorem subscribe_eq (r : Repository) {sub prepared : Subscription}
    (h : sub.prepare = .ok prepared) :
    (r.subscribe sub).1 =
      (run ⟨r, [], [], []⟩ [.subscribe prepared, .tell 0]).repository := by
  simp only [Repository.subscribe, h, run, List.foldl_cons, List.foldl_nil, step]
  cases r.store.subscribe prepared <;> rfl

/-- A call by itself that drops a subscription. -/
theorem unsubscribe_eq (r : Repository) (name : String) :
    (r.unsubscribe name).1 =
      (run ⟨r, [], [], []⟩ [.unsubscribe name, .tell 0]).repository := by
  simp only [Repository.unsubscribe, run, List.foldl_cons, List.foldl_nil, step]
  cases (r.store.findSubscription name) <;> rfl

/-! ### What is stored and registered -/

/-- What is stored follows from the steps on the store, and what is registered from the messages
that have come, which are the messages of those steps in some order. -/
structure Tracked (atStart : String → Bool) (c : Calls) : Prop where
  perm : c.stored.Perm (c.told ++ c.unsent)
  isStored_eq : ∀ name, c.isStored name = (lastLeft name c.stored).getD (atStart name)
  isRegistered_eq : c.repository.loop.phase = .accepting →
    ∀ name, c.isRegistered name = (lastLeft name c.told).getD (atStart name)

namespace Tracked

variable {atStart : String → Bool} {c : Calls}

theorem keep (h : c.Tracked atStart) {after : Store} {m : Command}
    (hafter : ∀ name, (after.findSubscription name).isSome =
      (m.leaves name).getD (c.isStored name)) : (c.keep after m).Tracked atStart where
  perm := by
    rw [Calls.keep, ← List.append_assoc]
    exact h.perm.append_right [m]
  isStored_eq := by
    intro name
    rw [Calls.keep, getD_lastLeft_concat, ← h.isStored_eq]
    exact hafter name
  isRegistered_eq := h.isRegistered_eq

theorem change (h : c.Tracked atStart) {after : Store}
    (hafter : after.subscriptions = c.repository.store.subscriptions) :
    (c.change after).Tracked atStart where
  perm := h.perm
  isStored_eq := by
    intro name
    rw [isStored, Calls.change, Store.isSome_findSubscription, hafter,
      ← Store.isSome_findSubscription]
    exact h.isStored_eq name
  isRegistered_eq := h.isRegistered_eq

theorem tell (h : c.Tracked atStart) {i : Nat} {m : Command} (hi : c.unsent[i]? = some m) :
    Tracked atStart
      { c with
        repository := (c.repository.ask 0 m).1
        unsent := c.unsent.eraseIdx i
        told := c.told ++ [m] } where
  perm := by
    obtain ⟨hlt, rfl⟩ := List.getElem?_eq_some_iff.1 hi
    refine h.perm.trans ?_
    rw [List.append_assoc, List.singleton_append]
    exact (List.getElem_cons_eraseIdx_perm hlt).symm.append_left _
  isStored_eq := by
    have hstore : (c.repository.ask 0 m).1.store = c.repository.store := by
      unfold Repository.ask
      split <;> rfl
    intro name
    rw [isStored, hstore]
    exact h.isStored_eq name
  isRegistered_eq := by
    intro hphase name
    rw [getD_lastLeft_concat]
    unfold Repository.ask at hphase ⊢
    cases hstep : c.repository.loop.step (.command 0 m) with
    | none =>
      -- only a loop that does not accept commands refuses one
      rw [hstep] at hphase
      rw [Loop.step, if_pos hphase] at hstep
      exact absurd hstep (by simp)
    | some after =>
      obtain ⟨l, rs⟩ := after
      rw [hstep] at hphase
      have hchange := Loop.change_of_step hstep
      rw [← h.isRegistered_eq (hchange.accepting hphase)]
      cases hchange with
      | command hbefore =>
        simp only [isRegistered]
        rw [Loop.scheduler_command, Scheduler.has_obey]

theorem schedule (h : c.Tracked atStart) {st : LoopStep} (hst : st.keepsNames = true) :
    Tracked atStart
      { c with
        repository := { c.repository with loop := (c.repository.loop.next st).1 } } where
  perm := h.perm
  isStored_eq := h.isStored_eq
  isRegistered_eq := by
    intro hphase name
    rcases c.repository.loop.next_cases st with hnone | ⟨-, hchange⟩
    · rw [hnone] at hphase
      rw [isRegistered, hnone]
      exact h.isRegistered_eq hphase name
    · rw [isRegistered, hchange.has hst]
      exact h.isRegistered_eq (hchange.accepting hphase) name

/-- **Each step keeps track** of what is stored and registered. -/
theorem step (h : c.Tracked atStart) (st : CallStep) : (c.step st).Tracked atStart := by
  cases st with
  | subscribe prepared =>
    rw [Calls.step]
    split
    · next after stored hok => exact h.keep (Store.isSome_findSubscription_of_subscribe hok)
    · exact h
  | unsubscribe name =>
    rw [Calls.step]
    split
    · exact h
    · exact h.keep (Store.isSome_findSubscription_removeSubscription _ name)
  | tell i =>
    rw [Calls.step]
    split
    · next m hi => exact h.tell hi
    · exact h
  | schedule st =>
    rw [Calls.step]
    split
    · next hst => exact h.schedule hst
    · exact h
  | capture request user recordTime =>
    rw [Calls.step]
    split
    · next after id hok =>
      obtain ⟨_, -, hcapture⟩ := bind_eq_ok_iff.1 hok
      obtain ⟨rfl, -⟩ := Store.capture_eq_record (mapError_eq_ok_iff.1 hcapture)
      exact h.change rfl
    · exact h
  | acknowledge scope => exact h.change (c.repository.store.acknowledge_frame scope).2.2
  | refuse refusals => exact h.change rfl

theorem run (h : c.Tracked atStart) (steps : List CallStep) : (c.run steps).Tracked atStart :=
  List.foldlRecOn steps Calls.step (motive := Tracked atStart) h fun _ hc st _ => hc.step st

end Tracked

theorem tracked_start {s : Store} {subs : List Subscription} (settings : SchedulerSettings)
    (h : s.listSubscriptions = .ok subs) :
    (start s settings subs).Tracked fun name => (s.findSubscription name).isSome where
  perm := .nil
  isStored_eq := fun _ => rfl
  isRegistered_eq := by
    intro _ name
    rw [Store.isSome_findSubscription, ← Store.name_of_listSubscriptions h]
    exact Scheduler.has_ofSubscriptions settings subs name

/-! ### Calls that do not overlap -/

/-- Calls for a name do not overlap: none begins while the message of another is still unsent. -/
def Separate (name : String) : Calls → List CallStep → Prop
  | _, [] => True
  | c, st :: sts =>
    (st.isFor name = true → allLeft name c.unsent = []) ∧ (c.step st).Separate name sts

/-- The messages about a name come in the order of the steps on the store, and at most one is still
unsent. -/
structure Ordered (name : String) (c : Calls) : Prop where
  stored_eq : allLeft name c.stored = allLeft name c.told ++ allLeft name c.unsent
  length_le : (allLeft name c.unsent).length ≤ 1

namespace Ordered

variable {name : String} {c : Calls}

theorem keep (h : c.Ordered name) (after : Store) {m : Command}
    (hm : (m.leaves name).isSome = true → allLeft name c.unsent = []) :
    (c.keep after m).Ordered name where
  stored_eq := by simp [Calls.keep, h.stored_eq]
  length_le := by
    cases hleaves : m.leaves name with
    | none => simpa [Calls.keep, hleaves] using h.length_le
    | some b => simp [Calls.keep, hleaves, hm (by rw [hleaves]; rfl)]

theorem tell (h : c.Ordered name) {i : Nat} {m : Command} (hi : c.unsent[i]? = some m)
    (r : Repository) :
    Ordered name
      { c with repository := r, unsent := c.unsent.eraseIdx i, told := c.told ++ [m] } := by
  obtain ⟨hlt, rfl⟩ := List.getElem?_eq_some_iff.1 hi
  have hsplit : c.unsent = c.unsent.take i ++ c.unsent[i] :: c.unsent.drop (i + 1) := by
    rw [← List.drop_eq_getElem_cons hlt, List.take_append_drop]
  have hstored := h.stored_eq
  have hlength := h.length_le
  rw [hsplit, allLeft_append, allLeft_cons] at hstored hlength
  constructor
  · rw [hstored, List.eraseIdx_eq_take_drop_succ, allLeft_append, allLeft_append, allLeft_cons,
      allLeft_nil, List.append_nil]
    cases hleaves : c.unsent[i].leaves name with
    | none => simp
    | some b =>
      -- the message is the only one about the name
      have hbefore : allLeft name (c.unsent.take i) = [] := by
        rw [hleaves, List.length_append, List.length_append, Option.toList_some,
          List.length_singleton] at hlength
        exact List.length_eq_zero_iff.1 (by omega)
      simp [hbefore]
  · rw [List.eraseIdx_eq_take_drop_succ, allLeft_append, List.length_append]
    simp only [List.length_append] at hlength
    omega

theorem step (h : c.Ordered name) {st : CallStep}
    (hst : st.isFor name = true → allLeft name c.unsent = []) : (c.step st).Ordered name := by
  cases st with
  | subscribe prepared =>
    rw [Calls.step]
    split
    · next after stored hok =>
      refine h.keep after fun hleaves => hst ?_
      obtain ⟨id, -, rfl⟩ := Store.subscribe_eq_enroll hok
      rw [Command.isSome_leaves_register] at hleaves
      exact hleaves
    · exact h
  | unsubscribe other =>
    rw [Calls.step]
    split
    · exact h
    · refine h.keep _ fun hleaves => hst ?_
      rw [Command.isSome_leaves_remove] at hleaves
      exact hleaves
  | tell i =>
    rw [Calls.step]
    split
    · next m hi => exact h.tell hi _
    · exact h
  | schedule st =>
    rw [Calls.step]
    split <;> exact ⟨h.stored_eq, h.length_le⟩
  | capture request user recordTime =>
    rw [Calls.step]
    split <;> exact ⟨h.stored_eq, h.length_le⟩
  | acknowledge scope => exact ⟨h.stored_eq, h.length_le⟩
  | refuse refusals => exact ⟨h.stored_eq, h.length_le⟩

theorem run {steps : List CallStep} (h : c.Ordered name) (hsep : c.Separate name steps) :
    (c.run steps).Ordered name := by
  induction steps generalizing c with
  | nil => exact h
  | cons st sts ih => exact ih (h.step hsep.1) hsep.2

end Ordered

/-- **When the registry and the store agree.**  The scheduler begins with the subscriptions that are
stored, calls take their steps in any order, and so do the scheduler and all else that changes the
store.  When no message is unsent, the scheduler has been told the messages of all steps on the
store, in some order: a name is stored if the last step on the store has put it there, and it is
registered if the last message has.  So the two agree on a name exactly if the message that came
last leaves of it what the last step on the store has left.  They do if calls for the name do not
overlap. -/
theorem agree_at_rest {s : Store} {subs : List Subscription} (settings : SchedulerSettings)
    (hlist : s.listSubscriptions = .ok subs) {steps : List CallStep}
    (hphase : ((start s settings subs).run steps).repository.loop.phase = .accepting)
    (hrest : ((start s settings subs).run steps).unsent = []) :
    let c := (start s settings subs).run steps
    c.told.Perm c.stored ∧
      ∀ name,
        c.isStored name = (lastLeft name c.stored).getD (s.findSubscription name).isSome ∧
        c.isRegistered name = (lastLeft name c.told).getD (s.findSubscription name).isSome ∧
        (c.isRegistered name = c.isStored name ↔ lastLeft name c.told = lastLeft name c.stored) ∧
        ((start s settings subs).Separate name steps → c.isRegistered name = c.isStored name) := by
  intro c
  have htracked : c.Tracked _ := (tracked_start settings hlist).run steps
  have hperm : c.told.Perm c.stored := by
    have h := htracked.perm
    rw [hrest, List.append_nil] at h
    exact h.symm
  refine ⟨hperm, fun name => ?_⟩
  have hstored := htracked.isStored_eq name
  have hregistered := htracked.isRegistered_eq hphase name
  have hagree : c.isRegistered name = c.isStored name ↔
      lastLeft name c.told = lastLeft name c.stored := by
    rw [hstored, hregistered]
    refine ⟨fun h => ?_, fun h => by rw [h]⟩
    -- the scheduler has been told of a name exactly if a step was for it
    have hleft : (allLeft name c.told).Perm (allLeft name c.stored) := hperm.filterMap _
    have hsome : (lastLeft name c.told).isSome = (lastLeft name c.stored).isSome := by
      rw [Bool.eq_iff_iff, lastLeft, lastLeft, List.getLast?_isSome, List.getLast?_isSome,
        ← List.length_pos_iff, ← List.length_pos_iff, hleft.length_eq]
    cases htold : lastLeft name c.told <;> cases hkept : lastLeft name c.stored <;>
      simp_all
  refine ⟨hstored, hregistered, hagree, fun hsep => hagree.2 ?_⟩
  have hordered : c.Ordered name := Ordered.run ⟨rfl, Nat.zero_le _⟩ hsep
  rw [lastLeft, lastLeft, hordered.stored_eq, hrest, allLeft_nil, List.append_nil]

/-- A subscription is taken and dropped; the scheduler hears of it in the other order. -/
def overtakingSteps : List CallStep :=
  [.subscribe Loop.promptSubscription, .unsubscribe "s1", .tell 1, .tell 0]

/-- A subscription that was dropped stays registered. -/
theorem disagree_overtaken :
    let c := (start .empty Loop.strictSettings []).run overtakingSteps
    c.unsent = [] ∧ c.isStored "s1" = false ∧ c.isRegistered "s1" = true := by
  have hadd : Store.empty.addSubscription Loop.promptSubscription =
      .ok (Store.empty.enroll Loop.promptSubscription 1, 1) :=
    Store.addSubscription_of_admitsAll (by simp [Store.empty]) (by decide) (by decide +kernel)
  have hsubscribe : Store.empty.subscribe Loop.promptSubscription =
      .ok (Store.empty.enroll Loop.promptSubscription 1, Loop.promptSubscription) := by
    rw [Store.subscribe, if_neg (by decide), hadd]
    rfl
  have hrun : (start .empty Loop.strictSettings []).run overtakingSteps =
      ⟨⟨(Store.empty.enroll Loop.promptSubscription 1).removeSubscription "s1",
          (Loop.start Loop.strictSettings []).run
            [.command 0 (.remove "s1"), .command 0 (.register Loop.promptSubscription)]⟩, [],
        [.register Loop.promptSubscription, .remove "s1"],
        [.remove "s1", .register Loop.promptSubscription]⟩ := by
    simp only [run, overtakingSteps, start, step, hsubscribe, List.foldl_cons, List.foldl_nil]
    rfl
  have hphase : ((start .empty Loop.strictSettings []).run
      overtakingSteps).repository.loop.phase = .accepting := by
    rw [hrun]
    decide
  have hrest : ((start .empty Loop.strictSettings []).run overtakingSteps).unsent = [] := by
    rw [hrun]
  obtain ⟨-, hall⟩ := agree_at_rest Loop.strictSettings rfl hphase hrest
  obtain ⟨hstored, hregistered, -⟩ := hall "s1"
  intro c
  refine ⟨by rw [show c = _ from hrun], ?_, ?_⟩
  · rw [hstored, hrun]
    decide
  · rw [hregistered, hrun]
    decide

end Calls

end Provenance
