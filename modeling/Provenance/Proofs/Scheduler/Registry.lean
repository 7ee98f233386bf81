import Mathlib.Data.List.Nodup
import Provenance.Scheduler.Basic

/-!
# The entries of the registry

An entry is known by its stamp.  No two entries have the same one, and none has one that is yet to
be given.  An entry has a trigger state exactly if its subscription fires after captures, with the
retry policy of the registry.

The ends of evaluations are put in one after the other; each of them changes the entry with its
stamp, so all together change each entry by itself.

## Main definitions

* `Scheduler.Stamped` — what holds of the entries of a registry.
* `Scheduler.Fresh` — what holds besides of a registry that has only been filled.
* `Entry.settleAll` — what the ends of evaluations change in one entry.

## Main results

* `Scheduler.stamped_ofSubscriptions`, and `Scheduler.Stamped.register` and those beside it — the
  entries stay as they should be.
* `Scheduler.entries_settle` — the entries after the ends of evaluations.
-/

namespace Provenance

theorem TriggerState.policy_settle (t : TriggerState) (now : Instant)
    (r : Except RunFailure Outcome) : (t.settle now r).backoff.policy = t.backoff.policy := by
  cases r with
  | ok o => rfl
  | error f =>
    cases h : t.backoff.isSpent <;>
      simp [settle, fail, Backoff.recordFailure, Backoff.reset, h]

namespace Entry

/-- An entry has a trigger state, with a retry policy, exactly if its subscription fires after
captures. -/
structure Fits (p : RetryPolicy) (e : Entry) : Prop where
  isSome_trigger : e.trigger.isSome = e.subscription.trigger.onCapture
  policy : ∀ t, e.trigger = some t → t.backoff.policy = p

variable {p : RetryPolicy} {e e' : Entry}

theorem fits_make (stamp : Nat) (p : RetryPolicy) (sub : Subscription) :
    (make stamp p sub).Fits p := by
  cases h : sub.trigger.onCapture with
  | true =>
    refine ⟨by simp [make, h], fun t ht => ?_⟩
    obtain rfl : TriggerState.start p = t := by simpa [make, h] using ht
    rfl
  | false => exact ⟨by simp [make, h], fun t ht => by simp [make, h] at ht⟩

/-- A new entry is due. -/
theorem due_of_make {stamp : Nat} {sub : Subscription} {t : TriggerState}
    (h : (make stamp p sub).trigger = some t) : t.due = true := by
  simp only [make] at h
  split at h
  · obtain rfl := Option.some.inj h
    rfl
  · exact absurd h (by simp)

/-- What changes the trigger state only, and not its policy, leaves an entry as it should be. -/
theorem Fits.of_map (h : e.Fits p) {f : TriggerState → TriggerState}
    (hf : ∀ t, (f t).backoff.policy = t.backoff.policy) (htrigger : e'.trigger = e.trigger.map f)
    (hsub : e'.subscription = e.subscription) : e'.Fits p := by
  refine ⟨by rw [htrigger, hsub, Option.isSome_map, h.isSome_trigger], fun t ht => ?_⟩
  rw [htrigger] at ht
  obtain ⟨t₀, ht₀, rfl⟩ := Option.map_eq_some_iff.1 ht
  rw [hf, h.policy t₀ ht₀]

theorem Fits.markDue (h : e.Fits p) : e.markDue.Fits p :=
  h.of_map (f := fun t => { t with due := true }) (fun _ => rfl) rfl rfl

theorem Fits.fired (h : e.Fits p) (now : Instant) : (e.fired now).Fits p :=
  h.of_map (f := fun t => { t with due := false }) (fun _ => rfl) rfl rfl

theorem Fits.settle (h : e.Fits p) (now : Instant) (r : Except RunFailure Outcome) :
    (e.settle now r).Fits p :=
  h.of_map (fun t => t.policy_settle now r) rfl rfl

/-! ### The ends of evaluations -/

/-- What the end of an evaluation changes in an entry, if the evaluation was one of the entry. -/
def settleOne (now : Instant) (e : Entry) (v : Evaluated) : Entry :=
  match v.result with
  | none => e
  | some r => if e.stamp = v.stamp then e.settle now r else e

/-- What the ends of evaluations change in an entry. -/
def settleAll (now : Instant) (vs : List Evaluated) (e : Entry) : Entry :=
  vs.foldl (settleOne now) e

theorem settleOne_of_ne {now : Instant} {v : Evaluated} (h : v.stamp ≠ e.stamp) :
    e.settleOne now v = e := by
  unfold settleOne
  split
  · rfl
  · exact if_neg (Ne.symm h)

@[simp] theorem stamp_settleOne (now : Instant) (e : Entry) (v : Evaluated) :
    (e.settleOne now v).stamp = e.stamp := by
  unfold settleOne
  split
  · rfl
  · split <;> rfl

@[simp] theorem stamp_settleAll (now : Instant) (vs : List Evaluated) (e : Entry) :
    (e.settleAll now vs).stamp = e.stamp :=
  List.foldlRecOn vs (settleOne now) (motive := fun e' => e'.stamp = e.stamp) rfl
    fun e' he' v _ => (stamp_settleOne now e' v).trans he'

@[simp] theorem subscription_settleAll (now : Instant) (vs : List Evaluated) (e : Entry) :
    (e.settleAll now vs).subscription = e.subscription := by
  refine List.foldlRecOn vs (settleOne now)
    (motive := fun e' => e'.subscription = e.subscription) rfl fun e' he' v _ => ?_
  rw [← he']
  unfold settleOne
  split
  · rfl
  · split <;> rfl

theorem Fits.settleOne (h : e.Fits p) (now : Instant) (v : Evaluated) :
    (e.settleOne now v).Fits p := by
  unfold Entry.settleOne
  split
  · exact h
  · split
    · exact h.settle now _
    · exact h

/-- Nothing changes in an entry that was not evaluated. -/
theorem settleAll_of_notMem {now : Instant} {vs : List Evaluated}
    (h : ∀ v ∈ vs, v.stamp ≠ e.stamp) : e.settleAll now vs = e := by
  induction vs with
  | nil => rfl
  | cons v vs ih =>
    rw [settleAll, List.foldl_cons, settleOne_of_ne (h v List.mem_cons_self)]
    exact ih fun w hw => h w (List.mem_cons_of_mem _ hw)

/-- The end of an evaluation of another entry may be left out. -/
theorem settleAll_filter {n : Nat} (h : e.stamp ≠ n) (now : Instant) (vs : List Evaluated) :
    e.settleAll now (vs.filter fun v => v.stamp != n) = e.settleAll now vs := by
  induction vs generalizing e with
  | nil => rfl
  | cons v vs ih =>
    by_cases hv : v.stamp = n
    · have hne : v.stamp ≠ e.stamp := fun heq => h (heq.symm.trans hv)
      rw [List.filter_cons_of_neg (by simpa using hv), ih h, settleAll, settleAll, List.foldl_cons,
        settleOne_of_ne hne]
    · rw [List.filter_cons_of_pos (by simpa using hv)]
      exact ih (by rwa [stamp_settleOne])

/-- An entry that was evaluated once changes by the end of that evaluation. -/
theorem settleAll_of_mem {now : Instant} {vs : List Evaluated}
    (hstamps : (vs.map Evaluated.stamp).Nodup) {v : Evaluated} (hv : v ∈ vs)
    (h : v.stamp = e.stamp) : e.settleAll now vs = e.settleOne now v := by
  induction vs with
  | nil => exact absurd hv List.not_mem_nil
  | cons w vs ih =>
    rw [List.map_cons, List.nodup_cons] at hstamps
    obtain ⟨hnew, hstamps⟩ := hstamps
    rw [settleAll, List.foldl_cons]
    rcases List.mem_cons.1 hv with rfl | hv
    · -- the ends that follow are of other entries
      refine settleAll_of_notMem fun u hu hne => hnew ?_
      rw [stamp_settleOne] at hne
      exact List.mem_map.2 ⟨u, hu, hne.trans h.symm⟩
    · -- and so is the first one, if it is not this
      have hne : w.stamp ≠ e.stamp := fun heq =>
        hnew (List.mem_map.2 ⟨v, hv, h.trans heq.symm⟩)
      rw [settleOne_of_ne hne]
      exact ih hstamps hv

end Entry

attribute [ext] Scheduler

namespace Scheduler

theorem entries_settle (s : Scheduler) (now : Instant) (vs : List Evaluated) :
    (s.settle now vs).entries = s.entries.map (Entry.settleAll now vs) := by
  have hone (s : Scheduler) (v : Evaluated) :
      (settleOne now s v).entries = s.entries.map fun e => e.settleOne now v := by
    cases hv : v.result with
    | none => simp only [settleOne, Entry.settleOne, hv, List.map_id']
    | some r => simp only [settleOne, Entry.settleOne, hv]
  induction vs generalizing s with
  | nil => exact (List.map_id' _).symm
  | cons v vs ih =>
    rw [settle, List.foldl_cons]
    refine (ih _).trans ?_
    rw [hone, List.map_map]
    rfl

/-- What belongs to a registry besides its entries is left alone. -/
theorem frame_settle (s : Scheduler) (now : Instant) (vs : List Evaluated) :
    (s.settle now vs).nextStamp = s.nextStamp ∧ (s.settle now vs).retry = s.retry ∧
      (s.settle now vs).maxConcurrency = s.maxConcurrency := by
  induction vs generalizing s with
  | nil => exact ⟨rfl, rfl, rfl⟩
  | cons v vs ih =>
    obtain ⟨hstamp, hretry, hmax⟩ := ih (settleOne now s v)
    have hone : (settleOne now s v).nextStamp = s.nextStamp ∧ (settleOne now s v).retry = s.retry ∧
        (settleOne now s v).maxConcurrency = s.maxConcurrency := by
      unfold settleOne
      split <;> exact ⟨rfl, rfl, rfl⟩
    exact ⟨hstamp.trans hone.1, hretry.trans hone.2.1, hmax.trans hone.2.2⟩

/-! ### Stamps -/

/-- No two entries have the same stamp, stamps that are yet to be given are not among them, and
entries have the trigger states that they should have. -/
structure Stamped (s : Scheduler) : Prop where
  nodup : (s.entries.map Entry.stamp).Nodup
  lt_next : ∀ e ∈ s.entries, e.stamp < s.nextStamp
  fits : ∀ e ∈ s.entries, e.Fits s.retry

namespace Stamped

variable {s : Scheduler}

/-- An entry is found by its stamp. -/
theorem eq_of_stamp (h : s.Stamped) {e e' : Entry} (he : e ∈ s.entries) (he' : e' ∈ s.entries)
    (hstamp : e.stamp = e'.stamp) : e = e' :=
  List.inj_on_of_nodup_map h.nodup he he' hstamp

theorem register (h : s.Stamped) (sub : Subscription) : (s.register sub).Stamped where
  nodup := by
    -- the new entry has the next stamp, which the entries that are kept have not
    rw [Scheduler.register, List.map_append, List.nodup_append]
    refine ⟨h.nodup.sublist (List.filter_sublist.map _), by simp, ?_⟩
    intro n hn m hm
    obtain ⟨e, he, rfl⟩ := List.mem_map.1 hn
    obtain rfl : m = s.nextStamp := by simpa [Entry.make] using hm
    have := h.lt_next e (List.mem_filter.1 he).1
    omega
  lt_next := by
    intro e he
    simp only [Scheduler.register]
    rcases List.mem_append.1 he with he | he
    · have := h.lt_next e (List.mem_filter.1 he).1
      omega
    · obtain rfl := List.mem_singleton.1 he
      exact Nat.lt_succ_self _
  fits := by
    intro e he
    rcases List.mem_append.1 he with he | he
    · exact h.fits e (List.mem_filter.1 he).1
    · obtain rfl := List.mem_singleton.1 he
      exact Entry.fits_make _ _ _

theorem remove (h : s.Stamped) (name : String) : (s.remove name).Stamped where
  nodup := h.nodup.sublist (List.filter_sublist.map _)
  lt_next e he := h.lt_next e (List.mem_filter.1 he).1
  fits e he := h.fits e (List.mem_filter.1 he).1

/-- What changes entries one by one, and not their stamps, leaves a registry as it should be. -/
theorem of_map (h : s.Stamped) {s' : Scheduler} {f : Entry → Entry}
    (hstamp : ∀ e, (f e).stamp = e.stamp) (hfits : ∀ e, e.Fits s.retry → (f e).Fits s.retry)
    (hentries : s'.entries = s.entries.map f) (hnext : s'.nextStamp = s.nextStamp)
    (hretry : s'.retry = s.retry) : s'.Stamped where
  nodup := by
    have hmap : s'.entries.map Entry.stamp = s.entries.map Entry.stamp := by
      rw [hentries, List.map_map]
      exact List.map_congr_left fun e _ => hstamp e
    rw [hmap]
    exact h.nodup
  lt_next := by
    intro e he
    rw [hentries] at he
    obtain ⟨e₀, he₀, rfl⟩ := List.mem_map.1 he
    rw [hstamp, hnext]
    exact h.lt_next e₀ he₀
  fits := by
    intro e he
    rw [hentries] at he
    obtain ⟨e₀, he₀, rfl⟩ := List.mem_map.1 he
    rw [hretry]
    exact hfits e₀ (h.fits e₀ he₀)

theorem markDue (h : s.Stamped) : s.markDue.Stamped :=
  h.of_map (f := Entry.markDue) (fun _ => rfl) (fun _ he => he.markDue) rfl rfl rfl

theorem collect (h : s.Stamped) (now : Instant) : (s.collect now).1.Stamped := by
  refine h.of_map (f := fun e => if e.fires now then e.fired now else e) ?_ ?_ rfl rfl rfl
  · intro e
    split <;> rfl
  · intro e he
    split
    · exact he.fired now
    · exact he

theorem settle (h : s.Stamped) (now : Instant) (vs : List Evaluated) :
    (s.settle now vs).Stamped := by
  obtain ⟨hnext, hretry, -⟩ := s.frame_settle now vs
  refine h.of_map (f := Entry.settleAll now vs) ?_ ?_ (s.entries_settle now vs) hnext hretry
  · exact Entry.stamp_settleAll now vs
  · intro e he
    exact List.foldlRecOn vs (Entry.settleOne now) (motive := Entry.Fits s.retry) he
      fun e' he' v _ => he'.settleOne now v

end Stamped

theorem stamped_empty (settings : SchedulerSettings) : (empty settings).Stamped :=
  ⟨.nil, by simp [empty], by simp [empty]⟩

/-- **Entries are as they should be** from the start. -/
theorem stamped_ofSubscriptions (settings : SchedulerSettings) (subs : List Subscription) :
    (ofSubscriptions settings subs).Stamped :=
  List.foldlRecOn subs register (motive := Stamped) (stamped_empty settings)
    fun _ hs sub _ => hs.register sub

/-- That a registry follows a retry policy and nothing has happened to its entries. -/
structure Fresh (p : RetryPolicy) (s : Scheduler) : Prop where
  retry_eq : s.retry = p
  entries : ∀ e ∈ s.entries, ∃ stamp sub, e = .make stamp p sub

theorem Fresh.register {p : RetryPolicy} {s : Scheduler} (h : s.Fresh p) (sub : Subscription) :
    (s.register sub).Fresh p := by
  refine ⟨h.retry_eq, fun e he => ?_⟩
  rcases List.mem_append.1 he with he | he
  · exact h.entries e (List.mem_filter.1 he).1
  · obtain rfl := List.mem_singleton.1 he
    exact ⟨s.nextStamp, sub, by rw [h.retry_eq]⟩

/-- The entries of a new registry are new ones. -/
theorem fresh_ofSubscriptions (settings : SchedulerSettings) (subs : List Subscription) :
    (ofSubscriptions settings subs).Fresh settings.retry :=
  List.foldlRecOn subs Scheduler.register (motive := Fresh settings.retry)
    ⟨rfl, fun _ he => absurd he List.not_mem_nil⟩ fun _ hs sub _ => hs.register sub

end Scheduler

end Provenance
