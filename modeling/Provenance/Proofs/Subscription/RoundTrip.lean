import Provenance.Proofs.Event.Fetch
import Provenance.Proofs.Event.Recorded
import Provenance.Proofs.Store.Owners
import Provenance.Proofs.Text.Padding
import Provenance.Proofs.Time.Millis
import Provenance.Store.Subscription

/-!
# Stored subscriptions are read again

A subscription is stored as a row, and its parameters as a row for each value.  The values of all
subscriptions stand in one table; those of one subscription are found by its number and put together
parameter by parameter, where a new parameter begins with a new place.  This gives the parameters
back if none of them is without values, which is so in normal form.

A schedule is stored as the texts of its fields.  A field that was read keeps its text without the
blanks around it, from which the same field is read again.

## Main definitions

* `Subscription.restored` — a subscription as a store gives it back.
* `Trigger.IsReadable`, `Subscription.Storable` — what can be read again from its texts.
* `Subscription.placedValues` — what is read of the values of the parameters.

## Main results

* `Schedule.reread_of_read` — a schedule that was read is read again.
* `Subscription.parametersOf_placedValues` — parameters from their values.
* `Store.listSubscriptions_eq_ok` — **stored subscriptions are read again.**
-/

namespace Provenance

/-! ### Schedules -/

open Text (trim trim_trim trimmed splitAll)

namespace ScheduleField

variable {low high : Nat}

/-- A text that trims to nothing or to a star is read as a wildcard. -/
theorem read_some_of_wild {s : String} (h : trim s.toList = [] ∨ trim s.toList = ['*']) :
    read (some s) low high = .ok wildcard := by
  rcases h with h | h <;> simp only [read, Option.map_some, h]

/-- Any other text is read as a list of ranges. -/
theorem read_some_of_not_wild {s : String}
    (h : ¬ (trim s.toList = [] ∨ trim s.toList = ['*'])) :
    read (some s) low high =
      (readRanges (trimmed s) low high (splitAll ',' (trim s.toList))).map
        fun ranges => ⟨some (trimmed s), ranges⟩ := by
  rw [not_or] at h
  simp only [read, Option.map_some, trimmed]
  split
  · next heq => exact absurd heq (by simp)
  · next heq => exact absurd (Option.some.inj heq) h.1
  · next heq => exact absurd (Option.some.inj heq) h.2
  · next heq =>
    obtain rfl := Option.some.inj heq
    cases readRanges (String.ofList (trim s.toList)) low high (splitAll ',' (trim s.toList)) <;> rfl

/-- A field that was read is read again from its text. -/
theorem read_source {source : Option String} {f : ScheduleField}
    (h : read source low high = .ok f) : read f.source low high = .ok f := by
  cases source with
  | none =>
    obtain rfl := Except.ok.inj h
    rfl
  | some s =>
    by_cases hwild : trim s.toList = [] ∨ trim s.toList = ['*']
    · obtain rfl := Except.ok.inj ((read_some_of_wild hwild).symm.trans h)
      rfl
    · have hagain : trim (trimmed s).toList = trim s.toList := by
        rw [trimmed, String.toList_ofList, trim_trim]
      have hsource : f.source = some (trimmed s) := by
        obtain ⟨_, -, rfl⟩ := map_eq_ok_iff.1 ((read_some_of_not_wild hwild).symm.trans h)
        rfl
      have hsame : trimmed (trimmed s) = trimmed s := congrArg String.ofList hagain
      rw [hsource, read_some_of_not_wild (by rwa [hagain]), hagain, hsame,
        ← read_some_of_not_wild hwild]
      exact h

end ScheduleField

/-- **A schedule that was read is read again** from its texts. -/
theorem Schedule.reread_of_read {source : ScheduleSource} {s : Schedule}
    (h : read source = .ok s) : s.reread = .ok s := by
  obtain ⟨second, hsecond, h⟩ := bind_eq_ok_iff.1 h
  obtain ⟨minute, hminute, h⟩ := bind_eq_ok_iff.1 h
  obtain ⟨hour, hhour, h⟩ := bind_eq_ok_iff.1 h
  obtain ⟨dayOfMonth, hday, h⟩ := bind_eq_ok_iff.1 h
  obtain ⟨month, hmonth, h⟩ := bind_eq_ok_iff.1 h
  obtain ⟨dayOfWeek, hweekday, h⟩ := bind_eq_ok_iff.1 h
  obtain rfl := Except.ok.inj h
  refine bind_eq_ok_iff.2 ⟨_, ScheduleField.read_source hsecond, ?_⟩
  refine bind_eq_ok_iff.2 ⟨_, ScheduleField.read_source hminute, ?_⟩
  refine bind_eq_ok_iff.2 ⟨_, ScheduleField.read_source hhour, ?_⟩
  refine bind_eq_ok_iff.2 ⟨_, ScheduleField.read_source hday, ?_⟩
  refine bind_eq_ok_iff.2 ⟨_, ScheduleField.read_source hmonth, ?_⟩
  exact bind_eq_ok_iff.2 ⟨_, ScheduleField.read_source hweekday, rfl⟩

/-- Whether a trigger is read again from its texts. -/
def Trigger.IsReadable : Trigger → Prop
  | schedule s => s.reread = .ok s
  | capture _ => True

/-! ### Subscriptions -/

/-- What a store gave back it gives back again. -/
theorem Instant.kept_kept (t : Instant) : t.kept.kept = t.kept := by
  by_cases hday : isCalendarDay (t.millis / 1000 / secondsPerDay) = true
  · have hmillis : t.kept.millis = t.millis := millis_ofMillis hday
    rw [kept, hmillis]
    rfl
  · have hkept : t.kept = epoch := if_neg hday
    rw [hkept]
    decide

namespace Subscription

/-- A subscription as a store gives it back: its initial record time comes from milliseconds. -/
def restored (s : Subscription) : Subscription :=
  { s with initialRecordTime := s.initialRecordTime.map Instant.kept }

/-- The number that the store gave to a subscription. -/
def number (s : Subscription) : Int := s.id.getD 0

/-- What a store can give back: a subscription with a number, whose parameters have values and whose
trigger can be read again. -/
structure Storable (s : Subscription) : Prop where
  id_eq : s.id = some s.number
  values_ne_nil : ∀ p ∈ s.parameters, p.values ≠ []
  trigger : s.trigger.IsReadable

@[simp] theorem restored_restored (s : Subscription) : s.restored.restored = s.restored := by
  simp [restored, Function.comp_def, Instant.kept_kept]

/-! ### The values of parameters -/

/-- What is read of the values of parameters, which are placed from `start`. -/
def placedValues (id : Int) (start : Nat) (ps : List Parameter) : List Store.PlacedValue :=
  (numbered start ps).flatMap fun q => q.2.values.map fun v => ⟨id, q.1, q.2.name, v⟩

end Subscription

namespace Store

/-- Values of the parameter that was opened last are added to it. -/
theorem foldl_addValue_same (id : Int) (i : Int) (name : String) (vs : List String)
    (done : List (Int × Parameter)) (had : List String) :
    (vs.map fun v => (⟨id, i, name, v⟩ : PlacedValue)).foldl addValue (done ++ [(i, ⟨name, had⟩)]) =
      done ++ [(i, ⟨name, had ++ vs⟩)] := by
  induction vs generalizing had with
  | nil => simp
  | cons v vs ih =>
    have hstep : addValue (done ++ [(i, ⟨name, had⟩)]) ⟨id, i, name, v⟩ =
        done ++ [(i, ⟨name, had ++ [v]⟩)] := by
      simp [addValue]
    rw [List.map_cons, List.foldl_cons, hstep, ih, List.append_assoc, List.singleton_append]

/-- A value with a new place opens a parameter. -/
theorem addValue_new {done : List (Int × Parameter)} {v : PlacedValue}
    (h : ∀ q ∈ done, q.1 ≠ v.index) :
    addValue done v = done ++ [(v.index, ⟨v.name, [v.value]⟩)] := by
  rw [addValue]
  split
  · next i p hlast => rw [if_neg (h (i, p) (List.mem_of_getLast? hlast))]
  · next hnone => rw [List.getLast?_eq_none_iff.1 hnone, List.nil_append]

/-- Values of parameters that have some are put together to the parameters. -/
theorem foldl_addValue_placedValues (id : Int) {ps : List Parameter}
    (hvalues : ∀ p ∈ ps, p.values ≠ []) (start : Nat) (done : List (Int × Parameter))
    (h : ∀ q ∈ done, q.1 < start) :
    ((Subscription.placedValues id start ps).foldl addValue done).map Prod.snd =
      done.map Prod.snd ++ ps := by
  induction ps generalizing start done with
  | nil => simp [Subscription.placedValues]
  | cons p ps ih =>
    -- places ascend, so the first value of a parameter opens it and the others find it last
    obtain ⟨v, vs, hp⟩ := List.exists_cons_of_ne_nil (hvalues p List.mem_cons_self)
    have hopen : addValue done ⟨id, start, p.name, v⟩ = done ++ [((start : Int), ⟨p.name, [v]⟩)] :=
      addValue_new fun q hq => Int.ne_of_lt (h q hq)
    have hrest : Subscription.placedValues id start (p :: ps) =
        ⟨id, start, p.name, v⟩ ::
          (vs.map fun w => (⟨id, start, p.name, w⟩ : PlacedValue)) ++
          Subscription.placedValues id (start + 1) ps := by
      rw [Subscription.placedValues, numbered_cons, List.flatMap_cons, hp]
      rfl
    rw [hrest, List.foldl_append, List.foldl_cons, hopen, foldl_addValue_same,
      ih (fun q hq => hvalues q (List.mem_cons_of_mem _ hq))]
    · simp [← hp]
    · intro q hq
      rcases List.mem_append.1 hq with hq | hq
      · have := h q hq
        omega
      · obtain rfl := List.mem_singleton.1 hq
        simp only
        omega

end Store

namespace Subscription

theorem mapM_readValue (s : Subscription) (id : Int) :
    (s.parameterRows id).mapM Store.readValue = .ok (placedValues id 0 s.parameters) := by
  rw [placedValues, numbered, List.flatMap_map]
  refine mapM_flatMap_eq_ok fun q _ => ?_
  have hread : (valueRows id q.2 q.1).mapM Store.readValue =
      .ok (q.1.values.zipIdx.map fun w => ⟨id, q.2, q.1.name, w.1⟩) :=
    mapM_map_eq_ok fun w _ => rfl
  have hvalues : q.1.values = q.1.values.zipIdx.map Prod.fst := (List.zipIdx_map_fst _ _).symm
  rw [hread]
  conv_rhs => rw [hvalues]
  rw [List.map_map]
  rfl

variable {subs : List Subscription}

/-- The values of some subscriptions, which have different numbers, hold those of each of them. -/
theorem parametersOf_placedValues (hnumbers : (subs.map number).Nodup) {s : Subscription}
    (hs : s ∈ subs) (hvalues : ∀ p ∈ s.parameters, p.values ≠ []) :
    Store.parametersOf (subs.flatMap fun s => placedValues s.number 0 s.parameters) s.number =
      s.parameters := by
  have howner : ∀ s ∈ subs, ∀ v ∈ placedValues s.number 0 s.parameters,
      v.subscription = s.number := by
    intro s _ v hv
    obtain ⟨q, -, hv⟩ := List.mem_flatMap.1 hv
    obtain ⟨_, -, rfl⟩ := List.mem_map.1 hv
    rfl
  rw [Store.parametersOf, filter_owner_eq howner hnumbers hs]
  exact Store.foldl_addValue_placedValues s.number hvalues 0 [] (by simp)

/-! ### Rows -/

theorem readTrigger_row {s : Subscription} (h : s.trigger.IsReadable) (id : Int) :
    Store.readTrigger (s.row id) = .ok s.trigger := by
  cases htrigger : s.trigger with
  | capture uri => simp only [Store.readTrigger, row, triggerUri, htrigger]
  | schedule schedule =>
    rw [htrigger] at h
    have hread : Schedule.read schedule.source = .ok schedule := h
    simp only [Store.readTrigger, row, triggerUri, scheduleSource, htrigger, hread]

theorem flagNumber_ne_zero (b : Bool) : (flagNumber b != 0) = b := by cases b <;> rfl

/-- A row is read again, together with the parameters that the values make. -/
theorem readSubscription_row {s : Subscription} (h : s.Storable) {values : List Store.PlacedValue}
    (hvalues : Store.parametersOf values s.number = s.parameters) :
    Store.readSubscription values (s.row s.number) = .ok s.restored := by
  refine bind_eq_ok_iff.2 ⟨_, readTrigger_row h.trigger s.number, ?_⟩
  refine bind_eq_ok_iff.2 ⟨_, readWhole_integer _ _ _, ?_⟩
  refine bind_eq_ok_iff.2 ⟨_, readWhole_integer _ _ _, ?_⟩
  refine bind_eq_ok_iff.2 ⟨_, readWhole?_ofInt? _ _ _, ?_⟩
  simp only [row, hvalues, flagNumber_ne_zero, Option.map_map, ← h.id_eq]
  rfl

end Subscription

/-- **Stored subscriptions are read again** if they have different numbers. -/
theorem Store.listSubscriptions_eq_ok {s : Store} {subs : List Subscription}
    (hrows : s.subscriptions = subs.map fun sub => sub.row sub.number)
    (hvalues : s.parameters = subs.flatMap fun sub => sub.parameterRows sub.number)
    (hnumbers : (subs.map Subscription.number).Nodup) (h : ∀ sub ∈ subs, sub.Storable) :
    s.listSubscriptions = .ok (subs.map Subscription.restored) := by
  refine bind_eq_ok_iff.2 ⟨subs.flatMap fun sub =>
    Subscription.placedValues sub.number 0 sub.parameters, ?_, ?_⟩
  · rw [hvalues]
    exact mapM_flatMap_eq_ok fun sub _ => sub.mapM_readValue sub.number
  · rw [hrows]
    refine mapM_map_eq_ok fun sub hsub => Subscription.readSubscription_row (h sub hsub) ?_
    exact Subscription.parametersOf_placedValues hnumbers hsub (h sub hsub).values_ne_nil

end Provenance
