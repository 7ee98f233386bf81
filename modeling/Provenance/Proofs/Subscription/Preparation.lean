import Provenance.Proofs.Store.Insertion
import Provenance.Repository.Basic

/-!
# Subscriptions in normal form

A subscription is brought into normal form before it is taken: its destination is an address that
ends with a slash, its parameters are merged by name, and its trigger is prepared.  It keeps its
name, its query, its flags and its initial record time.  Where there is no normal form, something is
wrong with what the subscriber sent; nothing inside of the repository is asked for it.

## Main definitions

* `Subscription.Prepared` — a subscription is the normal form of another.

## Main results

* `Subscription.prepare_cases` — a normal form, or a fault of the subscriber.
-/

namespace Provenance

/-- A trigger that cannot be prepared is a fault of the subscriber. -/
theorem Trigger.ne_internal_of_prepare {t : Trigger} {f : Failure} (h : t.prepare = .error f)
    (fault : InternalFault) : f ≠ .internal fault := by
  cases t with
  | schedule s =>
    rw [prepare] at h
    split at h
    · exact absurd h (by simp)
    · rw [← Except.error.inj h]
      exact nofun
  | capture uri =>
    rw [prepare] at h
    split at h
    · rw [← Except.error.inj h]
      exact nofun
    · exact absurd h (by simp)

namespace Subscription

/-- A subscription is the normal form of another. -/
structure Prepared (sub prepared : Subscription) : Prop where
  name : Text.isBlankText sub.name = false
  destination : normalDestination sub.destination = some prepared.destination
  query : ∃ query, (StandingQuery.ofName sub.query).filter StandingQuery.isSubscribable =
    some query ∧ query.check prepared.parameters = .ok ()
  parameters : prepared.parameters = normalize sub.parameters
  trigger : sub.trigger.prepare = .ok prepared.trigger
  rest : prepared = { sub with
    destination := prepared.destination
    parameters := prepared.parameters
    trigger := prepared.trigger }

variable {sub prepared : Subscription}

/-- **A subscription has a normal form, or is at fault.** -/
theorem prepare_cases (sub : Subscription) :
    (∃ f, sub.prepare = .error f ∧ ∀ fault, f ≠ .internal fault) ∨
      ∃ prepared, sub.prepare = .ok prepared ∧ sub.Prepared prepared := by
  unfold prepare
  cases hname : Text.isBlankText sub.name with
  | true => exact .inl ⟨_, rfl, nofun⟩
  | false =>
  cases hdestination : normalDestination sub.destination with
  | none => exact .inl ⟨_, rfl, nofun⟩
  | some destination =>
  cases hquery : (StandingQuery.ofName sub.query).filter StandingQuery.isSubscribable with
  | none => exact .inl ⟨_, rfl, nofun⟩
  | some query =>
  cases hcheck : query.check (normalize sub.parameters) with
  | error fault =>
    refine .inl ⟨.parameter fault, ?_, nofun⟩
    have hfails : (query.check (normalize sub.parameters)).mapError .parameter =
        .error (Failure.parameter fault) := by rw [hcheck]; rfl
    simp [require, hfails, bind, Except.bind]
  | ok _ =>
  have hpasses : (query.check (normalize sub.parameters)).mapError Failure.parameter = .ok () :=
    mapError_eq_ok_iff.2 hcheck
  cases htrigger : sub.trigger.prepare with
  | error f =>
    refine .inl ⟨f, ?_, Trigger.ne_internal_of_prepare htrigger⟩
    simp [require, hpasses, bind, Except.bind]
  | ok trigger =>
    refine .inr ⟨{ sub with
      destination := destination
      parameters := normalize sub.parameters
      trigger := trigger }, ?_, hname, hdestination, ⟨query, hquery, hcheck⟩, rfl, htrigger, rfl⟩
    simp [require, hpasses, bind, Except.bind]

theorem prepared_of_prepare (h : sub.prepare = .ok prepared) : sub.Prepared prepared := by
  rcases sub.prepare_cases with ⟨f, hf, -⟩ | ⟨p, hp, hprepared⟩
  · exact absurd (h.symm.trans hf) nofun
  · obtain rfl := Except.ok.inj (h.symm.trans hp)
    exact hprepared

theorem ne_internal_of_prepare {f : Failure} (h : sub.prepare = .error f) (fault : InternalFault) :
    f ≠ .internal fault := by
  rcases sub.prepare_cases with ⟨f', hf, hne⟩ | ⟨p, hp, -⟩
  · obtain rfl := Except.error.inj (h.symm.trans hf)
    exact hne fault
  · exact absurd (h.symm.trans hp) nofun

theorem Prepared.name_eq (h : sub.Prepared prepared) : prepared.name = sub.name := by
  rw [h.rest]

end Subscription

end Provenance
