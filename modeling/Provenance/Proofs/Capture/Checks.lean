import Provenance.Capture.Validation
import Provenance.Proofs.Store.Insertion

/-!
# What the checks of a request ensure

A request that passes its checks has only events that pass theirs, and an event that does has only
finite quantities and no custom fields inside of custom fields inside of others.

## Main results

* `CaptureRequest.check_of_mem` — events of a request that passes its checks pass theirs.
* `Event.isFinite_of_check` — quantities are finite.
* `Event.isFlat_of_check` — custom fields nest at most one level.
-/

namespace Provenance

theorem require_eq_ok_iff {ε : Type} {condition : Bool} {fault : ε} :
    require condition fault = .ok () ↔ condition = true := by
  cases condition <;> simp [require]

theorem checkAll_eq_ok_iff {ε α : Type} {check : α → Except ε Unit} {as : List α} :
    checkAll check as = .ok () ↔ ∀ a ∈ as, check a = .ok () := by
  induction as with
  | nil => simp [checkAll]
  | cons a as ih =>
    cases h : check a with
    | error e => simp [checkAll, h]
    | ok u => simp [checkAll, h, ih]

theorem checkPlaces_eq_ok_iff {ε α : Type} {check : Nat → α → Except ε Unit} {start : Nat}
    {as : List α} :
    checkPlaces check start as = .ok () ↔
      ∀ i a, as[i]? = some a → check (start + i) a = .ok () := by
  induction as generalizing start with
  | nil => simp [checkPlaces]
  | cons a as ih =>
    cases h : check start a with
    | error e =>
      simp only [checkPlaces, h, reduceCtorEq, false_iff]
      intro hall
      have hfirst : check start a = .ok () := hall 0 a rfl
      rw [h] at hfirst
      exact absurd hfirst (by simp)
    | ok u =>
      simp only [checkPlaces, h, ih]
      constructor
      · intro hall i b hb
        cases i with
        | zero =>
          obtain rfl := Option.some.inj hb
          exact h
        | succ i => exact (congrArg (check · b) (by omega)).trans (hall i b hb)
      · intro hall i b hb
        exact (congrArg (check · b) (by omega)).trans (hall (i + 1) b hb)

theorem CaptureRequest.check_of_mem {r : CaptureRequest} (h : r.check = .ok ()) {e : Event}
    (he : e ∈ r.events) : e.check = .ok () := by
  obtain ⟨_, -, h⟩ := bind_eq_ok_iff.1 h
  obtain ⟨_, hevents, -⟩ := bind_eq_ok_iff.1 h
  obtain ⟨i, hi⟩ := List.mem_iff_getElem?.1 he
  exact mapError_eq_ok_iff.1 (checkPlaces_eq_ok_iff.1 hevents i e hi)

namespace Event

variable {e : Event}

theorem isFinite_of_check (h : e.check = .ok ()) {o : Epc} (ho : o ∈ e.epcs) {q : Binary64}
    (hq : o.quantity = some q) : q.isFinite = true := by
  obtain ⟨_, -, h⟩ := bind_eq_ok_iff.1 h
  obtain ⟨_, hepcs, -⟩ := bind_eq_ok_iff.1 h
  obtain ⟨_, -, hquantity⟩ := bind_eq_ok_iff.1 (checkAll_eq_ok_iff.1 hepcs o ho)
  rw [hq] at hquantity
  exact (Bool.and_eq_true_iff.1 (require_eq_ok_iff.1 hquantity)).1

theorem isFlat_of_check (h : e.check = .ok ()) {f g : CustomField} (hf : f ∈ e.customFields)
    (hg : g ∈ f.children) : g.children = [] := by
  obtain ⟨_, -, h⟩ := bind_eq_ok_iff.1 h
  obtain ⟨_, -, hfields⟩ := bind_eq_ok_iff.1 h
  obtain ⟨_, -, hinside⟩ := bind_eq_ok_iff.1 (checkAll_eq_ok_iff.1 hfields f hf)
  obtain ⟨_, -, hdeep⟩ := bind_eq_ok_iff.1 (checkAll_eq_ok_iff.1 hinside g hg)
  exact List.isEmpty_iff.1 (require_eq_ok_iff.1 hdeep)

end Event

end Provenance
