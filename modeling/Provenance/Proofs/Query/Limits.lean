import Mathlib.Data.List.Perm.Basic
import Provenance.Proofs.Query.Execution

/-!
# Statements within the limits

Conditions are read from the left, and a limit that is passed on the way decides.  Where no
condition chooses from an empty list, nothing but the whole counts in the end: the hierarchies in
the conditions, the number of the values, and the depth of all conditions together.  The first two
do not depend on the order of the conditions, but the depth does: a condition that is deep by itself
makes the whole deeper where it comes first than where it comes last.

## Main definitions

* `Extent.Counted` — a condition that chooses from something and counts the ids it starts from.
* `Extent.WithinStart` — a hierarchy starts from some ids, and not from too many.
* `deepen`, `insideOf` — the depth of conditions, and of those inside of them.

## Main results

* `checkExtents_eq_ok_iff` — **which statements are within the limits.**
* `checkExtents_of_perm` — conditions of equal depth may come in any order.
-/

namespace Provenance

namespace Extent

/-- That a condition does not choose from an empty list and binds the ids that a hierarchy in it
starts from. -/
structure Counted (e : Extent) : Prop where
  chooses : e.isEmptyChoice = false
  start_le : ∀ n, e.start = some n → n ≤ e.values

/-- That a hierarchy in a condition starts from some ids, and not from too many. -/
def WithinStart (e : Extent) : Prop := ∀ n, e.start = some n → n ≠ 0 ∧ n ≤ maxStart

/-- A hierarchy in a condition whose values can be bound is within the limits if its ids are neither
none nor too many. -/
theorem Counted.checkStart_eq_ok_iff {e : Extent} (he : e.Counted) {bound : Nat}
    (h : bound + e.values ≤ maxBound) : checkStart bound e.start = .ok () ↔ e.WithinStart := by
  unfold WithinStart
  cases hstart : e.start with
  | none => simp [checkStart]
  | some n =>
    have hn := he.start_le n hstart
    have hbound : checkBound (bound + n) = .ok () := checkBound_eq_ok_iff.2 (by omega)
    simp only [Option.some.injEq, forall_eq', checkStart]
    by_cases hzero : n = 0
    · simp [hzero]
    · rw [if_neg hzero, hbound]
      by_cases hmax : n ≤ maxStart
      · exact iff_of_true (if_pos hmax) ⟨hzero, hmax⟩
      · refine iff_of_false (fun h => ?_) fun h => hmax h.2
        obtain ⟨_, -, hfails⟩ := bind_eq_ok_iff.1 h
        rw [if_neg hmax] at hfails
        exact absurd hfails (by simp)

end Extent

open Extent

/-! ### Depths -/

/-- The depth of conditions with more of them after those of a depth. -/
def deepen (d : Nat) (es : List Extent) : Nat := es.foldl (fun whole e => max whole e.depth + 1) d

/-- The depth of the conditions inside of conditions. -/
def insideOf (es : List Extent) : Nat := (es.map Extent.inside).foldl max 0

theorem le_deepen (d : Nat) (es : List Extent) : d ≤ deepen d es := by
  induction es generalizing d with
  | nil => exact Nat.le_refl d
  | cons e es ih =>
    have hrest : max d e.depth + 1 ≤ deepen d (e :: es) := ih _
    omega

theorem deepen_append (d : Nat) (es es' : List Extent) :
    deepen d (es ++ es') = deepen (deepen d es) es' :=
  List.foldl_append

/-- Conditions that are no deeper than those before make the whole deeper by one each. -/
theorem deepen_replicate {d : Nat} {e : Extent} (h : e.depth ≤ d) (n : Nat) :
    deepen d (List.replicate n e) = d + n := by
  induction n generalizing d with
  | zero => rfl
  | succ n ih =>
    have hstep : deepen d (List.replicate (n + 1) e) =
        deepen (max d e.depth + 1) (List.replicate n e) := rfl
    rw [hstep, Nat.max_eq_left h, ih (Nat.le_succ_of_le h)]
    omega

/-- The depths are those of all conditions together. -/
theorem deepen_eq (e : Extent) (es : List Extent) :
    deepen e.depth es = together ((e :: es).map Extent.depth) := by
  rw [List.map_cons, together, List.foldl_map]
  rfl

theorem insideOf_of_perm {es es' : List Extent} (h : es.Perm es') : insideOf es = insideOf es' :=
  (h.map _).foldl_eq 0

/-! ### Reading conditions -/

/-- Conditions are read if the hierarchies are within the limits, the values can be bound, and the
whole is not too deep. -/
theorem readExtents_eq_ok_iff {es : List Extent} (hes : ∀ e ∈ es, e.Counted) {bound d : Nat}
    (hbound : bound ≤ maxBound) (hd : d ≤ maxDepth) {r : Nat × Nat} :
    readExtents bound (some d) false es = .ok r ↔
      (∀ e ∈ es, e.WithinStart) ∧ bound + (es.map Extent.values).sum ≤ maxBound ∧
        deepen d es ≤ maxDepth ∧ r = (bound + (es.map Extent.values).sum, deepen d es) := by
  induction es generalizing bound d with
  | nil =>
    have hr : Except.ok (bound, d) = (Except.ok r : Except StorageError (Nat × Nat)) ↔
        r = (bound, d) := by
      rw [Except.ok.injEq, eq_comm]
    simpa [readExtents, deepen, hbound, hd] using hr
  | cons e es ih =>
    obtain ⟨he, hes⟩ := List.forall_mem_cons.1 hes
    have hjoined : joinedDepth (some d) false e = max d e.depth + 1 := by
      simp [joinedDepth, he.chooses]
    have hdeepen : deepen d (e :: es) = deepen (max d e.depth + 1) es := rfl
    have hdeeper := le_deepen (max d e.depth + 1) es
    rw [readExtents_cons_eq_ok_iff, hjoined, he.chooses, List.map_cons, List.sum_cons, hdeepen,
      ← Nat.add_assoc, List.forall_mem_cons]
    constructor
    · rintro ⟨hstart, hvalues, hdepth, h⟩
      obtain ⟨hrest, hsum, hdeep, hr⟩ := (ih hes hvalues hdepth).1 h
      exact ⟨⟨(he.checkStart_eq_ok_iff hvalues).1 hstart, hrest⟩, hsum, hdeep, hr⟩
    · rintro ⟨⟨hstart, hrest⟩, hsum, hdeep, hr⟩
      have hvalues : bound + e.values ≤ maxBound := by omega
      have hdepth : max d e.depth + 1 ≤ maxDepth := by omega
      exact ⟨(he.checkStart_eq_ok_iff hvalues).2 hstart, hvalues, hdepth,
        (ih hes hvalues hdepth).2 ⟨hrest, hsum, hdeep, hr⟩⟩

/-- **Which statements are within the limits.**  The hierarchies in the conditions start from some
ids and not from too many, the values and the limit can be bound, and all conditions together, with
those inside of them, are not too deep. -/
theorem checkExtents_eq_ok_iff {es : List Extent} (hes : ∀ e ∈ es, e.Counted) :
    checkExtents es = .ok () ↔
      (∀ e ∈ es, e.WithinStart) ∧ (es.map Extent.values).sum + 1 ≤ maxBound ∧
        together (es.map Extent.depth) + insideOf es ≤ maxDepth := by
  have hchoice : es.any Extent.isEmptyChoice = false := by
    rw [List.any_eq_false]
    exact fun e he => by simp [(hes e he).chooses]
  cases es with
  | nil => exact iff_of_true rfl ⟨fun e he => absurd he List.not_mem_nil, by decide, by decide⟩
  | cons e es =>
    obtain ⟨he, hrest⟩ := List.forall_mem_cons.1 hes
    have hfirst : joinedDepth none false e = e.depth := by simp [joinedDepth, he.chooses]
    have hdeeper := le_deepen e.depth es
    rw [← deepen_eq, List.forall_mem_cons, List.map_cons, List.sum_cons]
    unfold checkExtents
    rw [hchoice]
    constructor
    · intro h
      obtain ⟨⟨n, m⟩, hread, h⟩ := bind_eq_ok_iff.1 h
      rw [readExtents_cons_eq_ok_iff, hfirst, he.chooses] at hread
      obtain ⟨hstart, hvalues, hdepth, hread⟩ := hread
      obtain ⟨hstarts, -, -, hr⟩ := (readExtents_eq_ok_iff hrest hvalues hdepth).1 hread
      obtain ⟨rfl, rfl⟩ := Prod.mk.inj hr
      obtain ⟨_, hbound, hall⟩ := bind_eq_ok_iff.1 h
      rw [Nat.zero_add] at hbound
      exact ⟨⟨(he.checkStart_eq_ok_iff hvalues).1 hstart, hstarts⟩, checkBound_eq_ok_iff.1 hbound,
        checkDepth_eq_ok_iff.1 hall⟩
    · rintro ⟨⟨hstart, hstarts⟩, hsum, hall⟩
      have hvalues : 0 + e.values ≤ maxBound := by omega
      have hdepth : e.depth ≤ maxDepth := by omega
      have hread : readExtents 0 none false (e :: es) =
          .ok (0 + e.values + (es.map Extent.values).sum, deepen e.depth es) := by
        rw [readExtents_cons_eq_ok_iff, hfirst, he.chooses]
        exact ⟨(he.checkStart_eq_ok_iff hvalues).2 hstart, hvalues, hdepth,
          (readExtents_eq_ok_iff hrest hvalues hdepth).2 ⟨hstarts, by omega, by omega, rfl⟩⟩
      refine bind_eq_ok_iff.2 ⟨_, hread, bind_eq_ok_iff.2 ⟨(), ?_, checkDepth_eq_ok_iff.2 hall⟩⟩
      exact checkBound_eq_ok_iff.2 (by omega)

/-- **Conditions of equal depth may come in any order.** -/
theorem checkExtents_of_perm {es es' : List Extent} (h : es.Perm es')
    (hes : ∀ e ∈ es, e.Counted) (hdepth : es.map Extent.depth = es'.map Extent.depth) :
    checkExtents es = .ok () ↔ checkExtents es' = .ok () := by
  rw [checkExtents_eq_ok_iff hes, checkExtents_eq_ok_iff fun e he => hes e (h.mem_iff.2 he), hdepth,
    insideOf_of_perm h, (h.map Extent.values).sum_nat]
  simp only [h.mem_iff]

end Provenance
