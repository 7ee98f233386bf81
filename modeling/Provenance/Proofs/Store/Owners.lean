import Mathlib.Data.List.Nodup

/-!
# Rows and what they belong to

A table often holds the rows of several owners, one owner after the other, where a row tells by a
label whose it is.  To choose rows by their labels is then to choose owners by theirs; and where no
two owners have the same label, the rows with the label of an owner are the rows of that owner.

## Main results

* `filter_flatMap_owner` — choosing rows is choosing owners.
* `filter_owner_eq` — the rows of one owner.
-/

namespace Provenance

variable {α κ ρ : Type} {xs : List α} {part : α → List ρ} {owner : ρ → κ} {label : α → κ}

/-- To choose rows by what they belong to is to choose the owners. -/
theorem filter_flatMap_owner (howner : ∀ x ∈ xs, ∀ r ∈ part x, owner r = label x) (P : κ → Bool) :
    (xs.flatMap part).filter (fun r => P (owner r)) =
      (xs.filter fun x => P (label x)).flatMap part := by
  induction xs with
  | nil => rfl
  | cons x xs ih =>
    have hx := howner x List.mem_cons_self
    rw [List.flatMap_cons, List.filter_append, ih fun y hy => howner y (List.mem_cons_of_mem _ hy),
      List.filter_cons]
    split
    · next hP =>
      rw [List.flatMap_cons, List.filter_eq_self.2 fun r hr => by rw [hx r hr, hP]]
    · next hP =>
      rw [List.filter_eq_nil_iff.2 fun r hr => by rw [hx r hr]; exact hP, List.nil_append]

variable [BEq κ] [LawfulBEq κ]

/-- A label finds one owner. -/
theorem filter_label_eq (hlabels : (xs.map label).Nodup) {x : α} (hx : x ∈ xs) :
    (xs.filter fun y => label y == label x) = [x] := by
  induction xs with
  | nil => exact absurd hx List.not_mem_nil
  | cons y xs ih =>
    rw [List.map_cons, List.nodup_cons] at hlabels
    obtain ⟨hnew, hlabels⟩ := hlabels
    rcases List.mem_cons.1 hx with rfl | hx
    · rw [List.filter_cons_of_pos (by simp), List.filter_eq_nil_iff.2]
      intro z hz heq
      exact hnew (beq_iff_eq.1 heq ▸ List.mem_map_of_mem hz)
    · rw [List.filter_cons_of_neg, ih hlabels hx]
      intro heq
      exact hnew (beq_iff_eq.1 heq ▸ List.mem_map_of_mem hx)

/-- **The rows with the label of an owner are its rows.** -/
theorem filter_owner_eq (howner : ∀ x ∈ xs, ∀ r ∈ part x, owner r = label x)
    (hlabels : (xs.map label).Nodup) {x : α} (hx : x ∈ xs) :
    (xs.flatMap part).filter (fun r => owner r == label x) = part x := by
  rw [filter_flatMap_owner howner (· == label x), filter_label_eq hlabels hx, List.flatMap_cons,
    List.flatMap_nil, List.append_nil]

end Provenance
