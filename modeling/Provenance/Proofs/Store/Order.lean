import Provenance.Store.Selection

/-!
# The order of whole numbers in cells

Cells that hold whole numbers compare as the numbers do.

## Main results

* `Cell.order_integer`, `Cell.sortOrder_integer` — comparing whole numbers.
* `EventRow.key_ne_of_compareKey` — events in order have different keys.
-/

namespace Provenance

namespace Cell

theorem unitsPerOne_pos : (0 : Int) < Binary64.unitsPerOne := by
  rw [Int.natCast_pos]
  decide +kernel

theorem compare_mul_unitsPerOne (m n : Int) :
    compare (m * Binary64.unitsPerOne) (n * Binary64.unitsPerOne) = compare m n := by
  have hpos := unitsPerOne_pos
  rcases Int.lt_trichotomy m n with h | rfl | h
  · rw [Int.compare_eq_lt.2 h, Int.compare_eq_lt.2 (Int.mul_lt_mul_of_pos_right h hpos)]
  · rw [Int.compare_eq_eq.2 rfl, Int.compare_eq_eq.2 rfl]
  · rw [Int.compare_eq_gt.2 h, Int.compare_eq_gt.2 (Int.mul_lt_mul_of_pos_right h hpos)]

@[simp] theorem order_integer (m n : Int) : (integer m).order (integer n) = some (compare m n) := by
  rw [← compare_mul_unitsPerOne]
  rfl

@[simp] theorem sortOrder_integer (m n : Int) :
    (integer m).sortOrder (integer n) = compare m n := by
  simp only [sortOrder, order_integer, Option.getD_some]

/-- A cell comes with itself in an order. -/
theorem sortOrder_self (c : Cell) : c.sortOrder c = .eq := by
  cases c with
  | null => rfl
  | integer n => rw [sortOrder_integer, Int.compare_eq_eq.2 rfl]
  | real x =>
    simp only [sortOrder, order, position]
    cases x.units with
    | none => rfl
    | some n =>
      have hself : compare n n = .eq := Int.compare_eq_eq.2 rfl
      simp only [bind, Option.bind, hself, Option.getD_some]
  | text t =>
    have hself : compare t t = .eq := Std.ReflOrd.compare_self
    simp only [sortOrder, order_text, hself, Option.getD_some]

end Cell

/-- Events in order have different keys. -/
theorem EventRow.key_ne_of_compareKey {a b : EventRow} (h : a.compareKey b = .lt) :
    a.key ≠ b.key := by
  intro heq
  obtain ⟨hrequest, hindex⟩ := Prod.mk.inj heq
  rw [compareKey, hrequest, hindex, Int.compare_eq_eq.2 rfl, Cell.sortOrder_self] at h
  exact absurd h (by decide)

end Provenance
