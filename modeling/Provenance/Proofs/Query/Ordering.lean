import Mathlib.Data.List.Nodup
import Mathlib.Data.Prod.Lex
import Provenance.Proofs.Query.Reading

/-!
# The order of an answer

Parameters put an answer in order by the time of its events or by the time of their capture, and
events of the same time stay in the order of their keys.  Times and numbers compare as integers, so
each recorded event has a place among the others that does not depend on which of them are chosen.
So to choose events and put them in order is to put all of them in order and then choose.

## Main definitions

* `Recorded.sortKey` — what decides on the place of a recorded event.

## Main results

* `filter_mergeSort` — choosing and sorting can be exchanged.
* `Store.Journal.exists_ordered` — **what one more predicate leaves of an answer.**
-/

namespace Provenance

/-! ### Sorting -/

/-- Sorting by a key gives the members in the order of their keys, and strictly so where no two of
them have the same key. -/
theorem pairwise_lt_mergeSort {α κ : Type} [LinearOrder κ] (key : α → κ) {l : List α}
    (hkey : (l.map key).Nodup) :
    (l.mergeSort fun a b => decide (key a ≤ key b)).Pairwise fun a b => key a < key b := by
  have htrans (a b c : α) (hab : decide (key a ≤ key b) = true)
      (hbc : decide (key b ≤ key c) = true) : decide (key a ≤ key c) = true :=
    decide_eq_true (le_trans (of_decide_eq_true hab) (of_decide_eq_true hbc))
  have htotal (a b : α) : (decide (key a ≤ key b) || decide (key b ≤ key a)) = true := by
    simpa using le_total (key a) (key b)
  have hne : (l.mergeSort fun a b => decide (key a ≤ key b)).Pairwise
      fun a b => key a ≠ key b := by
    rw [← List.pairwise_map]
    exact ((List.mergeSort_perm _ _).map key).nodup_iff.2 hkey
  refine ((List.pairwise_mergeSort htrans htotal l).and hne).imp fun ⟨hle, hne⟩ => ?_
  exact lt_of_le_of_ne (of_decide_eq_true hle) hne

/-- **Choosing and sorting can be exchanged** where no two members have the same key. -/
theorem filter_mergeSort {α κ : Type} [LinearOrder κ] (key : α → κ) {l : List α}
    (hkey : (l.map key).Nodup) (p : α → Bool) :
    (l.filter p).mergeSort (fun a b => decide (key a ≤ key b)) =
      (l.mergeSort fun a b => decide (key a ≤ key b)).filter p := by
  have hchosen : ((l.filter p).map key).Nodup := hkey.sublist (List.filter_sublist.map key)
  refine List.Perm.eq_of_pairwise (fun a b _ _ hab hba => absurd hba (lt_asymm hab))
    (pairwise_lt_mergeSort key hchosen) ((pairwise_lt_mergeSort key hkey).filter p) ?_
  exact (List.mergeSort_perm _ _).trans ((List.mergeSort_perm _ _).filter p).symm

/-- A number as it counts in a direction. -/
def SortDirection.signed : SortDirection → Int → Int
  | ascending, n => n
  | descending, n => -n

/-- What an order looks at before the key of a recorded event. -/
def Recorded.leading (x : Recorded) : Option (EventField × SortDirection) → Int
  | some (.recordTime, d) => d.signed x.captured.recordTime.millis
  | some (_, d) => d.signed x.event.time.millis
  | none => 0

/-- **What decides on the place of a recorded event** in an answer: what the order looks at, and
then the number of the request and the place in it. -/
def Recorded.sortKey (order : Option (EventField × SortDirection)) (x : Recorded) :
    Int ×ₗ Int ×ₗ Int :=
  toLex (x.leading order, toLex (x.captured.id, (x.index : Int)))

theorem Int.then_compare_ne_gt {m n : Int} {o : Ordering} :
    (((compare m n).then o) != .gt) = true ↔ m < n ∨ m = n ∧ (o != .gt) = true := by
  rcases Int.lt_trichotomy m n with h | rfl | h
  · simp [Int.compare_eq_lt.2 h, h]
  · simp
  · simp [Int.compare_eq_gt.2 h, Int.not_lt.2 (Int.le_of_lt h), Int.ne_of_gt h]

theorem SortDirection.orient_compare (d : SortDirection) (m n : Int) :
    d.orient (compare m n) = compare (d.signed m) (d.signed n) := by
  cases d with
  | ascending => rfl
  | descending =>
    rcases Int.lt_trichotomy m n with h | rfl | h
    · rw [Int.compare_eq_lt.2 h, signed, signed, Int.compare_eq_gt.2 (Int.neg_lt_neg h)]
      rfl
    · rw [Int.compare_eq_eq.2 rfl, signed, Int.compare_eq_eq.2 rfl]
      rfl
    · rw [Int.compare_eq_gt.2 h, signed, signed, Int.compare_eq_lt.2 (Int.neg_lt_neg h)]
      rfl

namespace Recorded

variable {x y : Recorded}

theorem compareKey_row_ne_gt (x y : Recorded) :
    (x.row.compareKey y.row != .gt) = true ↔
      toLex (x.captured.id, (x.index : Int)) ≤ toLex (y.captured.id, (y.index : Int)) := by
  rw [Prod.Lex.toLex_le_toLex, EventRow.compareKey, Int.then_compare_ne_gt]
  refine or_congr_right (and_congr_right fun _ => ?_)
  have hindex : x.row.index.sortOrder y.row.index = compare (x.index : Int) y.index :=
    Cell.sortOrder_integer _ _
  rw [hindex, ← Int.not_lt, ← Int.compare_eq_gt]
  simp

/-- A query that orders by a time compares rows as their events are placed. -/
theorem compareRows_eq {q : EventQuery} (hq : q.IsTemporal) (x y : Recorded) :
    (q.compareRows x.row y.row != .gt) = decide (x.sortKey q.order ≤ y.sortKey q.order) := by
  rw [Bool.eq_iff_iff, decide_eq_true_iff, sortKey, sortKey, Prod.Lex.toLex_le_toLex,
    ← compareKey_row_ne_gt, EventQuery.compareRows]
  cases horder : q.order with
  | none => simp [leading]
  | some order =>
    obtain ⟨f, d⟩ := order
    -- both times are kept as numbers of milliseconds
    have hcell : d.orient ((x.row.cell f).sortOrder (y.row.cell f)) =
        compare (x.leading (some (f, d))) (y.leading (some (f, d))) := by
      rcases hq f d horder with rfl | rfl
      all_goals
        simp only [EventRow.cell, row, Event.row, Cell.sortOrder_integer,
          SortDirection.orient_compare, leading]
    simp only [hcell]
    exact Int.then_compare_ne_gt

/-- The key of a recorded event decides on its place. -/
theorem key_of_sortKey {order : Option (EventField × SortDirection)}
    (h : x.sortKey order = y.sortKey order) : x.key = y.key := by
  obtain ⟨-, hkey⟩ := Prod.mk.inj (toLex.injective h)
  obtain ⟨hrequest, hindex⟩ := Prod.mk.inj (toLex.injective hkey)
  rw [key, key, hrequest, hindex]

end Recorded

/-! ### One more predicate -/

namespace Store.Journal

variable {s : Store} {cs : List Captured}

theorem sortKeys_nodup (h : s.Journal cs) (order : Option (EventField × SortDirection)) :
    ((recorded cs).map (Recorded.sortKey order)).Nodup := by
  have hkeys := h.recorded_keys_nodup
  rw [List.Nodup, List.pairwise_map] at hkeys ⊢
  exact hkeys.imp fun hne heq => hne (Recorded.key_of_sortKey heq)

/-- The rows that a query asks for are those of recorded events in their places, up to its limit. -/
theorem rows_of_temporal (h : s.Journal cs) {q : EventQuery} (hq : q.IsTemporal) :
    q.rows s =
      ((((recorded cs).filter fun x => q.predicates.all fun p => p.holds s x.row).mergeSort
        fun x y => decide (x.sortKey q.order ≤ y.sortKey q.order)).take (rowCount q.limit)).map
          Recorded.row := by
  have hmatching : q.matching s =
      ((recorded cs).filter fun x => q.predicates.all fun p => p.holds s x.row).map
        Recorded.row := by
    rw [EventQuery.matching_eq, h.events_eq, List.filter_map]
    rfl
  rw [EventQuery.rows, hmatching, List.map_take, ← List.map_mergeSort
    fun x _ y _ => (Recorded.compareRows_eq hq x y).symm]

/-- Without a limit a query asks for the rows of all matching events. -/
theorem rows_of_unlimited (h : s.Journal cs) (hsize : (recorded cs).length ≤ maxRows)
    {q : EventQuery} (hq : q.IsTemporal) (hlimit : q.limit = none) :
    q.rows s =
      (((recorded cs).filter fun x => q.predicates.all fun p => p.holds s x.row).mergeSort
        fun x y => decide (x.sortKey q.order ≤ y.sortKey q.order)).map Recorded.row := by
  rw [h.rows_of_temporal hq, hlimit, List.take_of_length_le]
  rw [List.length_mergeSort]
  exact Nat.le_trans (List.length_filter_le _ _) hsize

/-- **What one more predicate leaves of an answer**: the events that it holds of, in the same
order. -/
theorem exists_ordered (h : s.Journal cs) (hsize : (recorded cs).length ≤ maxRows)
    {q : EventQuery} (hq : q.IsTemporal) (hlimit : q.limit = none) (p : Predicate) :
    ∃ xs ⊆ recorded cs, q.rows s = xs.map Recorded.row ∧
      { q with predicates := q.predicates ++ [p] }.rows s =
        (xs.filter fun x => p.holds s x.row).map Recorded.row := by
  refine ⟨_, fun x hx => ?_, h.rows_of_unlimited hsize hq hlimit, ?_⟩
  · exact (List.mem_filter.1 (List.mem_mergeSort.1 hx)).1
  · have hkeys : (((recorded cs).filter fun x =>
        q.predicates.all fun p => p.holds s x.row).map (Recorded.sortKey q.order)).Nodup :=
      (h.sortKeys_nodup q.order).sublist (List.filter_sublist.map _)
    have hboth : ((recorded cs).filter fun x =>
        (q.predicates ++ [p]).all fun p => p.holds s x.row) =
        ((recorded cs).filter fun x => q.predicates.all fun p => p.holds s x.row).filter
          fun x => p.holds s x.row := by
      rw [List.filter_filter]
      refine List.filter_congr fun x _ => ?_
      rw [List.all_append, List.all_cons, List.all_nil, Bool.and_true, Bool.and_comm]
    rw [h.rows_of_unlimited (q := { q with predicates := q.predicates ++ [p] }) hsize hq hlimit,
      hboth, filter_mergeSort _ hkeys]

end Store.Journal

end Provenance
