import Mathlib.Data.List.Sort
import Provenance.Proofs.Query.Answer
import Provenance.Proofs.Query.Ordering

/-!
# The places of events in an answer

Where parameters order by a time, the events of an answer come in the direction that they ask for,
by the milliseconds of this time as it was captured.  Events of the same time stay in the order in
which they were recorded, whatever the direction, and so do all events where nothing is ordered by.

## Main definitions

* `Recorded.millisOf`, `SortDirection.Precedes` — the time that is ordered by, and when one comes
  before another.
* `Recorded.IsPlacedBefore` — that one recorded event stands before another in an answer.

## Main results

* `Recorded.isPlacedBefore_iff` — the key that is sorted by tells the places of events.
* `Store.Journal.exists_placed` — **the events that a query selects, in their places.**
-/

namespace Provenance

/-- When a number comes before another in a direction. -/
def SortDirection.Precedes : SortDirection → Int → Int → Prop
  | ascending, m, n => m < n
  | descending, m, n => n < m

theorem SortDirection.signed_lt_iff (d : SortDirection) (m n : Int) :
    d.signed m < d.signed n ↔ d.Precedes m n := by
  cases d with
  | ascending => exact Iff.rfl
  | descending =>
    simp only [signed, Precedes]
    omega

theorem SortDirection.signed_inj (d : SortDirection) (m n : Int) :
    d.signed m = d.signed n ↔ m = n := by
  cases d with
  | ascending => exact Iff.rfl
  | descending =>
    simp only [signed]
    omega

namespace Recorded

variable {x y : Recorded} {order : Option (EventField × SortDirection)}

/-- The time of a recorded event that a field orders by, in milliseconds: when it was recorded, or
when it happened. -/
def millisOf (x : Recorded) : EventField → Int
  | .recordTime => x.captured.recordTime.millis
  | _ => x.event.time.millis

/-- **That one recorded event stands before another in an answer**: by the time that is ordered by,
and between events of the same time, or where nothing is ordered by, by their keys. -/
def IsPlacedBefore (order : Option (EventField × SortDirection)) (x y : Recorded) : Prop :=
  match order with
  | some (f, d) =>
    d.Precedes (x.millisOf f) (y.millisOf f) ∨ x.millisOf f = y.millisOf f ∧ x.IsBefore y
  | none => x.IsBefore y

/-- The key that is sorted by tells the places of events. -/
theorem isPlacedBefore_iff :
    x.IsPlacedBefore order y ↔ x.sortKey order < y.sortKey order := by
  have hkeys : toLex (x.captured.id, (x.index : Int)) < toLex (y.captured.id, (y.index : Int)) ↔
      x.IsBefore y := by
    rw [Prod.Lex.toLex_lt_toLex, IsBefore, Int.ofNat_lt]
  rw [sortKey, sortKey, Prod.Lex.toLex_lt_toLex, hkeys]
  cases order with
  | none => simp [IsPlacedBefore, leading]
  | some order =>
    obtain ⟨f, d⟩ := order
    have hleading (z : Recorded) : z.leading (some (f, d)) = d.signed (z.millisOf f) := by
      cases f <;> rfl
    rw [hleading, hleading, d.signed_lt_iff, d.signed_inj]
    rfl

/-- No two recorded events stand before each other. -/
theorem IsPlacedBefore.not_isPlacedBefore (h : x.IsPlacedBefore order y) :
    ¬y.IsPlacedBefore order x := by
  rw [isPlacedBefore_iff] at h ⊢
  exact lt_asymm h

instance : Std.Asymm (IsPlacedBefore order) := ⟨fun _ _ h => h.not_isPlacedBefore⟩

end Recorded

/-- **The events that a query selects, in their places**: all recorded events of which its
predicates hold, as many as its limit lets through. -/
theorem Store.Journal.exists_placed {s : Store} {cs : List Captured} (h : s.Journal cs)
    {q : EventQuery} (hq : q.IsTemporal) :
    ∃ xs : List Recorded, xs.Pairwise (Recorded.IsPlacedBefore q.order) ∧
      (∀ x, x ∈ xs ↔
        x ∈ recorded cs ∧ (q.predicates.all fun p => p.holds s x.row) = true) ∧
      q.rows s = (xs.take (rowCount q.limit)).map Recorded.row := by
  refine ⟨_, ?_, fun x => ?_, h.rows_of_temporal hq⟩
  · have hkeys : (((recorded cs).filter fun x =>
        q.predicates.all fun p => p.holds s x.row).map (Recorded.sortKey q.order)).Nodup :=
      (h.sortKeys_nodup q.order).sublist (List.filter_sublist.map _)
    exact (pairwise_lt_mergeSort _ hkeys).imp Recorded.isPlacedBefore_iff.2
  · rw [List.mem_mergeSort, List.mem_filter]

end Provenance
