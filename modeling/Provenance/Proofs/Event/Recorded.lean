import Provenance.Proofs.Store.Journal
import Provenance.Proofs.Store.Order

/-!
# Recorded events

The tables of events and of their parts hold the rows of the recorded events, one event after the
other.  The events are in the order of their keys: requests by their numbers, and the events of a
request by their places.

## Main definitions

* `Recorded`, `recorded` — a recorded event, and those of some requests.
* `Recorded.key`, `Recorded.rows` — what identifies a recorded event, and its rows.

## Main results

* `Store.Journal.rows_eq_flatMap` — the rows of all recorded events.
* `Store.Journal.recorded_pairwise`, `Store.Journal.recorded_keys_nodup` — recorded events are in
  order, and no two have the same key.
-/

namespace Provenance

/-! ### Numbered lists -/

@[simp] theorem numbered_nil {α : Type} (start : Nat) : numbered start ([] : List α) = [] := rfl

@[simp] theorem numbered_cons {α : Type} (start : Nat) (a : α) (as : List α) :
    numbered start (a :: as) = (start, a) :: numbered (start + 1) as := by
  simp [numbered]

/-- Numbering keeps the members in order. -/
theorem map_snd_numbered {α : Type} (start : Nat) (as : List α) :
    (numbered start as).map Prod.snd = as := by
  induction as generalizing start with
  | nil => rfl
  | cons a as ih => rw [numbered_cons, List.map_cons, ih]

/-- What was made of a numbered list, one for each member. -/
theorem exists_mem_numbered {α β : Type} {make : Nat × α → β} {P : β → Prop} {Q : α → Prop}
    (h : ∀ i a, P (make (i, a)) ↔ Q a) (start : Nat) (as : List α) :
    (∃ r ∈ (numbered start as).map make, P r) ↔ ∃ a ∈ as, Q a := by
  induction as generalizing start with
  | nil => simp
  | cons a as ih =>
    simp only [numbered_cons, List.map_cons, List.mem_cons, or_and_right, exists_or,
      exists_eq_left, h, ih]

theorem le_of_mem_numbered {α : Type} {start : Nat} {as : List α} {p : Nat × α}
    (h : p ∈ numbered start as) : start ≤ p.1 := by
  induction as generalizing start with
  | nil => exact absurd h List.not_mem_nil
  | cons a as ih =>
    rw [numbered_cons] at h
    rcases List.mem_cons.1 h with rfl | h
    · exact Nat.le_refl _
    · have := ih h
      omega

/-- Places ascend. -/
theorem numbered_pairwise {α : Type} (start : Nat) (as : List α) :
    (numbered start as).Pairwise fun p q => p.1 < q.1 := by
  induction as generalizing start with
  | nil => exact .nil
  | cons a as ih =>
    rw [numbered_cons]
    refine .cons (fun q hq => ?_) (ih (start + 1))
    have := le_of_mem_numbered hq
    simp only
    omega

/-! ### Recorded events -/

/-- A recorded event: the request that it came with, its place in it, and the event as given. -/
structure Recorded where
  captured : Captured
  index : Nat
  event : Event

/-- The events of a captured request. -/
def Captured.recorded (c : Captured) : List Recorded :=
  (numbered 0 c.request.events).map fun (i, e) => ⟨c, i, e⟩

/-- The events of captured requests, one request after the other. -/
def recorded (cs : List Captured) : List Recorded := cs.flatMap Captured.recorded

namespace Recorded

/-- What identifies a recorded event. -/
def key (x : Recorded) : PairKey := (x.captured.id, .integer x.index)

/-- The row of a recorded event. -/
def row (x : Recorded) : EventRow := x.event.row x.captured.id x.index x.captured.recordTime

@[simp] theorem key_row (x : Recorded) : x.row.key = x.key := rfl

/-- The rows of a recorded event in each table. -/
def rows (x : Recorded) : (t : Table) → List t.Row
  | .events => [x.row]
  | .epcs => x.event.epcRows x.captured.id x.index
  | .fields => x.event.fieldRows x.captured.id x.index
  | .transactions => x.event.transactionRows x.captured.id x.index
  | .parties => x.event.partyRows x.captured.id x.index
  | .declarations => x.event.declarationRows x.captured.id x.index
  | .correctives => x.event.correctiveRows x.captured.id x.index
  | _ => []

theorem compareKey_of_request_lt {x y : Recorded} (h : x.captured.id < y.captured.id) :
    x.row.compareKey y.row = .lt := by
  simp only [EventRow.compareKey, row, Event.row, Int.compare_eq_lt.2 h, Ordering.then]

theorem compareKey_of_index_lt {x y : Recorded} (hrequest : x.captured.id = y.captured.id)
    (h : x.index < y.index) : x.row.compareKey y.row = .lt := by
  have hindex : compare (x.index : Int) (y.index : Int) = .lt :=
    Int.compare_eq_lt.2 (Int.ofNat_lt.2 h)
  simp only [EventRow.compareKey, row, Event.row, hrequest, Int.compare_eq_eq.2,
    Cell.sortOrder_integer, hindex, Ordering.then]

end Recorded

/-- Whether a table holds events or parts of events. -/
def Table.isOfEvents : Table → Bool
  | .events | .epcs | .fields | .transactions | .parties | .declarations | .correctives => true
  | _ => false

theorem Captured.rows_eq_flatMap (c : Captured) {t : Table} (h : t.isOfEvents = true) :
    c.rows t = c.recorded.flatMap fun x => x.rows t := by
  rw [recorded, List.flatMap_map]
  cases t <;> first | rfl | exact absurd h (by decide)

theorem Captured.mem_recorded {c : Captured} {x : Recorded} (h : x ∈ c.recorded) :
    x.captured = c := by
  obtain ⟨p, -, rfl⟩ := List.mem_map.1 h
  rfl

namespace Store.Journal

variable {s : Store} {cs : List Captured}

/-- The rows of all recorded events, one event after the other. -/
theorem rows_eq_flatMap (h : s.Journal cs) {t : Table} (ht : t.isOfEvents = true) :
    s.rows t = (recorded cs).flatMap fun x => x.rows t := by
  have hcaptured : t.isCaptured = true := by
    cases t <;> first | rfl | exact absurd ht (by decide)
  rw [h.rows_eq t hcaptured, recorded, List.flatMap_assoc]
  exact congrArg (List.flatMap · cs) (funext fun c => c.rows_eq_flatMap ht)

theorem events_eq (h : s.Journal cs) : s.events = (recorded cs).map Recorded.row := by
  rw [List.map_eq_flatMap]
  exact h.rows_eq_flatMap (t := .events) rfl

/-- What is numbered in each captured request is in order, where places and requests are. -/
theorem pairwise_numbered {α β : Type} (h : s.Journal cs) {items : Captured → List α}
    {make : Captured → Nat × α → β} {R : β → β → Prop}
    (hindex : ∀ c p q, p.1 < q.1 → R (make c p) (make c q))
    (hrequest : ∀ c d p q, c.id < d.id → R (make c p) (make d q)) :
    (cs.flatMap fun c => (numbered 0 (items c)).map (make c)).Pairwise R := by
  rw [List.pairwise_flatMap]
  constructor
  · intro c _
    rw [List.pairwise_map]
    exact (numbered_pairwise 0 (items c)).imp fun hlt => hindex c _ _ hlt
  · have hids := h.ascending
    rw [List.pairwise_map] at hids
    refine hids.imp fun hlt x hx y hy => ?_
    obtain ⟨p, -, rfl⟩ := List.mem_map.1 hx
    obtain ⟨q, -, rfl⟩ := List.mem_map.1 hy
    exact hrequest _ _ p q hlt

/-- **Recorded events are in the order of their keys.** -/
theorem recorded_pairwise (h : s.Journal cs) :
    (recorded cs).Pairwise fun x y => x.row.compareKey y.row = .lt := by
  refine h.pairwise_numbered (fun c p q hlt => ?_) fun c d p q hlt => ?_
  · exact Recorded.compareKey_of_index_lt rfl hlt
  · exact Recorded.compareKey_of_request_lt hlt

theorem events_pairwise (h : s.Journal cs) :
    s.events.Pairwise fun a b => a.compareKey b = .lt := by
  rw [h.events_eq, List.pairwise_map]
  exact h.recorded_pairwise

/-- No two recorded events have the same key. -/
theorem recorded_keys_nodup (h : s.Journal cs) : ((recorded cs).map Recorded.key).Nodup := by
  rw [List.Nodup, List.pairwise_map]
  exact h.recorded_pairwise.imp EventRow.key_ne_of_compareKey

theorem events_keys_nodup (h : s.Journal cs) : (s.events.map EventRow.key).Nodup := by
  rw [h.events_eq, List.map_map]
  exact h.recorded_keys_nodup

end Store.Journal

end Provenance
