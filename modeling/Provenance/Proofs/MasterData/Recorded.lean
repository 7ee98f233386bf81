import Mathlib.Data.List.Pairwise
import Provenance.Proofs.Event.Reassembly
import Provenance.Store.Hierarchy

/-!
# Recorded master data

The tables of elements, of their attributes and of their links hold the rows of the recorded
elements, one after the other: requests by their numbers, and the elements of a request by their
places.  The same element of a vocabulary can be recorded many times, and each has one latest
recording: the one that is not before any other of the same name.

## Main definitions

* `RecordedElement`, `recordedElements` — a recorded element, and those of some requests.
* `RecordedElement.name` — the vocabulary and the id.
* `RecordedElement.IsBefore`, `RecordedElement.IsLatest` — the order of recordings, and its ends.

## Main results

* `Store.Journal.recordedElements_isBefore` — recorded elements are in order.
* `Store.Journal.exists_isLatest`, `Store.Journal.isLatest_unique` — **each element has one latest
  recording.**
* `Store.Journal.isCurrent_iff` — the recordings that the store takes to be current.
-/

namespace Provenance

/-- A recorded element: the request that it came with, its place in it, and the element as given. -/
structure RecordedElement where
  captured : Captured
  index : Nat
  element : MasterData

/-- The elements of captured requests, one request after the other. -/
def recordedElements (cs : List Captured) : List RecordedElement :=
  cs.flatMap fun c => (numbered 0 c.request.masterData).map fun p => ⟨c, p.1, p.2⟩

namespace RecordedElement

/-- What identifies a recorded element. -/
def key (x : RecordedElement) : PairKey := (x.captured.id, .integer x.index)

/-- The vocabulary and the id of an element. -/
def name (x : RecordedElement) : String × String := (x.element.vocabulary, x.element.id)

/-- The row of a recorded element. -/
def row (x : RecordedElement) : ElementRow := x.element.row x.captured.id x.index

@[simp] theorem key_row (x : RecordedElement) : x.row.key = x.key := rfl

/-- The rows of a recorded element in each table. -/
def rows (x : RecordedElement) : (t : Table) → List t.Row
  | .elements => [x.row]
  | .attributes => x.element.attributeRows x.captured.id x.index
  | .links => x.element.linkRows x.captured.id x.index
  | _ => []

/-- The order of recorded elements: requests by their numbers, and the elements of a request by
their places. -/
def IsBefore (x y : RecordedElement) : Prop :=
  x.captured.id < y.captured.id ∨ x.captured.id = y.captured.id ∧ x.index < y.index

theorem not_isBefore_self (x : RecordedElement) : ¬x.IsBefore x := by
  unfold IsBefore
  omega

theorem IsBefore.not_isBefore {x y : RecordedElement} (h : x.IsBefore y) : ¬y.IsBefore x := by
  unfold IsBefore at h ⊢
  omega

theorem IsBefore.key_ne {x y : RecordedElement} (h : x.IsBefore y) : x.key ≠ y.key := by
  intro heq
  obtain ⟨hrequest, hindex⟩ := Prod.mk.inj heq
  have hindex : (x.index : Int) = y.index := Cell.integer.inj hindex
  unfold IsBefore at h
  omega

/-- The latest recording of an element: none of the same name comes after it. -/
structure IsLatest (cs : List Captured) (x : RecordedElement) : Prop where
  mem : x ∈ recordedElements cs
  newest : ∀ y ∈ recordedElements cs, y.name = x.name → ¬x.IsBefore y

end RecordedElement

open RecordedElement

/-- Whether a table holds elements or parts of elements. -/
def Table.isOfElements : Table → Bool
  | .elements | .attributes | .links => true
  | _ => false

namespace Store.Journal

variable {s : Store} {cs : List Captured}

/-! ### Rows and order -/

/-- The rows of all recorded elements, one element after the other. -/
theorem rows_eq_flatMap_elements (h : s.Journal cs) {t : Table} (ht : t.isOfElements = true) :
    s.rows t = (recordedElements cs).flatMap fun x => x.rows t := by
  have hcaptured : t.isCaptured = true := by
    cases t <;> first | rfl | exact absurd ht (by decide)
  have hrows (c : Captured) : c.rows t =
      ((numbered 0 c.request.masterData).map fun p => (⟨c, p.1, p.2⟩ : RecordedElement)).flatMap
        fun x => x.rows t := by
    rw [List.flatMap_map]
    cases t <;> first | rfl | exact absurd ht (by decide)
  rw [h.rows_eq t hcaptured, recordedElements, List.flatMap_assoc]
  exact congrArg (List.flatMap · cs) (funext hrows)

theorem elements_eq (h : s.Journal cs) : s.elements = (recordedElements cs).map row := by
  rw [List.map_eq_flatMap]
  exact h.rows_eq_flatMap_elements (t := .elements) rfl

/-- **Recorded elements are in order.** -/
theorem recordedElements_isBefore (h : s.Journal cs) :
    (recordedElements cs).Pairwise IsBefore := by
  refine h.pairwise_numbered (fun c p q hlt => ?_) fun c d p q hlt => ?_
  · exact .inr ⟨rfl, hlt⟩
  · exact .inl hlt

/-- No two recorded elements have the same key. -/
theorem recordedElements_keys_nodup (h : s.Journal cs) :
    ((recordedElements cs).map key).Nodup := by
  rw [List.Nodup, List.pairwise_map]
  exact h.recordedElements_isBefore.imp IsBefore.key_ne

/-! ### Latest recordings -/

/-- Of two recorded elements one comes before the other. -/
theorem isBefore_or (h : s.Journal cs) {x y : RecordedElement} (hx : x ∈ recordedElements cs)
    (hy : y ∈ recordedElements cs) (hne : x ≠ y) : x.IsBefore y ∨ y.IsBefore x := by
  have hsome : (recordedElements cs).Pairwise fun x y => x.IsBefore y ∨ y.IsBefore x :=
    h.recordedElements_isBefore.imp .inl
  have : Std.Symm fun x y : RecordedElement => x.IsBefore y ∨ y.IsBefore x := ⟨fun _ _ => Or.symm⟩
  exact hsome.forall hx hy hne

/-- **Every element that was recorded has a latest recording.** -/
theorem exists_isLatest (h : s.Journal cs) {x : RecordedElement} (hx : x ∈ recordedElements cs) :
    ∃ y : RecordedElement, y.IsLatest cs ∧ y.name = x.name := by
  have hmem {y : RecordedElement} : y ∈ (recordedElements cs).filter (fun y => y.name == x.name) ↔
      y ∈ recordedElements cs ∧ y.name = x.name := by
    rw [List.mem_filter, beq_iff_eq]
  -- the recordings of this name are in order, so the last of them is the latest
  have hne : (recordedElements cs).filter (fun y => y.name == x.name) ≠ [] :=
    List.ne_nil_of_mem (hmem.2 ⟨hx, rfl⟩)
  obtain ⟨hlast, hname⟩ := hmem.1 (List.getLast_mem hne)
  refine ⟨_, ⟨hlast, fun z hz hzname => ?_⟩, hname⟩
  have hz := hmem.2 ⟨hz, hzname.trans hname⟩
  have hsorted := h.recordedElements_isBefore.filter fun y => y.name == x.name
  rw [← List.dropLast_append_getLast hne, List.mem_append, List.mem_singleton] at hz
  rcases hz with hz | rfl
  · exact (hsorted.rel_dropLast_getLast hz).not_isBefore
  · exact not_isBefore_self _

/-- **No element has two latest recordings.** -/
theorem isLatest_unique (h : s.Journal cs) {x y : RecordedElement} (hx : x.IsLatest cs)
    (hy : y.IsLatest cs) (hname : x.name = y.name) : x = y := by
  by_contra hne
  rcases h.isBefore_or hx.mem hy.mem hne with hbefore | hbefore
  · exact hx.newest y hy.mem hname.symm hbefore
  · exact hy.newest x hx.mem hname hbefore

/-- A recording is taken to be current if no later one of the same name is there. -/
theorem isCurrent_iff (h : s.Journal cs) {x : RecordedElement} (hx : x ∈ recordedElements cs) :
    s.isCurrent x.element.vocabulary x.element.id x.captured.id (.integer x.index) = true ↔
      x.IsLatest cs := by
  -- a row makes the recording outdated exactly if its element has the name and comes later
  have hnewer (y : RecordedElement) :
      (y.element.vocabulary == x.element.vocabulary && y.element.id == x.element.id &&
        (decide (x.captured.id < y.captured.id) || (y.captured.id == x.captured.id &&
          (Cell.integer y.index).order (.integer x.index) == some .gt))) = true ↔
        y.name = x.name ∧ x.IsBefore y := by
    simp only [name, IsBefore, Bool.and_eq_true, Bool.or_eq_true, beq_iff_eq, decide_eq_true_eq,
      Cell.order_integer, Option.some.injEq, Int.compare_eq_gt, Prod.mk.injEq, Int.ofNat_lt,
      @eq_comm _ x.captured.id]
  simp only [isCurrent, h.elements_eq, List.any_map, Bool.not_eq_true', List.any_eq_false]
  constructor
  · intro hall
    exact ⟨hx, fun y hy hname hbefore => hall y hy ((hnewer y).2 ⟨hname, hbefore⟩)⟩
  · intro hlatest y hy hrow
    obtain ⟨hname, hbefore⟩ := (hnewer y).1 hrow
    exact hlatest.newest y hy hname hbefore

/-! ### Current rows -/

/-- **The current elements are the rows of the latest recordings.** -/
theorem exists_currentElements (h : s.Journal cs) :
    ∃ xs : List RecordedElement, xs.Sublist (recordedElements cs) ∧
      (∀ x, x ∈ xs ↔ x.IsLatest cs) ∧ s.currentElements = xs.map row := by
  refine ⟨(recordedElements cs).filter fun x =>
    s.isCurrent x.element.vocabulary x.element.id x.captured.id (.integer x.index),
    List.filter_sublist, fun x => ?_, ?_⟩
  · rw [List.mem_filter]
    exact ⟨fun ⟨hx, hcurrent⟩ => (h.isCurrent_iff hx).1 hcurrent,
      fun hx => ⟨hx.mem, (h.isCurrent_iff hx.mem).2 hx⟩⟩
  · rw [currentElements, h.elements_eq, List.filter_map]
    rfl

theorem owner_attributeRows (x : RecordedElement) :
    ∀ r ∈ x.rows .attributes, AttributeRow.owner r = x.key := by
  intro r hr
  obtain ⟨_, -, rfl⟩ := List.mem_map.1 hr
  rfl

theorem owner_linkRows (x : RecordedElement) : ∀ r ∈ x.rows .links, LinkRow.owner r = x.key := by
  intro r hr
  obtain ⟨_, -, rfl⟩ := List.mem_map.1 hr
  rfl

end Store.Journal

end Provenance
