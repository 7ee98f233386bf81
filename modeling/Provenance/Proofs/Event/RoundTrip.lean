import Provenance.Proofs.Event.Sameness

/-!
# What was captured is fetched

A query without predicates selects all events, in the order in which they were captured.  So after a
capture it gives what it gave before, and then the events of the request, one by one.

These are the events that were given, except for the instants of which a store does not give back
the milliseconds.  `Instant.isStorable` tells which those are: in a calendar with leap seconds, only
the leap second after its last second.

## Main results

* `EventQuery.rows_of_unordered` — the rows that are selected without an order and a limit.
* `Store.Journal.fetch_all` — all recorded events are fetched.
* `Store.fetch_after_capture` — **when a captured event is fetched as it was given.**
-/

namespace Provenance

theorem getElem?_numbered {α : Type} (start i : Nat) (as : List α) :
    (numbered start as)[i]? = as[i]?.map fun a => (start + i, a) := by
  simp only [numbered, List.getElem?_map, List.getElem?_zipIdx, Option.map_map]
  rfl

/-- Without an order the rows of matching events are selected in the order in which they are
stored. -/
theorem EventQuery.rows_eq_take {q : EventQuery} {s : Store} (horder : q.order = none)
    (h : s.events.Pairwise fun a b => a.compareKey b = .lt) :
    q.rows s =
      (s.events.filter fun e => q.predicates.all fun p => p.holds s e).take (rowCount q.limit) := by
  have hsorted (a b : EventRow) (hlt : a.compareKey b = .lt) :
      (q.compareRows a b != .gt) = true := by
    simp only [compareRows, horder, hlt]
    decide
  rw [rows, matching_eq, List.mergeSort_of_pairwise ((h.filter _).imp (hsorted _ _))]

/-- Without an order and a limit all rows of matching events are selected. -/
theorem EventQuery.rows_of_unordered {q : EventQuery} {s : Store} (horder : q.order = none)
    (hlimit : q.limit = none) (hsize : s.events.length ≤ maxRows)
    (h : s.events.Pairwise fun a b => a.compareKey b = .lt) :
    q.rows s = s.events.filter fun e => q.predicates.all fun p => p.holds s e := by
  rw [rows_eq_take horder h, hlimit]
  exact List.take_of_length_le (Nat.le_trans (List.length_filter_le _ _) hsize)

/-- **All recorded events are fetched.** -/
theorem Store.Journal.fetch_all {s : Store} {cs : List Captured} (h : s.Journal cs)
    (hsize : s.events.length ≤ maxRows) :
    EventQuery.all.fetch s = .ok ((recorded cs).map Recorded.answer) := by
  have hcheck : EventQuery.all.checkStatement = .ok () := by decide
  have hrows : EventQuery.all.rows s = (recorded cs).map Recorded.row := by
    rw [EventQuery.rows_of_unordered rfl rfl hsize h.events_pairwise, ← h.events_eq]
    exact List.filter_eq_self.2 fun _ _ => rfl
  exact h.fetch_of_rows hcheck (List.Subset.refl _) hrows

namespace Store

variable {s after : Store} {r : CaptureRequest} {user : Option String} {recordTime : Instant}
  {id : Int}

/-- What is fetched before and after a capture. -/
theorem exists_fetch_all (hs : s.Reachable) (h : s.capture r user recordTime = .ok (after, id))
    (hsize : after.events.length ≤ maxRows) :
    ∃ old, EventQuery.all.fetch s = .ok old ∧
      EventQuery.all.fetch after =
        .ok (old ++ (Captured.mk id r user recordTime).recorded.map Recorded.answer) ∧
      ∀ d ∈ old, ∀ i, d.id ≠ some ⟨id, i⟩ := by
  obtain ⟨cs, -, hj⟩ := hs.exists_journal
  obtain ⟨rfl, -, hlast, -⟩ := capture_eq_record h
  have hold : s.events.length ≤ maxRows := by
    rw [record, List.length_append] at hsize
    omega
  refine ⟨_, hj.fetch_all hold, ?_, ?_⟩
  · have hafter := (hj.record (c := ⟨id, r, user, recordTime⟩) hlast).fetch_all hsize
    rw [hafter, recorded, List.flatMap_append, List.map_append, recorded, List.flatMap_cons,
      List.flatMap_nil, List.append_nil]
  · intro d hd i hid
    obtain ⟨x, hx, rfl⟩ := List.mem_map.1 hd
    obtain ⟨c, hc, hx⟩ := List.mem_flatMap.1 hx
    have hle := (hj.bounds c hc).2
    have hrequest := congrArg EventId.request (Option.some.inj hid)
    simp only [Captured.mem_recorded hx] at hrequest
    omega

/-- **Captured events are fetched as they were given**, one by one and after all that was captured
before, up to their instants; and the milliseconds of an instant come back exactly if it is
storable. -/
theorem fetch_after_capture (hs : s.Reachable) (hcheck : r.check = .ok ())
    (hnumeric : ∀ e ∈ r.events, e.isNumeric = true)
    (h : s.capture r user recordTime = .ok (after, id)) (hsize : after.events.length ≤ maxRows) :
    ∃ old new : List Event, EventQuery.all.fetch s = .ok old ∧
      EventQuery.all.fetch after = .ok (old ++ new) ∧
      (∀ d ∈ old, ∀ i, d.id ≠ some ⟨id, i⟩) ∧
      new.length = r.events.length ∧
      ∀ (i : Nat) (e : Event), r.events[i]? = some e → ∃ (d : Event) (t : Instant),
        new[i]? = some d ∧
        d.id = some ⟨id, i⟩ ∧
        d.recordTime = some t ∧ (recordTime.SameMillis t ↔ recordTime.isStorable = true) ∧
        e.Same (fun _ _ => True) d ∧
        (e.Same Instant.SameMillis d ↔ ∀ u ∈ e.instants, u.isStorable = true) := by
  obtain ⟨old, hold, hafter, hids⟩ := exists_fetch_all hs h hsize
  refine ⟨old, _, hold, hafter, hids, by simp [Captured.recorded, numbered], ?_⟩
  intro i e hi
  have he : e ∈ r.events := List.mem_of_getElem? hi
  let x : Recorded := ⟨⟨id, r, user, recordTime⟩, i, e⟩
  have hsame (R : Instant → Instant → Prop) : e.Same R x.answer ↔ ∀ t ∈ e.instants, R t t.kept :=
    Recorded.same_answer_iff (x := x) (CaptureRequest.check_of_mem hcheck he) (hnumeric e he)
  refine ⟨x.answer, recordTime.kept, ?_, rfl, rfl, recordTime.sameMillis_kept_iff, ?_, ?_⟩
  · simp only [Captured.recorded, List.getElem?_map, getElem?_numbered, hi, Option.map_some,
      Nat.zero_add]
    rfl
  · exact (hsame _).2 fun _ _ => trivial
  · rw [hsame]
    exact forall₂_congr fun t _ => t.sameMillis_kept_iff

/-- An event in the leap second after the last second of the calendar. -/
def lateEvent : Event where
  id := none
  kind := .object
  time := ⟨(Instant.lastDay + 1) * Instant.secondsPerDay - 1, Instant.nanosPerSecond⟩
  recordTime := none
  timezoneOffset := "+00:00"
  action := some .observe
  businessStep := none
  disposition := none
  readPoint := none
  businessLocation := none
  name := none
  transformation := none
  errorDeclaration := none
  epcs := []
  customFields := []
  businessTransactions := []
  parties := []

/-- A request with an event in the leap second after the last second of the calendar. -/
def lateRequest : CaptureRequest where
  documentTime := .epoch
  schemaVersion := "1.2"
  header := none
  callback := none
  events := [lateEvent]
  masterData := []

/-- The leap second after the last second of the calendar is not given back. -/
theorem fetch_lateRequest :
    ∃ d : Event, EventQuery.all.fetch (empty.record ⟨1, lateRequest, none, .epoch⟩) = .ok [d] ∧
      lateEvent.Same (fun _ _ => True) d ∧ ¬lateEvent.Same Instant.SameMillis d := by
  have hcapture : empty.capture lateRequest none .epoch =
      .ok (empty.record ⟨1, lateRequest, none, .epoch⟩, 1) :=
    capture_of_admitsAll (by simp [empty]) (by decide) (by decide +kernel)
  obtain ⟨old, new, hold, hafter, -, hlength, hnew⟩ :=
    fetch_after_capture .empty (by decide +kernel) (by decide) hcapture (by decide)
  obtain ⟨d, t, hd, -, -, -, hsame, hmillis⟩ := hnew 0 lateEvent rfl
  obtain rfl : old = [] := by
    have hempty : EventQuery.all.fetch empty = .ok [] := Journal.nil.fetch_all (Nat.zero_le _)
    exact Except.ok.inj (hold.symm.trans hempty)
  obtain ⟨d', rfl⟩ := List.length_eq_one_iff.1 hlength
  obtain rfl : d' = d := Option.some.inj hd
  refine ⟨d', hafter, hsame, fun h => ?_⟩
  have hstorable := hmillis.1 h lateEvent.time List.mem_cons_self
  exact absurd hstorable (by decide)

end Store

end Provenance
