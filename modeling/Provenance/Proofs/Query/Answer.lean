import Provenance.Proofs.Delivery.Conservation
import Provenance.Proofs.Event.RoundTrip
import Provenance.Proofs.Query.Filters

/-!
# The answer to filters

The plan of a list of filters has a predicate for each of them, no order and no limit.  So if its
statement is carried out, the answer holds the recorded events that all filters ask for, each once
and in the order in which they were recorded.

The statement of many filters exceeds the limits of the store, however few values it binds.

## Main definitions

* `FiltersMeet` — the predicates of filters.
* `Recorded.IsBefore` — the order of recorded events.

## Main results

* `EventPlan.ofParameters_of_plain` — the plan of filters.
* `Store.Journal.fetch_filters` — **what filters find.**
* `Session.execute_of_plain` — **the answer to filters.**
-/

namespace Provenance

/-! ### Plans of filters -/

/-- The predicates of filters, one for each. -/
def FiltersMeet (s : Store) (cs : List Captured) : List Parameter → List Predicate → Prop :=
  List.Forall₂ fun p f => p.Meets s cs f

section Plans

variable {s : Store} {cs : List Captured} {ps : List Parameter} {fs : List Predicate}

theorem FiltersMeet.exists_parameter (h : FiltersMeet s cs ps fs) {f : Predicate} (hf : f ∈ fs) :
    ∃ p ∈ ps, p.Meets s cs f := by
  induction h with
  | nil => exact absurd hf List.not_mem_nil
  | cons hmeets _ ih =>
    rcases List.mem_cons.1 hf with rfl | hf
    · exact ⟨_, List.mem_cons_self, hmeets⟩
    · obtain ⟨p, hp, hmeets⟩ := ih hf
      exact ⟨p, List.mem_cons_of_mem _ hp, hmeets⟩

/-- All predicates hold of the recorded events that all filters ask for. -/
theorem FiltersMeet.all_iff (h : FiltersMeet s cs ps fs) {x : Recorded} (hx : x ∈ recorded cs) :
    (fs.all fun f => f.holds s x.row) = true ↔ ∀ p ∈ ps, p.Asks x := by
  induction h with
  | nil => simp
  | cons hmeets _ ih =>
    rw [List.all_cons, Bool.and_eq_true, hmeets.holds_iff x hx, ih, List.forall_mem_cons]

/-- Filters that are read have predicates. -/
theorem exists_filtersMeet (h : s.Journal cs) (hps : ∀ p ∈ ps, p.IsPlain) {clauses : List Clause}
    (hclauses : ps.mapM Parameter.clause = .ok clauses) :
    ∃ fs : List Predicate, clauses = fs.map .filter ∧ FiltersMeet s cs ps fs := by
  induction ps generalizing clauses with
  | nil =>
    obtain rfl := Except.ok.inj hclauses
    exact ⟨[], rfl, .nil⟩
  | cons p ps ih =>
    obtain ⟨c, rest, hc, hrest, rfl⟩ := mapM_cons_eq_ok_iff.1 hclauses
    obtain ⟨f, rfl, hf⟩ := Parameter.meets_of_clause h (hps p List.mem_cons_self) hc
    obtain ⟨fs, rfl, hfs⟩ := ih (fun q hq => hps q (List.mem_cons_of_mem _ hq)) hrest
    exact ⟨f :: fs, rfl, .cons hf hfs⟩

/-- Filters order nothing and set no limit. -/
theorem EventPlan.ofClauses_filters (fs : List Predicate) :
    ofClauses (fs.map .filter) = .ok ⟨⟨fs, none, none⟩, none⟩ := by
  have hfilters : (fs.map Clause.filter).filterMap Clause.predicate? = fs := by
    rw [List.filterMap_map]
    exact List.filterMap_some
  have hlast {α : Type} (pick : Clause → Option α) (hpick : ∀ f, pick (.filter f) = none) :
      Clause.last pick (fs.map .filter) = none := by
    simp [Clause.last, List.filterMap_map, hpick]
  rw [ofClauses, hfilters, hlast Clause.countLimit? fun _ => rfl,
    hlast Clause.maxCount? fun _ => rfl, hlast Clause.orderBy? fun _ => rfl]
  rfl

/-- **The plan of filters has a predicate for each of them**, and nothing else. -/
theorem EventPlan.ofParameters_of_plain (h : s.Journal cs) {plan : EventPlan}
    (hps : ∀ p ∈ ps, p.IsPlain) (hplan : ofParameters ps = .ok plan) :
    ∃ fs, plan = ⟨⟨fs, none, none⟩, none⟩ ∧ FiltersMeet s cs ps fs := by
  obtain ⟨clauses, hclauses, hplan⟩ := bind_eq_ok_iff.1 hplan
  obtain ⟨fs, rfl, hfs⟩ := exists_filtersMeet h hps hclauses
  rw [ofClauses_filters] at hplan
  exact ⟨fs, (Except.ok.inj hplan).symm, hfs⟩

end Plans

/-! ### The answer -/

/-- The order of recorded events: requests by their numbers, and the events of a request by their
places. -/
def Recorded.IsBefore (x y : Recorded) : Prop :=
  x.captured.id < y.captured.id ∨ x.captured.id = y.captured.id ∧ x.index < y.index

theorem Recorded.isBefore_of_compareKey {x y : Recorded} (h : x.row.compareKey y.row = .lt) :
    x.IsBefore y := by
  rw [EventRow.compareKey, Ordering.then_eq_lt] at h
  rcases h with hrequest | ⟨hrequest, hindex⟩
  · exact .inl (Int.compare_eq_lt.1 hrequest)
  · refine .inr ⟨Int.compare_eq_eq.1 hrequest, ?_⟩
    simp only [row, Event.row, Cell.sortOrder_integer] at hindex
    exact Int.ofNat_lt.1 (Int.compare_eq_lt.1 hindex)

namespace Store.Journal

variable {s : Store} {cs : List Captured}

theorem recorded_isBefore (h : s.Journal cs) : (recorded cs).Pairwise Recorded.IsBefore :=
  h.recorded_pairwise.imp Recorded.isBefore_of_compareKey

/-- **What filters find**: the recorded events that all of them ask for. -/
theorem fetch_filters (h : s.Journal cs) (hsize : (recorded cs).length ≤ maxRows)
    {ps : List Parameter} {fs : List Predicate} (hfs : FiltersMeet s cs ps fs)
    (hcheck : (EventQuery.mk fs none none).checkStatement = .ok ()) :
    ∃ xs : List Recorded, xs.Sublist (recorded cs) ∧
      (∀ x ∈ recorded cs, x ∈ xs ↔ ∀ p ∈ ps, p.Asks x) ∧
      (EventQuery.mk fs none none).fetch s = .ok (xs.map Recorded.answer) := by
  have hrows : (EventQuery.mk fs none none).rows s =
      ((recorded cs).filter fun x => fs.all fun f => f.holds s x.row).map Recorded.row := by
    rw [EventQuery.rows_of_unordered rfl rfl (by rwa [h.events_eq, List.length_map])
      h.events_pairwise, h.events_eq, List.filter_map]
    rfl
  refine ⟨_, List.filter_sublist, fun x hx => ?_,
    h.fetch_of_rows hcheck List.filter_sublist.subset hrows⟩
  rw [List.mem_filter, hfs.all_iff hx, and_iff_right hx]

end Store.Journal

namespace Session

open StandingQuery

/-- **The answer to filters.**  Filters that pass the check have a plan.  If its statement stays
within the limits, the answer holds those of the captured events that all filters ask for, each once
and in the order of their keys.

The statement stays within the limits if it binds no more values than a statement may and there are
not too many filters.  It exceeds them, and the store fails, if it binds too many values, or if
there are too many filters and each has a value. -/
theorem execute_of_plain (moves : List Move) {ps : List Parameter}
    (hsize : (recorded (run moves).captured).length ≤ maxRows)
    (hcheck : simpleEvent.check ps = .ok ()) (hps : ∀ p ∈ ps, p.IsPlain) :
    ∃ plan, EventPlan.ofParameters ps = .ok plan ∧
      (plan.query.checkStatement = .ok () →
        ∃ xs : List Recorded, xs.Sublist (recorded (run moves).captured) ∧
          xs.Pairwise Recorded.IsBefore ∧
          (∀ x ∈ recorded (run moves).captured, x ∈ xs ↔ ∀ p ∈ ps, p.Asks x) ∧
          simpleEvent.execute (run moves).store ps none = .ok (.events (xs.map Recorded.answer))) ∧
      (∀ e, plan.query.checkStatement = .error e →
        simpleEvent.execute (run moves).store ps none = .error (.storage e)) ∧
      (plan.query.statement.values.length ≤ maxBound → ps.length ≤ maxConditions →
        plan.query.checkStatement = .ok ()) ∧
      (maxBound < plan.query.statement.values.length →
        ∃ e, plan.query.checkStatement = .error e) ∧
      ((∀ p ∈ ps, p.values ≠ []) → maxDepth + 1 < ps.length →
        ∃ e, plan.query.checkStatement = .error e) := by
  have hjournal := (ledger_run moves).journal
  obtain ⟨plan, hplan, -⟩ := map_eq_ok_iff.1 hcheck
  obtain ⟨fs, rfl, hfs⟩ := EventPlan.ofParameters_of_plain hjournal hps hplan
  have hexecute := execute_of_plan hplan (run moves).store none
  refine ⟨_, hplan, fun hok => ?_, fun e he => ?_, fun hbound hlength => ?_,
    EventQuery.exists_checkStatement_of_wide, fun hvalues hlength => ?_⟩
  · obtain ⟨xs, hsub, hmem, hfetch⟩ := hjournal.fetch_filters hsize hfs hok
    refine ⟨xs, hsub, hjournal.recorded_isBefore.sublist hsub, hmem, ?_⟩
    rw [hexecute, EventPlan.execute, EventPlan.execute.run, hfetch]
    rfl
  · rw [hexecute, EventPlan.execute, EventPlan.execute.run, EventQuery.fetch, he]
    rfl
  · refine EventQuery.checkStatement_of_within hbound (fun f hf => ?_) (hfs.length_eq ▸ hlength)
    obtain ⟨p, -, hmeets⟩ := hfs.exists_parameter hf
    exact hmeets.startsWithin
  · refine EventQuery.exists_checkStatement_of_many (fun f hf => ?_) (hfs.length_eq ▸ hlength)
    obtain ⟨p, hp, hmeets⟩ := hfs.exists_parameter hf
    exact hmeets.chooses (hvalues p hp)

/-- An event without a business step. -/
def bareEvent : Event := { Store.lateEvent with time := .epoch }

/-- An event with a business step. -/
def stepEvent : Event := { bareEvent with businessStep := some "a" }

/-- A request with both events, as it was captured. -/
def stepCaptured : Captured :=
  ⟨1, { Store.lateRequest with events := [bareEvent, stepEvent] }, none, .epoch⟩

/-- The event with a business step, as it was recorded. -/
def stepRecorded : Recorded := ⟨stepCaptured, 1, stepEvent⟩

/-- A session that captures the request. -/
def stepMoves : List Move := [.capture stepCaptured.request none .epoch]

theorem recorded_stepMoves :
    recorded (run stepMoves).captured = [⟨stepCaptured, 0, bareEvent⟩, stepRecorded] := by
  rw [stepMoves, run_capture (by decide +kernel)]
  rfl

/-- The filter that asks for the business step. -/
def stepFilter : Parameter := ⟨"EQ_bizStep", ["a"]⟩

theorem isPlain_stepFilter : stepFilter.IsPlain := by
  constructor
  · decide
  all_goals simp [stepFilter, ← String.toList_inj]

/-- Filters that ask for different custom fields. -/
def fieldFilters (n : Nat) : List Parameter :=
  (List.range n).map fun i => ⟨"EXISTS_a#" ++ toString i, ["1"]⟩

/-- The custom field that one of these filters asks for. -/
def fieldSelector (i : Nat) : FieldSelector := ⟨.extension, "a", toString i, false⟩

theorem names_fieldSelector (i : Nat) : (fieldSelector i).Names ("a#" ++ toString i).toList where
  origin := .inl rfl
  space := (by decide : "a" ≠ "")
  name := by simp [fieldSelector]
  separator := by
    intro h
    have hdigit : '#' ∈ Nat.toDigits 10 i := by
      simpa [fieldSelector, Nat.toString_eq_ofList_toDigits] using h
    exact absurd (Nat.isDigit_of_mem_toDigits (by decide) (by decide) hdigit) (by decide)
  written := by simp [fieldSelector, FieldSelector.qualified]
  not_inner _ := by simp
  not_ilmd _ := by simp [FieldSelector.qualified, fieldSelector]

/-- The query of these filters. -/
def fieldQuery (n : Nat) : EventQuery :=
  ⟨(List.range n).map fun i => .customExists (fieldSelector i), none, none⟩

theorem plan_fieldFilters (n : Nat) :
    EventPlan.ofParameters (fieldFilters n) = .ok ⟨fieldQuery n, none⟩ := by
  have hclause (i : Nat) : Parameter.clause ⟨"EXISTS_a#" ++ toString i, ["1"]⟩ =
      .ok (.filter (.customExists (fieldSelector i))) := by
    have hname : "EXISTS_a#" ++ toString i = "EXISTS_" ++ ("a#" ++ toString i) := by
      simp [← String.toList_inj]
    exact Parameter.clause_of_existence hname (names_fieldSelector i)
  refine bind_eq_ok_iff.2 ⟨_, mapM_map_eq_ok fun i _ => hclause i, ?_⟩
  rw [fieldQuery, ← EventPlan.ofClauses_filters, List.map_map]
  rfl

theorem check_fieldFilters (n : Nat) : simpleEvent.check (fieldFilters n) = .ok () :=
  map_eq_ok_iff.2 ⟨_, plan_fieldFilters n, rfl⟩

theorem isPlain_fieldFilters {n : Nat} {p : Parameter} (hp : p ∈ fieldFilters n) : p.IsPlain := by
  obtain ⟨i, -, rfl⟩ := List.mem_map.1 hp
  constructor
  · simp [Parameter.isShaping, ← String.toList_inj]
  all_goals simp [← String.toList_inj]

theorem values_fieldFilters {n : Nat} {p : Parameter} (hp : p ∈ fieldFilters n) :
    p.values ≠ [] := by
  obtain ⟨i, -, rfl⟩ := List.mem_map.1 hp
  simp

/-- Each filter adds the same condition. -/
theorem extents_fieldQuery (n : Nat) : (fieldQuery n).predicates.map Predicate.extent =
    List.replicate n (Extent.ofPart 3 4 true) := by
  have hextent (i : Nat) : (Predicate.customExists (fieldSelector i)).extent =
      .ofPart 3 4 true := rfl
  rw [fieldQuery, List.map_map]
  simp [Function.comp_def, hextent]

theorem values_fieldQuery (n : Nat) : (fieldQuery n).statement.values.length = n * 3 + 1 := by
  rw [EventQuery.length_values_statement, extents_fieldQuery, List.map_replicate,
    List.sum_replicate_nat]
  rfl

/-- The event that has the business step is found, and the other one is not.  Very many filters
fail, although they bind few values. -/
theorem execute_fieldFilters :
    simpleEvent.execute (run stepMoves).store [stepFilter] none =
        .ok (.events [stepRecorded.answer]) ∧
      simpleEvent.check (fieldFilters 1100) = .ok () ∧
      (fieldQuery 1100).statement.values.length ≤ maxBound ∧
      ∃ e, simpleEvent.execute (run stepMoves).store (fieldFilters 1100) none =
        .error (.storage e) := by
  have hsize : (recorded (run stepMoves).captured).length ≤ maxRows := by
    rw [recorded_stepMoves]
    decide
  refine ⟨?_, check_fieldFilters 1100, by rw [values_fieldQuery]; decide, ?_⟩
  · have hplan : EventPlan.ofParameters [stepFilter] =
        .ok ⟨⟨[.fieldIn .businessStep [.text "a"]], none, none⟩, none⟩ := rfl
    obtain ⟨plan, hplan', hanswer, -⟩ := execute_of_plain stepMoves hsize rfl
      (fun p hp => List.mem_singleton.1 hp ▸ isPlain_stepFilter)
    obtain rfl := Except.ok.inj (hplan.symm.trans hplan')
    obtain ⟨xs, hsub, -, hmem, hexecute⟩ := hanswer (by decide)
    rw [recorded_stepMoves] at hsub hmem
    have hbare : ⟨stepCaptured, 0, bareEvent⟩ ∉ xs := by
      rw [hmem _ List.mem_cons_self]
      simp [stepFilter, Parameter.Asks, bareEvent, Store.lateEvent]
    have hstep : stepRecorded ∈ xs := by
      rw [hmem _ (List.mem_cons_of_mem _ List.mem_cons_self)]
      simp [stepFilter, Parameter.Asks, stepRecorded, stepEvent]
    have hxs : xs = [stepRecorded] := by
      cases hsub with
      | cons _ hsub =>
        rcases List.sublist_singleton.1 hsub with rfl | rfl
        · exact absurd hstep List.not_mem_nil
        · rfl
      | cons_cons _ hsub => exact absurd List.mem_cons_self hbare
    rw [hexecute, hxs]
    rfl
  · obtain ⟨plan, hplan, -, hfails, -, -, hmany⟩ := execute_of_plain stepMoves hsize
      (check_fieldFilters 1100) (fun p => isPlain_fieldFilters)
    obtain rfl := Except.ok.inj ((plan_fieldFilters 1100).symm.trans hplan)
    obtain ⟨e, he⟩ := hmany (fun p hp => values_fieldFilters hp) (by simp [fieldFilters, maxDepth])
    exact ⟨e, hfails e he⟩

end Session

end Provenance
