import Provenance.Proofs.Delivery.Conservation
import Provenance.Proofs.Event.RoundTrip
import Provenance.Proofs.MasterData.Selection
import Provenance.Proofs.Query.Filters

/-!
# Filters on what an event refers to

Four fields of an event hold the id of an element of master data.  A filter on such a field asks for
a place of the element in the hierarchy, or for its attributes.  Either looks at latest recordings
only, so what it asks for is decided by the list of all elements ever captured, in order: an element
counts if none after it in this list has the same name.  No event plays a part in this, and neither
does the place of an event among the captures.

A list with nothing but one filter selects the recorded events that the filter accepts.  Whether its
statement is carried out depends on how many values there are.

## Main definitions

* `Recorded.reference` — the id that an event has in a field.
* `IsDescribed` — the latest recording of an element has an attribute of some kind.
* `IsLastNamed` — an element of a list, with none of the same name after it.

## Main results

* `Store.Journal.holds_fieldWithin`, `Store.Journal.holds_attributeIn`,
  `Store.Journal.holds_attributePresent` — what filters on references ask.
* `Store.Journal.isLatest_iff_isLastNamed` — latest recordings in the list of captured elements.
* `Extent.checkExtents_singleton`, `Extent.checkExtents_ofDescent` — the statement of one filter.
* `Session.execute_filter` — **the answer to one filter.**
-/

namespace Provenance

open RecordedElement

/-! ### References -/

/-- Whether a field of events holds the id of an element of master data. -/
def EventField.isReference : EventField → Bool
  | businessStep | disposition | readPoint | businessLocation => true
  | _ => false

namespace Recorded

/-- The id that an event has in a field that refers to master data. -/
def reference (x : Recorded) : EventField → Option String
  | .businessStep => x.event.businessStep
  | .disposition => x.event.disposition
  | .readPoint => x.event.readPoint
  | .businessLocation => x.event.businessLocation
  | _ => none

variable {x : Recorded} {f : EventField}

theorem cell_of_isReference (hf : f.isReference = true) :
    f.affinity = .text ∧ x.row.cell f = .ofText? (x.reference f) := by
  cases f <;> first | exact ⟨rfl, rfl⟩ | exact absurd hf (by decide)

/-- An event has one of some ids in a field if what it refers to is one of them. -/
theorem hasOneOf_iff (hf : f.isReference = true) {ids : List String} :
    x.row.hasOneOf f ids = true ↔ ∃ v, x.reference f = some v ∧ v ∈ ids := by
  obtain ⟨haffinity, hcell⟩ := cell_of_isReference (x := x) hf
  have htest (v : String) :
      Comparator.equal.test (x.row.compareTo f (.text v)) = true ↔ x.reference f = some v := by
    rw [EventRow.compareTo, hcell, haffinity]
    exact Comparator.test_order_text _ v
  rw [EventRow.hasOneOf, List.any_eq_true]
  simp only [htest]
  constructor
  · rintro ⟨v, hv, href⟩
    exact ⟨v, href, hv⟩
  · rintro ⟨v, href, hv⟩
    exact ⟨v, hv, href⟩

end Recorded

/-! ### Elements that have an attribute -/

/-- The latest recording of an element, of a given vocabulary where there is one, has an attribute
of some kind. -/
def IsDescribed (cs : List Captured) (vocabulary : Option String) (id : String)
    (P : Attribute → Prop) : Prop :=
  ∃ y : RecordedElement, y.IsLatest cs ∧ (∀ v ∈ vocabulary, y.element.vocabulary = v) ∧
    y.element.id = id ∧ ∃ a ∈ y.element.attributes, P a

namespace Store.Journal

variable {s : Store} {cs : List Captured} {f : EventField} {x : Recorded}

/-- The ids of the elements that have an attribute of some kind. -/
theorem mem_describedIds_iff (h : s.Journal cs) {wanted : AttributeRow → Bool}
    {P : Attribute → Prop} (hwanted : ∀ r, wanted r = true ↔ P ⟨r.id, r.value⟩) {id : String} :
    id ∈ s.describedIds f wanted ↔ IsDescribed cs f.vocabulary id P := by
  obtain ⟨ys, -, hlatest, hcurrent⟩ := h.exists_currentElements
  have hattribute (y : RecordedElement) (hy : y ∈ recordedElements cs) :
      (s.attributes.any fun a => a.owner == y.row.key && wanted a) = true ↔
        ∃ a ∈ y.element.attributes, P a :=
    h.hasAttribute_iff hy hwanted
  rw [describedIds, hcurrent]
  simp only [List.mem_map, List.mem_filter, Bool.and_eq_true, IsDescribed]
  constructor
  · rintro ⟨_, ⟨⟨y, hy, rfl⟩, hv, hfound⟩, rfl⟩
    have hy := (hlatest y).1 hy
    refine ⟨y, hy, ?_, rfl, (hattribute y hy.mem).1 hfound⟩
    intro v hv'
    rw [Option.mem_def.1 hv'] at hv
    exact beq_iff_eq.1 hv
  · rintro ⟨y, hy, hv, rfl, hfound⟩
    refine ⟨y.row, ⟨⟨y, (hlatest y).2 hy, rfl⟩, ?_, (hattribute y hy.mem).2 hfound⟩, rfl⟩
    cases hvocabulary : f.vocabulary with
    | none => rfl
    | some v => exact beq_iff_eq.2 (hv v hvocabulary)

/-! ### What filters ask -/

/-- A filter on descent asks that an event refers to one of some ids, or to a descendant of one. -/
theorem holds_fieldWithin (h : s.Journal cs) (hf : f.isReference = true) (ids : List String) :
    (Predicate.fieldWithin f ids).holds s x.row = true ↔
      ∃ v, x.reference f = some v ∧ DescendsFrom cs f.vocabulary ids v := by
  have hone : (Predicate.fieldWithin f ids).holds s x.row =
      x.row.hasOneOf f (s.descendants f.vocabulary ids) := rfl
  rw [hone, Recorded.hasOneOf_iff hf]
  simp only [h.mem_descendants_iff]

/-- A filter on values asks that an event refers to an element that has an attribute with one of
them. -/
theorem holds_attributeIn (h : s.Journal cs) (hf : f.isReference = true) (name : String)
    (values : List String) :
    (Predicate.attributeIn f name values).holds s x.row = true ↔
      ∃ v, x.reference f = some v ∧
        IsDescribed cs f.vocabulary v fun a => a.id = name ∧ a.value ∈ values := by
  have hone : (Predicate.attributeIn f name values).holds s x.row =
      x.row.hasOneOf f (s.describedIds f fun r => r.id == name && values.contains r.value) := rfl
  have hwanted (r : AttributeRow) : (r.id == name && values.contains r.value) = true ↔
      r.id = name ∧ r.value ∈ values := by
    rw [Bool.and_eq_true, beq_iff_eq, List.contains_iff_mem]
  rw [hone, Recorded.hasOneOf_iff hf]
  refine exists_congr fun v => and_congr_right fun _ => ?_
  exact h.mem_describedIds_iff (P := fun a => a.id = name ∧ a.value ∈ values) hwanted

/-- A filter on presence asks that an event refers to an element that has one of some
attributes. -/
theorem holds_attributePresent (h : s.Journal cs) (hf : f.isReference = true)
    (names : List String) :
    (Predicate.attributePresent f names).holds s x.row = true ↔
      ∃ v, x.reference f = some v ∧ IsDescribed cs f.vocabulary v fun a => a.id ∈ names := by
  have hone : (Predicate.attributePresent f names).holds s x.row =
      x.row.hasOneOf f (s.describedIds f fun r => names.contains r.id) := rfl
  rw [hone, Recorded.hasOneOf_iff hf]
  refine exists_congr fun v => and_congr_right fun _ => ?_
  exact h.mem_describedIds_iff (P := fun a => a.id ∈ names) fun r => List.contains_iff_mem

end Store.Journal

/-! ### Latest recordings in a list of elements -/

/-- An element of a list, with none of the same vocabulary and id after it. -/
def IsLastNamed (ms : List MasterData) (m : MasterData) : Prop :=
  ∃ before after, ms = before ++ m :: after ∧
    ∀ n ∈ after, (n.vocabulary, n.id) ≠ (m.vocabulary, m.id)

/-- The elements of recorded requests are those that were captured, in order. -/
theorem map_element_recordedElements (cs : List Captured) :
    (recordedElements cs).map element = cs.flatMap fun c => c.request.masterData := by
  rw [recordedElements, List.map_flatMap]
  refine List.flatMap_congr fun c _ => ?_
  rw [List.map_map]
  exact map_snd_numbered 0 c.request.masterData

/-- **Latest recordings are the elements that come last**, of those of one name, in the list of all
that were captured. -/
theorem Store.Journal.isLatest_iff_isLastNamed {s : Store} {cs : List Captured}
    (h : s.Journal cs) {m : MasterData} :
    (∃ y : RecordedElement, y.IsLatest cs ∧ y.element = m) ↔
      IsLastNamed (cs.flatMap fun c => c.request.masterData) m := by
  have hsorted := h.recordedElements_isBefore
  rw [IsLastNamed, ← map_element_recordedElements]
  constructor
  · rintro ⟨y, hy, rfl⟩
    obtain ⟨before, after, hlist⟩ := List.append_of_mem hy.mem
    refine ⟨before.map element, after.map element, by rw [hlist, List.map_append, List.map_cons],
      fun n hn hname => ?_⟩
    obtain ⟨z, hz, rfl⟩ := List.mem_map.1 hn
    rw [hlist, List.pairwise_append, List.pairwise_cons] at hsorted
    have hz' : z ∈ recordedElements cs := by
      rw [hlist]
      exact List.mem_append_right _ (List.mem_cons_of_mem _ hz)
    exact hy.newest z hz' hname (hsorted.2.1.1 z hz)
  · rintro ⟨before, after, hlist, hlast⟩
    obtain ⟨xs, rest, hxs, -, hrest⟩ := List.map_eq_append_iff.1 hlist
    obtain ⟨y, zs, rfl, rfl, rfl⟩ := List.map_eq_cons_iff.1 hrest
    have hmem {z : RecordedElement} : z ∈ recordedElements cs ↔ z ∈ xs ∨ z = y ∨ z ∈ zs := by
      rw [hxs, List.mem_append, List.mem_cons]
    refine ⟨y, ⟨hmem.2 (.inr (.inl rfl)), fun z hz hname hbefore => ?_⟩, rfl⟩
    rw [hxs, List.pairwise_append] at hsorted
    rcases hmem.1 hz with hz | rfl | hz
    · exact hbefore.not_isBefore (hsorted.2.2 z hz y List.mem_cons_self)
    · exact not_isBefore_self z hbefore
    · exact hlast _ (List.mem_map_of_mem hz) hname

/-- Which elements have an attribute is decided by the elements that were captured, in order. -/
theorem Store.Journal.isDescribed_iff {s : Store} {cs : List Captured} (h : s.Journal cs)
    {vocabulary : Option String} {id : String} {P : Attribute → Prop} :
    IsDescribed cs vocabulary id P ↔
      ∃ m, IsLastNamed (cs.flatMap fun c => c.request.masterData) m ∧
        (∀ v ∈ vocabulary, m.vocabulary = v) ∧ m.id = id ∧ ∃ a ∈ m.attributes, P a := by
  simp only [← h.isLatest_iff_isLastNamed]
  constructor
  · rintro ⟨y, hy, hrest⟩
    exact ⟨y.element, ⟨y, hy, rfl⟩, hrest⟩
  · rintro ⟨_, ⟨y, hy, rfl⟩, hrest⟩
    exact ⟨y, hy, hrest⟩

/-! ### The statement of one filter -/

namespace Extent

/-- The statement of one condition without a hierarchy is carried out if it does not bind too many
values. -/
theorem checkExtents_singleton {e : Extent} (h : e.Regular) (hstart : e.start = none) :
    checkExtents [e] = checkBound (e.values + 1) := by
  by_cases hbound : e.values + 1 ≤ maxBound
  · have hsum : ([e].map Extent.values).sum + 1 ≤ maxBound := by simpa using hbound
    rw [checkBound_eq_ok_iff.2 hbound]
    refine checkExtents_eq_ok (fun e' he' => ?_) (by decide : 1 ≤ maxConditions) hsum
    rw [List.mem_singleton.1 he']
    exact h
  · have hjoined : joinedDepth none false e ≤ maxDepth := by
      have := h.depth_le
      simp only [joinedDepth, maxOwnDepth, maxDepth] at this ⊢
      split <;> omega
    have hread : readExtents 0 none false [e] =
        (checkBound e.values).bind fun _ => .ok (e.values, joinedDepth none false e) := by
      simp only [readExtents, hstart, checkStart, checkDepth, hjoined, if_true, Nat.zero_add]
      rfl
    have hlimit : checkBound (e.values + 1) = .error .tooManyVariables := if_neg hbound
    rw [checkExtents, hread, hlimit]
    -- the values are too many by themselves, or together with the limit
    by_cases hvalues : e.values ≤ maxBound
    · rw [checkBound_eq_ok_iff.2 hvalues]
      change (checkBound (e.values + 1)).bind _ = _
      rw [hlimit]
      rfl
    · have hfirst : checkBound e.values = .error .tooManyVariables := if_neg hvalues
      rw [hfirst]
      rfl

/-- The statement of a hierarchy is carried out if it starts from as many ids as it may. -/
theorem checkExtents_ofDescent (start extra : Nat) (vocabulary : Bool) (hextra : extra ≤ 1) :
    checkExtents [ofDescent start (start + extra) vocabulary] =
      if start = 0 then .error .noStart
      else if start ≤ maxStart then .ok ()
      else if start ≤ maxBound then .error .tooManyTerms
      else .error .tooManyVariables := by
  by_cases hzero : start = 0
  · rw [if_pos hzero, hzero]
    rfl
  · rw [if_neg hzero]
    by_cases hmax : start ≤ maxStart
    · rw [if_pos hmax]
      refine checkExtents_eq_ok (fun e he => ?_) (by decide : 1 ≤ maxConditions) ?_
      · rw [List.mem_singleton.1 he]
        exact regular_ofDescent (Nat.pos_of_ne_zero hzero) hmax (Nat.le_add_right _ _) _
      · simp only [List.map_cons, List.map_nil, List.sum_cons, List.sum_nil, ofDescent, maxStart,
          maxBound] at hmax ⊢
        omega
    · -- the statement is not read beyond the ids that the hierarchy starts from
      have hread (e : StorageError) (h : checkStart 0 (some start) = .error e) :
          checkExtents [ofDescent start (start + extra) vocabulary] = .error e := by
        have hfirst : readExtents 0 none false [ofDescent start (start + extra) vocabulary] =
            .error e := by
          simp only [readExtents, ofDescent, h]
          rfl
        rw [checkExtents, hfirst]
        rfl
      rw [if_neg hmax]
      by_cases hbound : start ≤ maxBound
      · rw [if_pos hbound]
        refine hread _ ?_
        simp only [checkStart, hzero, checkBound, Nat.zero_add, hbound, hmax, if_true, if_false]
        rfl
      · rw [if_neg hbound]
        refine hread _ ?_
        simp only [checkStart, hzero, checkBound, Nat.zero_add, hbound, if_false]
        rfl

end Extent

/-! ### The answer to one filter -/

namespace Session

open StandingQuery

/-- **The answer to one filter.**  It passes the check.  If its statement is carried out, the answer
holds the captured events that it accepts, each once and in the order of their keys, up to the
greatest number of rows there can be. -/
theorem execute_filter (moves : List Move) {p : Parameter} {f : Predicate}
    (hp : p.clause = .ok (.filter f)) :
    simpleEvent.check [p] = .ok () ∧
      simpleEvent.execute (run moves).store [p] none =
        ((checkExtents [f.extent]).mapError .storage).map fun _ =>
          .events ((((recorded (run moves).captured).filter fun x =>
            p.accepts (run moves).store x.row).take maxRows).map Recorded.answer) := by
  have hjournal := (ledger_run moves).journal
  have hplan : EventPlan.ofParameters [p] = .ok ⟨⟨[f], none, none⟩, none⟩ := by
    refine bind_eq_ok_iff.2 ⟨[.filter f], ?_, rfl⟩
    exact mapM_cons_eq_ok_iff.2 ⟨_, [], hp, rfl, rfl⟩
  have hcheck : simpleEvent.check [p] = .ok () := map_eq_ok_iff.2 ⟨_, hplan, rfl⟩
  refine ⟨hcheck, ?_⟩
  have hrows : (EventQuery.mk [f] none none).rows (run moves).store =
      (((recorded (run moves).captured).filter fun x =>
        p.accepts (run moves).store x.row).take maxRows).map Recorded.row := by
    rw [EventQuery.rows_eq_take rfl hjournal.events_pairwise, hjournal.events_eq, List.filter_map,
      List.map_take]
    refine congrArg (fun xs => (List.map Recorded.row xs).take maxRows) ?_
    refine List.filter_congr fun x _ => ?_
    rw [Function.comp_apply, Parameter.accepts, hp]
    exact Bool.and_true _
  have hrun : EventPlan.execute ⟨⟨[f], none, none⟩, none⟩ (run moves).store none =
      ((EventQuery.mk [f] none none).fetch (run moves).store).mapError .storage := by
    simp only [EventPlan.execute, EventPlan.execute.run]
    cases (EventQuery.mk [f] none none).fetch (run moves).store <;> rfl
  rw [execute_of_plan hplan, hrun]
  cases hstatement : checkExtents [f.extent] with
  | error e =>
    have hfails : (EventQuery.mk [f] none none).fetch (run moves).store = .error e := by
      rw [EventQuery.fetch, EventQuery.checkStatement, List.map_cons, List.map_nil, hstatement]
      rfl
    rw [hfails]
    rfl
  | ok u =>
    have hsub : ((recorded (run moves).captured).filter fun x =>
        p.accepts (run moves).store x.row).take maxRows ⊆ recorded (run moves).captured :=
      fun x hx => List.mem_of_mem_filter (List.mem_of_mem_take hx)
    rw [hjournal.fetch_of_rows (q := EventQuery.mk [f] none none) hstatement hsub hrows]
    rfl

end Session

end Provenance
