import Provenance.Proofs.Delivery.Conservation
import Provenance.Proofs.MasterData.Attachment
import Provenance.Proofs.MasterData.Selection
import Provenance.Proofs.Query.Execution

/-!
# The answer to a query for master data

A parameter list that passes the check has a plan, and if the statements of the plan are carried
out, the answer holds one element for each vocabulary and id, as it was recorded last, if this last
recording has what all filters ask for.  What was recorded of the element before is not in it.

The check of a parameter list does not look at the limits of statements.  The statement that selects
stays within them if it does not bind too many values, the hierarchy in it does not start from too
many ids, and there are not too many value filters on attributes; and it exceeds them, and the query
fails, if one of these is too great.

## Main definitions

* `RecordedElement.answer` — a recorded element with what a parameter list attaches to it.

## Main results

* `MasterDataQuery.length_values_statement` — how many values a statement binds.
* `MasterDataQuery.checkExtents_of_within` — a statement within the limits passes.
* `Session.execute_masterData` — **the answer to a query for master data.**
-/

namespace Provenance

open Extent Parameter

/-! ### The statement of a query -/

namespace MasterDataQuery

variable {q : MasterDataQuery}

/-- What the conditions of a query add to its statement: one condition for each kind of restriction,
and one for each value filter on an attribute. -/
theorem mem_extents {e : Extent} (h : e ∈ q.extents) :
    e = ⟨none, 0, noRow notLatest, notLatest, false⟩ ∨
      (∃ n, n ≠ 0 ∧ e = ofChoice n) ∨
      (q.within ≠ [] ∧ e = ofDescent q.within.length q.within.length false) ∨
      ∃ n further chooses, further < 6 ∧ e = ofPart n further chooses := by
  have hchoice {ss : List String} {d : Extent} (hd : e ∈ if ss.isEmpty then [] else [d]) :
      ss ≠ [] ∧ e = d := by
    split at hd
    · exact absurd hd List.not_mem_nil
    · next hne => exact ⟨by simpa using hne, List.mem_singleton.1 hd⟩
  simp only [extents, List.mem_cons, List.mem_append, List.mem_map] at h
  rcases h with ((((rfl | h) | h) | h) | h) | ⟨p, -, rfl⟩
  · exact .inl rfl
  · obtain ⟨hne, rfl⟩ := hchoice h
    exact .inr (.inl ⟨_, fun hnil => hne (List.length_eq_zero_iff.1 hnil), rfl⟩)
  · obtain ⟨hne, rfl⟩ := hchoice h
    exact .inr (.inl ⟨_, fun hnil => hne (List.length_eq_zero_iff.1 hnil), rfl⟩)
  · exact .inr (.inr (.inl (hchoice h)))
  · obtain ⟨-, rfl⟩ := hchoice h
    exact .inr (.inr (.inr ⟨_, 1, _, by decide, rfl⟩))
  · exact .inr (.inr (.inr ⟨_, 2, _, by decide, rfl⟩))

/-- The conditions are those of the plain restrictions, five at most, and the value filters. -/
theorem length_extents (q : MasterDataQuery) :
    q.attributeValues.length < q.extents.length ∧
      q.extents.length ≤ q.attributeValues.length + 5 := by
  have hchoice (ss : List String) (e : Extent) :
      (if ss.isEmpty then [] else [e]).length ≤ 1 := by
    split <;> simp
  have hvocabularies := hchoice q.vocabularies (ofChoice q.vocabularies.length)
  have hids := hchoice q.ids (ofChoice q.ids.length)
  have hwithin := hchoice q.within (ofDescent q.within.length q.within.length false)
  have hpresent := hchoice q.attributesPresent (ofPart q.attributesPresent.length 1 true)
  simp only [extents, List.length_append, List.length_cons, List.length_map]
  omega

/-- A statement binds the values of its conditions and the limit. -/
theorem length_values_statement (q : MasterDataQuery) :
    q.statement.values.length = (q.extents.map Extent.values).sum + 1 := by
  have hchoice (ss : List String) (c : Statement) (e : Extent) (h : c.values.length = e.values) :
      ((restriction ss c).map fun c => c.values.length) =
        (if ss.isEmpty then [] else [e]).map Extent.values := by
    unfold restriction
    split
    · rfl
    · simp [h]
  have hall : (q.conditions.map fun c => c.values.length) = q.extents.map Extent.values := by
    simp only [conditions, extents, List.map_append, List.map_cons, List.map_map]
    rw [hchoice _ _ (ofChoice q.vocabularies.length) (by simp [Statement.texts, ofChoice]),
      hchoice _ _ (ofChoice q.ids.length) (by simp [Statement.texts, ofChoice]),
      hchoice _ _ (ofDescent q.within.length q.within.length false) (by
        simp [descendants, Statement.join, ofDescent, List.flatMap_map, List.map_const']),
      hchoice _ _ (ofPart q.attributesPresent.length 1 true) (by
        simp [existsRow, attributesOfElement, Statement.texts, ofPart])]
    refine congrArg₂ (· ++ ·) rfl (List.map_congr_left fun p _ => ?_)
    simp [existsRow, attributesOfElement, Statement.texts, ofPart]
  simp only [statement, Statement.values_append, Statement.values_lit, Statement.values_hole,
    Statement.join, List.length_append, List.length_flatMap, List.length_nil, List.length_cons,
    hall]
  omega

/-- No condition stands too deep, and the hierarchy starts from as many ids as it may. -/
theorem regular_of_mem_extents (hwithin : q.within.length ≤ maxStart) {e : Extent}
    (h : e ∈ q.extents) : e.Regular := by
  rcases mem_extents h with rfl | ⟨n, -, rfl⟩ | ⟨hne, rfl⟩ | ⟨n, further, chooses, hfurther, rfl⟩
  · exact ⟨(by decide : noRow notLatest ≤ maxOwnDepth), (by decide : notLatest ≤ maxInside),
      fun n hn => absurd hn (by simp)⟩
  · exact regular_ofChoice n
  · exact regular_ofDescent (List.length_pos_iff.2 hne) hwithin (Nat.le_refl _) false
  · exact regular_ofPart n hfurther chooses

/-- No condition chooses from an empty list. -/
theorem isEmptyChoice_of_mem_extents {e : Extent} (h : e ∈ q.extents) :
    e.isEmptyChoice = false := by
  rcases mem_extents h with rfl | ⟨n, hn, rfl⟩ | ⟨-, rfl⟩ | ⟨n, further, chooses, -, rfl⟩
  · rfl
  · exact beq_eq_false_iff_ne.2 hn
  · rfl
  · rfl

/-- **A statement within the limits passes.** -/
theorem checkExtents_of_within (hvalues : q.statement.values.length ≤ maxBound)
    (hwithin : q.within.length ≤ maxStart)
    (hlength : q.attributeValues.length + 5 ≤ maxConditions) :
    checkExtents q.extents = .ok () := by
  rw [length_values_statement] at hvalues
  have hcount := q.length_extents.2
  exact checkExtents_eq_ok (fun e => regular_of_mem_extents hwithin) (by omega) hvalues

/-- **A statement passes only within the limits.** -/
theorem within_of_checkExtents (h : checkExtents q.extents = .ok ()) :
    q.statement.values.length ≤ maxBound ∧ q.within.length ≤ maxStart ∧
      q.attributeValues.length ≤ maxDepth := by
  refine ⟨?_, ?_, ?_⟩
  · rw [length_values_statement]
    exact values_le_of_checkExtents h
  · by_cases hwithin : q.within = []
    · rw [hwithin]
      exact Nat.zero_le _
    · have hmem : ofDescent q.within.length q.within.length false ∈ q.extents := by
        simp [extents, List.isEmpty_iff, hwithin]
      exact start_le_of_checkExtents h hmem rfl
  · have hcount := q.length_extents.1
    have hdeep := length_le_of_checkExtents (fun e => isEmptyChoice_of_mem_extents) h
    omega

end MasterDataQuery

/-! ### The answer -/

/-- A recorded element as it is answered, with what the parameters of a list attach to it. -/
def RecordedElement.answer (ps : List Parameter) (x : RecordedElement) : MasterData where
  vocabulary := x.element.vocabulary
  id := x.element.id
  attributes :=
    if lastRead flag "includeAttributes" ps = some true then
      match lastNamed "attributeNames" ps with
      | some p => x.element.attributes.filter fun a => p.values.contains a.id
      | none => x.element.attributes
    else []
  children := if lastRead flag "includeChildren" ps = some true then x.element.children else []

/-- A query attaches what the parameters say. -/
theorem MasterDataQuery.Asks.attached_eq {q : MasterDataQuery} {ps : List Parameter}
    (h : q.Asks ps) (x : RecordedElement) : q.attached x = x.answer ps := by
  have hnames := h.attributeNames
  simp only [MasterDataQuery.attached, RecordedElement.answer, h.includeAttributes,
    h.includeChildren, MasterDataQuery.pick, Option.some.injEq]
  cases hlast : lastNamed "attributeNames" ps with
  | none =>
    rw [hlast] at hnames
    simp only [hnames, Option.map_none]
  | some p =>
    rw [hlast] at hnames
    simp only [hnames, Option.map_some]

/-- A plan that refuses no answer fetches what its query asks for. -/
theorem MasterDataPlan.execute_of_uncounted {plan : MasterDataPlan} (h : plan.maxCount = none)
    (s : Store) : plan.execute s = (plan.query.fetch s).mapError .storage := by
  rw [execute, h]
  cases plan.query.fetch s <;> rfl

theorem StandingQuery.execute_of_elementPlan {ps : List Parameter} {plan : MasterDataPlan}
    (h : MasterDataPlan.ofParameters ps = .ok plan) (s : Store) (scope : Option Scope) :
    simpleMasterData.execute s ps scope = (plan.execute s).map .masterData := by
  simp only [execute, h]
  rfl

open RecordedElement

namespace Session

open StandingQuery

/-- **The answer to a query for master data.**  Each vocabulary and id that was captured has one
latest recording.  Parameters that pass the check have a plan.

* If its statement stays within the limits, the query selects the latest recordings that have what
  all filters ask for, in the order of vocabularies and ids; and the answer holds each of them as it
  was captured, with the attributes and children that the parameters attach, if there is room for
  the names of attributes in the statements that attach them.
* The statement stays within the limits if it binds no more values than a statement may, the
  hierarchy starts from no more ids than it may, and there are not too many value filters.  It
  exceeds them, and the store fails, if one of these is too great. -/
theorem execute_masterData (moves : List Move) {ps : List Parameter} (scope : Option Scope)
    (hsize : (recordedElements (run moves).captured).length ≤ maxRows)
    (hcheck : simpleMasterData.check ps = .ok ())
    (hcount : ∀ p ∈ ps, p.name ≠ "maxElementCount") :
    (∀ x ∈ recordedElements (run moves).captured, ∃! y : RecordedElement,
      y.IsLatest (run moves).captured ∧ y.name = x.name) ∧
    ∃ plan, MasterDataPlan.ofParameters ps = .ok plan ∧
      (checkExtents plan.query.extents = .ok () →
        ∃ xs : List RecordedElement, xs.Pairwise IsNamedBefore ∧
          (∀ x, x ∈ xs ↔
            x.IsLatest (run moves).captured ∧ x.Satisfies (run moves).captured ps) ∧
          (plan.query.AttachesWithin xs.length →
            simpleMasterData.execute (run moves).store ps scope =
              .ok (.masterData (xs.map (answer ps)))) ∧
          (¬plan.query.AttachesWithin xs.length →
            simpleMasterData.execute (run moves).store ps scope =
              .error (.storage .tooManyVariables))) ∧
      (∀ e, checkExtents plan.query.extents = .error e →
        simpleMasterData.execute (run moves).store ps scope = .error (.storage e)) ∧
      (plan.query.statement.values.length ≤ maxBound → (given "WD_name" ps).length ≤ maxStart →
        (ps.filterMap attributeFilter?).length + 5 ≤ maxConditions →
          checkExtents plan.query.extents = .ok ()) ∧
      (checkExtents plan.query.extents = .ok () →
        plan.query.statement.values.length ≤ maxBound ∧ (given "WD_name" ps).length ≤ maxStart ∧
          (ps.filterMap attributeFilter?).length ≤ maxDepth) := by
  have hjournal := (ledger_run moves).journal
  obtain ⟨plan, hplan, -⟩ := map_eq_ok_iff.1 hcheck
  obtain ⟨hasks, -, -⟩ := MasterDataPlan.asks hplan
  obtain ⟨hlimit, hmax⟩ := MasterDataPlan.limit_eq_none hplan hcount
  have hexecute : simpleMasterData.execute (run moves).store ps scope =
      ((plan.query.fetch (run moves).store).mapError .storage).map .masterData := by
    rw [execute_of_elementPlan hplan, MasterDataPlan.execute_of_uncounted hmax]
  refine ⟨fun x hx => ?_, plan, hplan, fun hok => ?_, fun e he => ?_,
    fun hvalues hwithin hall => ?_, fun hok => ?_⟩
  · obtain ⟨y, hy, hname⟩ := hjournal.exists_isLatest hx
    refine ⟨y, ⟨hy, hname⟩, fun z hz => ?_⟩
    exact hjournal.isLatest_unique hz.1 hy (hz.2.trans hname.symm)
  · obtain ⟨xs, hsorted, hmem, hrows⟩ := hjournal.exists_rows hsize hasks.toRestricts hlimit
    have hxs : xs ⊆ recordedElements (run moves).captured := fun x hx => ((hmem x).1 hx).1.mem
    refine ⟨xs, hsorted, hmem, fun hattach => ?_, fun hattach => ?_⟩
    · rw [hexecute, hjournal.fetchElements_eq_ok hok hxs hrows hattach]
      exact congrArg (fun ms => Except.ok (Results.masterData ms))
        (List.map_congr_left fun x _ => hasks.attached_eq x)
    · rw [hexecute, Store.Journal.fetchElements_eq_error hok hrows hattach]
      rfl
  · rw [hexecute, MasterDataQuery.fetch, he]
    rfl
  · rw [← hasks.within] at hwithin
    rw [← hasks.attributeValues] at hall
    exact MasterDataQuery.checkExtents_of_within hvalues hwithin hall
  · rw [← hasks.within, ← hasks.attributeValues]
    exact MasterDataQuery.within_of_checkExtents hok

/-- A place as it was captured first. -/
def oldSite : MasterData := ⟨businessLocationVocabulary, "urn:site", [⟨"name", "a"⟩], []⟩

/-- The same place as it was captured last. -/
def newSite : MasterData :=
  ⟨businessLocationVocabulary, "urn:site", [⟨"size", "7"⟩, ⟨"hours", "9"⟩], ["urn:dock"]⟩

/-- A request with both, as it was captured. -/
def siteCaptured : Captured :=
  ⟨1, ⟨.epoch, "1.2", none, none, [], [oldSite, newSite]⟩, none, .epoch⟩

/-- A session that captures the request. -/
def siteMoves : List Move := [.capture siteCaptured.request none .epoch]

theorem captured_siteMoves : (run siteMoves).captured = [siteCaptured] := by
  rw [siteMoves, run_capture (by decide +kernel)]
  rfl

/-- The place as it was recorded first. -/
def oldRecorded : RecordedElement := ⟨siteCaptured, 0, oldSite⟩

/-- The place as it was recorded last. -/
def newRecorded : RecordedElement := ⟨siteCaptured, 1, newSite⟩

theorem recordedElements_siteMoves :
    recordedElements (run siteMoves).captured = [oldRecorded, newRecorded] := by
  rw [captured_siteMoves]
  rfl

/-- The last recording is the latest one, and the first one is not. -/
theorem isLatest_siteMoves (x : RecordedElement) :
    x.IsLatest (run siteMoves).captured ↔ x = newRecorded := by
  constructor
  · intro h
    have hmem := h.mem
    rw [recordedElements_siteMoves, List.mem_cons, List.mem_singleton] at hmem
    rcases hmem with rfl | rfl
    · have hnew : newRecorded ∈ recordedElements (run siteMoves).captured := by
        rw [recordedElements_siteMoves]
        exact List.mem_cons_of_mem _ List.mem_cons_self
      exact absurd (.inr ⟨rfl, Nat.zero_lt_one⟩) (h.newest _ hnew rfl)
    · rfl
  · rintro rfl
    constructor
    · rw [recordedElements_siteMoves]
      exact List.mem_cons_of_mem _ List.mem_cons_self
    · intro y hy _
      rw [recordedElements_siteMoves, List.mem_cons, List.mem_singleton] at hy
      rcases hy with rfl | rfl
      · exact fun h => by simp [IsBefore, newRecorded, oldRecorded] at h
      · exact not_isBefore_self _

/-- Parameters that ask for an attribute, with all attributes and children attached. -/
def presenceParameters (name : String) : List Parameter :=
  [⟨"includeAttributes", ["true"]⟩, ⟨"includeChildren", ["true"]⟩, ⟨"HASATTR", [name]⟩]

theorem plan_presenceParameters (name : String) :
    MasterDataPlan.ofParameters (presenceParameters name) =
      .ok ⟨⟨[], [], [], [name], [], true, true, none, none⟩, none⟩ := rfl

theorem satisfies_newRecorded (name : String) :
    newRecorded.Satisfies (run siteMoves).captured (presenceParameters name) ↔
      name = "size" ∨ name = "hours" := by
  have hgiven : given "HASATTR" (presenceParameters name) = [name] := rfl
  constructor
  · intro h
    obtain ⟨a, ha, hid⟩ := h.present (by simp [hgiven])
    rw [hgiven, List.mem_singleton] at hid
    have ha : a = ⟨"size", "7"⟩ ∨ a = ⟨"hours", "9"⟩ := by simpa [newRecorded, newSite] using ha
    rcases ha with rfl | rfl
    · exact .inl hid.symm
    · exact .inr hid.symm
  · intro hname
    refine ⟨fun h => absurd rfl h, fun h => absurd rfl h, fun h => absurd rfl h, fun _ => ?_, ?_⟩
    · rw [hgiven]
      rcases hname with rfl | rfl
      · exact ⟨_, List.mem_cons_self, List.mem_cons_self⟩
      · exact ⟨_, List.mem_cons_of_mem _ List.mem_cons_self, List.mem_cons_self⟩
    · -- none of the parameters filters by values
      intro p hp a _ heq
      have hnone : Text.dropWord "EQATTR_".toList p.name.toList = none := by
        have hp : p.name ∈ (presenceParameters name).map Parameter.name := List.mem_map_of_mem hp
        simp only [presenceParameters, List.map_cons, List.map_nil, List.mem_cons,
          List.not_mem_nil, or_false] at hp
        rcases hp with hp | hp | hp <;> rw [hp] <;> rfl
      exact absurd heq (Text.dropWord_toList_eq_none_iff.1 hnone a)

/-- Parameters that ask for the descendants of some ids, and for nothing to be attached. -/
def startParameters (ids : List String) : List Parameter :=
  [⟨"includeAttributes", ["false"]⟩, ⟨"includeChildren", ["false"]⟩, ⟨"WD_name", ids⟩]

/-- The query of these parameters. -/
def startQuery (ids : List String) : MasterDataQuery := { MasterDataQuery.all with within := ids }

theorem plan_startParameters (ids : List String) :
    MasterDataPlan.ofParameters (startParameters ids) = .ok ⟨startQuery ids, none⟩ := rfl

theorem given_startParameters (ids : List String) :
    given "WD_name" (startParameters ids) = ids := by
  simp [given, startParameters]

theorem values_startQuery {ids : List String} (h : ids ≠ []) :
    (startQuery ids).statement.values.length = ids.length + 1 := by
  rw [MasterDataQuery.length_values_statement]
  simp [startQuery, MasterDataQuery.all, MasterDataQuery.extents, List.isEmpty_iff, h, ofDescent]

/-- The place is found by an attribute of its last recording, and not by one of an earlier one.  A
hierarchy that starts from many ids makes the query fail, although it binds few values. -/
theorem execute_siteMoves :
    simpleMasterData.execute (run siteMoves).store (presenceParameters "size") none =
        .ok (.masterData [newSite]) ∧
      simpleMasterData.execute (run siteMoves).store (presenceParameters "name") none =
        .ok (.masterData []) ∧
      simpleMasterData.check (startParameters (List.replicate 500 "a")) = .ok () ∧
      (startQuery (List.replicate 500 "a")).statement.values.length ≤ maxBound ∧
      ∃ e, simpleMasterData.execute (run siteMoves).store
        (startParameters (List.replicate 500 "a")) none = .error (.storage e) := by
  have hsize : (recordedElements (run siteMoves).captured).length ≤ maxRows := by
    rw [recordedElements_siteMoves]
    decide
  have hanswer (name : String) : ∃ xs : List RecordedElement, xs.Pairwise IsNamedBefore ∧
      (∀ x, x ∈ xs ↔ x = newRecorded ∧ (name = "size" ∨ name = "hours")) ∧
      simpleMasterData.execute (run siteMoves).store (presenceParameters name) none =
        .ok (.masterData (xs.map (answer (presenceParameters name)))) := by
    have hplan := plan_presenceParameters name
    have hcheck : simpleMasterData.check (presenceParameters name) = .ok () :=
      map_eq_ok_iff (f := fun _ => ()).2 ⟨_, hplan, rfl⟩
    have hcount : ∀ p ∈ presenceParameters name, p.name ≠ "maxElementCount" := by
      simp [presenceParameters]
    obtain ⟨-, plan, hplan', hok, -⟩ := execute_masterData siteMoves none hsize hcheck hcount
    obtain rfl := Except.ok.inj (hplan.symm.trans hplan')
    obtain ⟨xs, hsorted, hmem, hexecute, -⟩ := hok rfl
    refine ⟨xs, hsorted, fun x => ?_, hexecute fun _ _ => ?_⟩
    · rw [hmem, isLatest_siteMoves]
      refine and_congr_right fun hx => ?_
      rw [hx, satisfies_newRecorded]
    · -- no names are bound, so there is room for any batch
      have hmost : min xs.length keysPerStatement ≤ maxBound / 2 := Nat.min_le_right _ _
      simp only [Option.getD_none, List.length_nil, maxBound] at hmost ⊢
      omega
  have hstart (ids : List String) : simpleMasterData.check (startParameters ids) = .ok () :=
    map_eq_ok_iff (f := fun _ => ()).2 ⟨_, plan_startParameters ids, rfl⟩
  refine ⟨?_, ?_, hstart _, ?_, ?_⟩
  · obtain ⟨xs, hsorted, hmem, hexecute⟩ := hanswer "size"
    have hone : xs = [newRecorded] := by
      refine List.perm_singleton.1 ((List.perm_ext_iff_of_nodup (hsorted.imp IsNamedBefore.ne)
        (List.nodup_singleton _)).2 fun x => ?_)
      simp [hmem x]
    rw [hexecute, hone]
    rfl
  · obtain ⟨xs, -, hmem, hexecute⟩ := hanswer "name"
    have hnone : xs = [] := List.eq_nil_iff_forall_not_mem.2 fun x hx => by
      simpa using ((hmem x).1 hx).2
    rw [hexecute, hnone]
    rfl
  · have hne : List.replicate 500 "a" ≠ [] := by
      rw [ne_eq, List.replicate_eq_nil_iff]
      decide
    rw [values_startQuery hne, List.length_replicate]
    decide
  · have hcount : ∀ p ∈ startParameters (List.replicate 500 "a"), p.name ≠ "maxElementCount" := by
      simp [startParameters, -List.reduceReplicate]
    obtain ⟨-, plan, hplan, -, hfails, -, hwithin⟩ :=
      execute_masterData siteMoves none hsize (hstart (List.replicate 500 "a")) hcount
    obtain rfl := Except.ok.inj ((plan_startParameters _).symm.trans hplan)
    cases hcheck : checkExtents (startQuery (List.replicate 500 "a")).extents with
    | error e => exact ⟨e, hfails e hcheck⟩
    | ok u =>
      have hmany := (hwithin hcheck).2.1
      rw [given_startParameters, List.length_replicate] at hmany
      exact absurd hmany (by decide)

end Session

end Provenance
