import Provenance.Proofs.MasterData.Answer
import Provenance.Proofs.MasterData.Plan
import Provenance.Proofs.Query.FieldNames
import Provenance.Proofs.Query.Limits
import Provenance.Proofs.Query.Normalization

/-!
# Parameters in another order

Where a list has one parameter for each name, the order of the parameters hardly matters.  What is
read of a name is read of the one parameter, wherever it stands.  So the plans differ in the order
of the filters only, and a query finds the same whatever the order of its filters.

What is left is whether the statement is carried out at all: its conditions are written in the order
of the filters, and how deep they are together depends on that.  For master data all conditions that
can be in another order are of the same depth, so there the order does not matter.

## Main definitions

* `EventQuery.reordered`, `MasterDataQuery.reordered` — a query with its filters in another order.
* `EventQuery.depth` — how deep the conditions of a query are.

## Main results

* `EventPlan.ofParameters_of_perm`, `MasterDataPlan.ofParameters_of_perm` — the plans.
* `EventQuery.rows_reordered`, `MasterDataQuery.fetch_reordered` — what the queries find.
* `EventQuery.checkStatement_eq_ok_iff` — what depends on the order.
-/

namespace Provenance

open Extent Parameter

/-! ### What is read of a name -/

section Named

variable {ps qs : List Parameter} {name : String} {α : Type}
  {read : Parameter → Except ParameterFault α}

/-- The parameter of a name is the same in any order. -/
theorem filter_name_of_perm (h : ps.Perm qs) (hps : (ps.map Parameter.name).Nodup)
    (name : String) :
    ps.filter (fun p => p.name == name) = qs.filter (fun p => p.name == name) := by
  have hfilter := h.filter fun p => p.name == name
  have hnodup : ((ps.filter fun p => p.name == name).map Parameter.name).Nodup :=
    hps.sublist (List.filter_sublist.map _)
  rcases hfirst : ps.filter fun p => p.name == name with _ | ⟨p, _ | ⟨p', rest⟩⟩
  · rw [hfirst] at hfilter
    exact hfirst.trans hfilter.nil_eq
  · rw [hfirst] at hfilter
    exact hfirst.trans hfilter.singleton_eq
  · -- two parameters would have the name
    have hname : ∀ q ∈ p :: p' :: rest, q.name = name := by
      intro q hq
      rw [← hfirst] at hq
      exact beq_iff_eq.1 (List.mem_filter.1 hq).2
    rw [hfirst, List.map_cons, List.nodup_cons] at hnodup
    refine absurd (List.mem_map.2 ⟨p', List.mem_cons_self, ?_⟩) hnodup.1
    rw [hname p' (List.mem_cons_of_mem _ List.mem_cons_self), hname p List.mem_cons_self]

theorem given_of_perm (h : ps.Perm qs) (hps : (ps.map Parameter.name).Nodup) (name : String) :
    given name ps = given name qs := by
  rw [given, given, filter_name_of_perm h hps]

theorem lastNamed_of_perm (h : ps.Perm qs) (hps : (ps.map Parameter.name).Nodup) (name : String) :
    lastNamed name ps = lastNamed name qs := by
  rw [lastNamed, lastNamed, filter_name_of_perm h hps]

theorem lastRead_of_perm (h : ps.Perm qs) (hps : (ps.map Parameter.name).Nodup)
    (read : Parameter → Except ParameterFault α) (name : String) :
    lastRead read name ps = lastRead read name qs := by
  rw [lastRead, lastRead, lastNamed_of_perm h hps]

end Named

/-! ### Filters on events -/

/-- A query with other filters. -/
def EventQuery.reordered (q : EventQuery) (fs : List Predicate) : EventQuery :=
  { q with predicates := fs }

/-- **The plan of parameters in another order** has its filters in another order. -/
theorem EventPlan.ofParameters_of_perm {ps qs : List Parameter} (h : ps.Perm qs)
    (hps : (ps.map Parameter.name).Nodup) {plan : EventPlan} (hplan : ofParameters ps = .ok plan) :
    plan.query.predicates.Perm (qs.filterMap predicate?) ∧
      ofParameters qs =
        .ok ⟨plan.query.reordered (qs.filterMap predicate?), plan.maxCount⟩ := by
  obtain ⟨hclauses, limit, hlimit, rfl⟩ := ofParameters_eq_ok_iff.1 hplan
  refine ⟨h.filterMap _, ofParameters_eq_ok_iff.2
    ⟨fun p hp => hclauses p (h.mem_iff.2 hp), limit, ?_, ?_⟩⟩
  · rwa [← lastRead_of_perm h hps, ← lastRead_of_perm h hps]
  · have horder : order qs = order ps := by
      rw [order, order, lastRead_of_perm h hps, lastRead_of_perm h hps]
    rw [horder, ← lastRead_of_perm h hps]
    rfl

namespace EventQuery

variable {q : EventQuery} {fs : List Predicate}

/-- **What a query finds** does not depend on the order of its filters. -/
theorem rows_reordered (h : q.predicates.Perm fs) (s : Store) :
    (q.reordered fs).rows s = q.rows s := by
  have hmatching : (q.reordered fs).matching s = q.matching s := by
    rw [matching_eq, matching_eq]
    exact List.filter_congr fun e _ => h.symm.all_eq
  rw [rows, rows, hmatching]
  rfl

/-- Where both statements are carried out, they bring the same events. -/
theorem fetch_reordered (h : q.predicates.Perm fs) (s : Store) (hq : q.checkStatement = .ok ())
    (hfs : (q.reordered fs).checkStatement = .ok ()) : (q.reordered fs).fetch s = q.fetch s := by
  rw [fetch, fetch, hq, hfs, rows_reordered h]

/-- How deep the conditions of a query are, with those inside of them. -/
def depth (q : EventQuery) : Nat :=
  together ((q.predicates.map Predicate.extent).map Extent.depth) +
    insideOf (q.predicates.map Predicate.extent)

/-- That nothing but their depth keeps the conditions of a query from being carried out. -/
structure BindsWithin (q : EventQuery) : Prop where
  startsWithin : ∀ p ∈ q.predicates, p.startsWithin
  values_le : q.statement.values.length ≤ maxBound

theorem bindsWithin_reordered (h : q.predicates.Perm fs) :
    (q.reordered fs).BindsWithin ↔ q.BindsWithin := by
  have hvalues : (q.reordered fs).statement.values.length = q.statement.values.length := by
    rw [length_values_statement, length_values_statement]
    exact congrArg (· + 1) ((h.symm.map _).map _).sum_nat
  constructor
  · rintro ⟨hstarts, hle⟩
    exact ⟨fun p hp => hstarts p (h.mem_iff.1 hp), hvalues ▸ hle⟩
  · rintro ⟨hstarts, hle⟩
    exact ⟨fun p hp => hstarts p (h.mem_iff.2 hp), hvalues.symm ▸ hle⟩

end EventQuery

/-! ### Conditions that choose from something -/

theorem Predicate.start_le_values (f : Predicate) {n : Nat} (hn : f.extent.start = some n) :
    n ≤ f.extent.values := by
  cases f with
  | fieldWithin g ids =>
    obtain rfl : ids.length = n := Option.some.inj hn
    rw [values_extent]
    simp [condition, descendants, Statement.join, List.flatMap_map, List.map_const']
  | _ => exact absurd hn (by simp [extent, ofChoice, ofRow, ofPart, ofAttribute])

theorem Predicate.withinStart_iff (f : Predicate) : f.extent.WithinStart ↔ f.startsWithin := by
  cases f with
  | fieldWithin g ids =>
    have hstart : (fieldWithin g ids).extent.start = some ids.length := rfl
    simp [WithinStart, hstart, startsWithin]
  | _ =>
    refine iff_of_true (fun n hn => absurd hn ?_) trivial
    simp [extent, ofChoice, ofRow, ofPart, ofAttribute]

/-- The conditions of a plan choose from something, if the parameters have values. -/
theorem EventPlan.counted_of_ofParameters {ps : List Parameter} (hps : ∀ p ∈ ps, p.values ≠ [])
    {plan : EventPlan} (hplan : ofParameters ps = .ok plan) :
    ∀ e ∈ plan.query.predicates.map Predicate.extent, e.Counted := by
  obtain ⟨-, limit, -, rfl⟩ := ofParameters_eq_ok_iff.1 hplan
  intro e he
  obtain ⟨f, hf, rfl⟩ := List.mem_map.1 he
  refine ⟨?_, fun n hn => f.start_le_values hn⟩
  obtain ⟨p, hp, hpredicate⟩ := List.mem_filterMap.1 hf
  obtain ⟨c, hc, hpick⟩ := Option.bind_eq_some_iff.1 hpredicate
  cases hclause : p.clause with
  | error e => exact absurd hc (by simp [hclause, Except.toOption])
  | ok c' =>
    obtain rfl : c' = c := by simpa [hclause, Except.toOption] using hc
    cases c' with
    | filter g =>
      obtain rfl : g = f := Option.some.inj hpick
      exact chooses_of_clause (hps p hp) hclause
    | _ => exact absurd hpick (by simp [Clause.predicate?])

/-- **When a statement is carried out.**  Of that, only how deep its conditions are depends on their
order. -/
theorem EventQuery.checkStatement_eq_ok_iff {q : EventQuery}
    (h : ∀ e ∈ q.predicates.map Predicate.extent, e.Counted) :
    q.checkStatement = .ok () ↔ q.BindsWithin ∧ q.depth ≤ maxDepth := by
  have hstarts : (∀ e ∈ q.predicates.map Predicate.extent, e.WithinStart) ↔
      ∀ p ∈ q.predicates, p.startsWithin := by
    simp only [List.forall_mem_map, Predicate.withinStart_iff]
  rw [checkStatement, checkExtents_eq_ok_iff h, hstarts, ← length_values_statement]
  constructor
  · rintro ⟨hs, hv, hd⟩
    exact ⟨⟨hs, hv⟩, hd⟩
  · rintro ⟨⟨hs, hv⟩, hd⟩
    exact ⟨hs, hv, hd⟩

/-! ### Filters on master data -/

/-- What was read makes a plan if it is said what to attach, and one more than the greatest count
can still be counted. -/
theorem MasterDataDraft.exists_finish_iff (d : MasterDataDraft) :
    (∃ plan, d.finish = .ok plan) ↔
      (d.includeAttributes ≠ none ∧ d.includeChildren ≠ none) ∧
        ∀ n, d.maxCount = some n → n < Text.maxWord64 := by
  obtain ⟨query, attributes?, children?, count?⟩ := d
  cases attributes? with
  | none => simp [finish]
  | some attributes =>
    cases children? with
    | none => simp [finish]
    | some children =>
      cases count? with
      | none => simp [finish]
      | some n =>
        by_cases hn : n < Text.maxWord64
        · have hprobe : probeLimit "maxElementCount" n = .ok (n + 1) := if_pos hn
          simp only [finish, hprobe]
          exact iff_of_true ⟨_, rfl⟩ (by simpa using hn)
        · have hprobe : probeLimit "maxElementCount" n =
              .error (.countOutOfRange "maxElementCount") := if_neg hn
          simp only [finish, hprobe]
          refine iff_of_false ?_ fun h => hn (h.2 n rfl)
          rintro ⟨plan, hplan⟩
          exact absurd hplan (by simp [bind, Except.bind])

/-- **When a list has a plan for master data**: each parameter has a meaning, it is said what to
attach, and one more than the greatest count can still be counted. -/
theorem MasterDataPlan.exists_ofParameters_iff {ps : List Parameter} :
    (∃ plan, ofParameters ps = .ok plan) ↔
      (∀ p ∈ ps, ∃ c, p.elementClause = .ok c) ∧
        (lastRead flag "includeAttributes" ps ≠ none ∧
          lastRead flag "includeChildren" ps ≠ none) ∧
        ∀ n, lastRead count "maxElementCount" ps = some n → n < Text.maxWord64 := by
  rw [← exists_mapM_iff]
  constructor
  · rintro ⟨plan, h⟩
    obtain ⟨cs, hcs, h⟩ := bind_eq_ok_iff.1 h
    have hsays := MasterDataDraft.says_start.foldl hcs
    rw [List.nil_append] at hsays
    rw [← hsays.includeAttributes, ← hsays.includeChildren, ← hsays.maxCount]
    exact ⟨⟨cs, hcs⟩, (MasterDataDraft.exists_finish_iff _).1 ⟨plan, h⟩⟩
  · rintro ⟨⟨cs, hcs⟩, h⟩
    have hsays := MasterDataDraft.says_start.foldl hcs
    rw [List.nil_append] at hsays
    rw [← hsays.includeAttributes, ← hsays.includeChildren, ← hsays.maxCount] at h
    obtain ⟨plan, hplan⟩ := (MasterDataDraft.exists_finish_iff _).2 h
    exact ⟨plan, bind_eq_ok_iff.2 ⟨cs, hcs, hplan⟩⟩

/-- A query with other value filters. -/
def MasterDataQuery.reordered (q : MasterDataQuery) (vs : List (String × List String)) :
    MasterDataQuery :=
  { q with attributeValues := vs }

/-- A query is told from what it asks for and its limit. -/
theorem MasterDataQuery.Asks.unique {q q' : MasterDataQuery} {ps : List Parameter} (h : q.Asks ps)
    (h' : q'.Asks ps) (hlimit : q.limit = q'.limit) : q = q' := by
  obtain ⟨⟨hvocabularies, hids, hwithin, hpresent, hvalues, hnames⟩, ha, hc⟩ := h
  obtain ⟨⟨hvocabularies', hids', hwithin', hpresent', hvalues', hnames'⟩, ha', hc'⟩ := h'
  have hattributes := Option.some.inj (ha.symm.trans ha')
  have hchildren := Option.some.inj (hc.symm.trans hc')
  cases q
  cases q'
  simp_all

theorem MasterDataQuery.Asks.reordered {q : MasterDataQuery} {ps qs : List Parameter}
    (h : q.Asks ps) (hperm : ps.Perm qs) (hps : (ps.map Parameter.name).Nodup) :
    (q.reordered (qs.filterMap attributeFilter?)).Asks qs := by
  obtain ⟨⟨hvocabularies, hids, hwithin, hpresent, hvalues, hnames⟩, ha, hc⟩ := h
  rw [given_of_perm hperm hps] at hvocabularies hids hwithin hpresent
  rw [lastNamed_of_perm hperm hps] at hnames
  rw [lastRead_of_perm hperm hps] at ha hc
  exact ⟨⟨hvocabularies, hids, hwithin, hpresent, rfl, hnames⟩, ha, hc⟩

/-- **The plan of parameters in another order** has its value filters in another order. -/
theorem MasterDataPlan.ofParameters_of_perm {ps qs : List Parameter} (h : ps.Perm qs)
    (hps : (ps.map Parameter.name).Nodup) {plan : MasterDataPlan}
    (hplan : ofParameters ps = .ok plan) :
    plan.query.attributeValues.Perm (qs.filterMap attributeFilter?) ∧
      ofParameters qs = .ok ⟨plan.query.reordered (qs.filterMap attributeFilter?),
        plan.maxCount⟩ := by
  have hread {α : Type} (read : Parameter → Except ParameterFault α) (name : String) :
      lastRead read name ps = lastRead read name qs := lastRead_of_perm h hps read name
  obtain ⟨hclauses, hattach, hcount⟩ := exists_ofParameters_iff.1 ⟨plan, hplan⟩
  rw [hread, hread] at hattach
  rw [hread] at hcount
  obtain ⟨⟨query, max⟩, hplan'⟩ := exists_ofParameters_iff.2
    ⟨fun p hp => hclauses p (h.mem_iff.2 hp), hattach, hcount⟩
  obtain ⟨hasks, hmax, hlimit⟩ := asks hplan
  obtain ⟨hasks', hmax', hlimit'⟩ := asks hplan'
  obtain rfl : max = plan.maxCount := hmax'.trans (hmax.trans (hread _ _)).symm
  obtain rfl : query = plan.query.reordered (qs.filterMap attributeFilter?) :=
    hasks'.unique (hasks.reordered h hps) (hlimit'.trans hlimit.symm)
  exact ⟨hasks.attributeValues ▸ h.filterMap _, hplan'⟩

namespace MasterDataQuery

variable {q : MasterDataQuery} {vs : List (String × List String)}

/-- What a query finds does not depend on the order of its value filters. -/
theorem rows_reordered (h : q.attributeValues.Perm vs) (s : Store) :
    (q.reordered vs).rows s = q.rows s := by
  have hmatching : (q.reordered vs).matching s = q.matching s := by
    refine List.filter_congr fun m _ => ?_
    exact congrArg (_ && ·) h.symm.all_eq
  rw [rows, rows, hmatching]
  rfl

/-- All conditions of a query choose from something. -/
theorem counted_extents (q : MasterDataQuery) : ∀ e ∈ q.extents, e.Counted := by
  intro e he
  refine ⟨isEmptyChoice_of_mem_extents he, fun n hn => ?_⟩
  rcases mem_extents he with rfl | ⟨m, -, rfl⟩ | ⟨-, rfl⟩ | ⟨m, further, chooses, -, rfl⟩
  · exact absurd hn (by simp)
  · exact absurd hn (by simp [ofChoice])
  · exact Nat.le_of_eq (Option.some.inj hn).symm
  · exact absurd hn (by simp [ofPart])

/-- The conditions of value filters are of one depth, so their order does not matter. -/
theorem checkExtents_reordered (h : q.attributeValues.Perm vs)
    (hvalues : ∀ v ∈ q.attributeValues, v.2 ≠ []) :
    checkExtents (q.reordered vs).extents = .ok () ↔ checkExtents q.extents = .ok () := by
  let condition (v : String × List String) : Extent := ofPart (v.2.length + 1) 2 (!v.2.isEmpty)
  have hfront (vs : List (String × List String)) :
      (q.reordered vs).extents = (q.reordered []).extents ++ vs.map condition := by
    simp [extents, reordered, condition]
  have hdepth {vs : List (String × List String)} (hvs : ∀ v ∈ vs, v.2 ≠ []) :
      (vs.map condition).map Extent.depth = List.replicate vs.length (ofPart 0 2 true).depth := by
    rw [List.map_map]
    refine List.eq_replicate_iff.2 ⟨List.length_map _, fun d hd => ?_⟩
    obtain ⟨v, hv, rfl⟩ := List.mem_map.1 hd
    have hchooses : (!v.2.isEmpty) = true := by simpa using hvs v hv
    show (ofPart (v.2.length + 1) 2 (!v.2.isEmpty)).depth = _
    rw [hchooses]
    rfl
  have hown : q.extents = (q.reordered []).extents ++ q.attributeValues.map condition :=
    hfront q.attributeValues
  rw [hown, hfront]
  refine checkExtents_of_perm ((h.symm.map condition).append_left _) ?_ ?_
  · rw [← hfront]
    exact counted_extents _
  · rw [List.map_append, List.map_append, hdepth hvalues,
      hdepth fun v hv => hvalues v (h.mem_iff.2 hv), h.length_eq]

/-- **For master data the order of the filters does not matter**: the same is found, or no statement
is carried out. -/
theorem fetch_reordered (h : q.attributeValues.Perm vs)
    (hvalues : ∀ v ∈ q.attributeValues, v.2 ≠ []) (s : Store) :
    (q.reordered vs).fetch s = q.fetch s ∨
      ∃ e e', q.fetch s = .error e ∧ (q.reordered vs).fetch s = .error e' := by
  have hchecks := checkExtents_reordered h hvalues
  unfold fetch
  rw [rows_reordered h]
  cases hq : checkExtents q.extents with
  | ok u =>
    rw [hchecks.2 hq]
    exact .inl rfl
  | error e =>
    cases hvs : checkExtents (q.reordered vs).extents with
    | ok u => exact absurd (hq.symm.trans (hchecks.1 hvs)) (by simp)
    | error e' => exact .inr ⟨e, e', rfl, rfl⟩

end MasterDataQuery

end Provenance
