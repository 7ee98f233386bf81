import Provenance.Proofs.Query.Answer
import Provenance.Proofs.Query.FieldNames
import Provenance.Proofs.Query.Rearrangement
import Provenance.Proofs.Text.Numeral
import Provenance.Repository.Basic

/-!
# How a parameter list is written

Values of a name may be split over several parameters, blank values and parameters without values
may be added, and the names may come in any order: what is given under each name stays the same.
So does the answer to a poll, but for one thing.  The conditions of an event query are written in
the order in which the names come, and a statement with very many of them may be too deep in one
order and not in another.  Then one list is answered and the other one fails in the store.

There are many ways for two lists to say the same, and only this one to tell them apart.  It cannot
be for lists with a moderate number of filters, nor for those with so many that no order helps.

## Main definitions

* `FailureKind`, `AnsweredAlike` — what a caller can tell from an answer.

## Main results

* `Store.poll_of_exceeding`, `Store.poll_of_within` — an event query that is carried out, or not.
* `Store.poll_of_filled` — **the answers to two lists that say the same.**
-/

namespace Provenance

open Parameter StandingQuery

/-! ### Answers -/

/-- The kinds of failures, as a caller can tell them from each other. -/
inductive FailureKind
  | validation
  | parameter
  | tooLarge
  | noSuchName
  | notPermitted
  | storage
  | internal
  deriving DecidableEq, Repr

/-- The kind of a failure. -/
def Failure.kind : Failure → FailureKind
  | invalidCapture _ | invalidSubscription _ => .validation
  | parameter _ => .parameter
  | tooLarge .. => .tooLarge
  | noSuchName _ => .noSuchName
  | notPermitted _ => .notPermitted
  | storage _ => .storage
  | internal _ => .internal

/-- That two calls have the same answer, or fail in the same way. -/
def AnsweredAlike {α : Type} : Except Failure α → Except Failure α → Prop
  | .ok a, .ok b => a = b
  | .error f, .error g => f.kind = g.kind
  | _, _ => False

theorem AnsweredAlike.refl {α : Type} (x : Except Failure α) : AnsweredAlike x x := by
  cases x <;> exact rfl

theorem AnsweredAlike.symm {α : Type} :
    ∀ {x y : Except Failure α}, AnsweredAlike x y → AnsweredAlike y x
  | .ok _, .ok _, h => Eq.symm h
  | .error _, .error _, h => Eq.symm h

theorem AnsweredAlike.of_eq {α : Type} {x y : Except Failure α} (h : x = y) : AnsweredAlike x y :=
  h ▸ .refl x

/-! ### Polls -/

namespace Store

variable {s : Store} {ps qs : List Parameter}

/-- To poll is to check the normal form of the parameters and to execute the query for it. -/
theorem poll_eq (s : Store) (q : StandingQuery) (ps : List Parameter) :
    s.poll ⟨q.name, ps⟩ = (do
      (q.check (normalize ps)).mapError .parameter
      let results ← (q.execute s (normalize ps) none).mapError queryFailure
      .ok ⟨q.name, none, results⟩) := by
  cases q <;> rfl

/-- Parameters that do not pass the check are refused. -/
theorem poll_of_fault {q : StandingQuery} {f : ParameterFault}
    (h : q.check (normalize ps) = .error f) (s : Store) :
    s.poll ⟨q.name, ps⟩ = .error (.parameter f) := by
  rw [poll_eq, h]
  rfl

theorem answeredAlike_of_faults {q : StandingQuery} {f g : ParameterFault}
    (hf : q.check (normalize ps) = .error f) (hg : q.check (normalize qs) = .error g) (s : Store) :
    AnsweredAlike (s.poll ⟨q.name, ps⟩) (s.poll ⟨q.name, qs⟩) := by
  rw [poll_of_fault hf, poll_of_fault hg]
  exact rfl

theorem poll_of_eventPlan {plan : EventPlan} (h : EventPlan.ofParameters (normalize ps) = .ok plan)
    (s : Store) :
    s.poll ⟨simpleEvent.name, ps⟩ =
      ((EventPlan.execute.run plan s plan.query).mapError queryFailure).map fun es =>
        ⟨simpleEvent.name, none, .events es⟩ := by
  have hcheck : simpleEvent.check (normalize ps) = .ok () := map_eq_ok_iff.2 ⟨plan, h, rfl⟩
  rw [poll_eq, hcheck, execute_of_plan h]
  cases hrun : EventPlan.execute.run plan s plan.query with
  | error f => simp only [EventPlan.execute, hrun]; rfl
  | ok es => simp only [EventPlan.execute, hrun]; rfl

theorem poll_of_masterDataPlan {plan : MasterDataPlan}
    (h : MasterDataPlan.ofParameters (normalize ps) = .ok plan) (s : Store) :
    s.poll ⟨simpleMasterData.name, ps⟩ =
      ((plan.execute s).mapError queryFailure).map fun ms =>
        ⟨simpleMasterData.name, none, .masterData ms⟩ := by
  have hcheck : simpleMasterData.check (normalize ps) = .ok () := map_eq_ok_iff.2 ⟨plan, h, rfl⟩
  have hexecute : simpleMasterData.execute s (normalize ps) none =
      (plan.execute s).map .masterData := by
    simp only [StandingQuery.execute, h]
    rfl
  rw [poll_eq, hcheck, hexecute]
  cases plan.execute s <;> rfl

/-- A statement that is not carried out is a fault of the parameters. -/
theorem poll_of_exceeding {plan : EventPlan}
    (h : EventPlan.ofParameters (normalize ps) = .ok plan) {e : StorageError}
    (he : plan.query.checkStatement = .error e) (s : Store) :
    s.poll ⟨simpleEvent.name, ps⟩ = .error (.parameter (.executionFailed e.message)) := by
  rw [poll_of_eventPlan h, EventPlan.execute.run, EventQuery.fetch, he]
  rfl

/-- A statement that is carried out brings an answer, or too many events. -/
theorem poll_of_within (hs : s.Reachable) {plan : EventPlan}
    (h : EventPlan.ofParameters (normalize ps) = .ok plan)
    (hcheck : plan.query.checkStatement = .ok ()) :
    (∃ r, s.poll ⟨simpleEvent.name, ps⟩ = .ok r) ∨
      ∃ n, s.poll ⟨simpleEvent.name, ps⟩ = .error (.tooLarge .events n) := by
  rw [poll_of_eventPlan h]
  rcases plan.run_cases hs plan.query with ⟨e, he, -⟩ | ⟨-, ⟨es, hrun⟩ | ⟨n, -, -, hrun⟩⟩
  · exact absurd (hcheck.symm.trans he) (by simp)
  · exact .inl ⟨_, by rw [hrun]; rfl⟩
  · exact .inr ⟨n, by rw [hrun]; rfl⟩

/-- A caller can tell whether a statement is carried out. -/
theorem not_answeredAlike (hs : s.Reachable) {plan plan' : EventPlan}
    (h : EventPlan.ofParameters (normalize ps) = .ok plan)
    (h' : EventPlan.ofParameters (normalize qs) = .ok plan')
    (hcheck : plan.query.checkStatement = .ok ()) {e : StorageError}
    (he : plan'.query.checkStatement = .error e) :
    ¬AnsweredAlike (s.poll ⟨simpleEvent.name, ps⟩) (s.poll ⟨simpleEvent.name, qs⟩) := by
  rw [poll_of_exceeding h' he]
  rcases poll_of_within hs h hcheck with ⟨r, hr⟩ | ⟨n, hn⟩
  · rw [hr]
    exact id
  · rw [hn]
    intro hkind
    exact absurd (show FailureKind.tooLarge = .parameter from hkind) (by decide)

/-- Two plans that differ in the order of their filters have the same answer if both statements are
carried out. -/
theorem poll_of_reordered {plan : EventPlan} {fs : List Predicate}
    (h : EventPlan.ofParameters (normalize ps) = .ok plan) (hperm : plan.query.predicates.Perm fs)
    (h' : EventPlan.ofParameters (normalize qs) = .ok ⟨plan.query.reordered fs, plan.maxCount⟩)
    (hcheck : plan.query.checkStatement = .ok ())
    (hcheck' : (plan.query.reordered fs).checkStatement = .ok ()) (s : Store) :
    s.poll ⟨simpleEvent.name, ps⟩ = s.poll ⟨simpleEvent.name, qs⟩ := by
  rw [poll_of_eventPlan h, poll_of_eventPlan h', EventPlan.execute.run, EventPlan.execute.run,
    EventQuery.fetch_reordered hperm s hcheck hcheck']

/-- **When two plans that differ in the order of their filters are answered alike**: if both
statements are carried out, or none is. -/
theorem answeredAlike_iff (hs : s.Reachable) {plan : EventPlan} {fs : List Predicate}
    (h : EventPlan.ofParameters (normalize ps) = .ok plan) (hperm : plan.query.predicates.Perm fs)
    (h' : EventPlan.ofParameters (normalize qs) = .ok ⟨plan.query.reordered fs, plan.maxCount⟩) :
    AnsweredAlike (s.poll ⟨simpleEvent.name, ps⟩) (s.poll ⟨simpleEvent.name, qs⟩) ↔
      (plan.query.checkStatement = .ok () ↔
        (plan.query.reordered fs).checkStatement = .ok ()) := by
  cases hcheck : plan.query.checkStatement with
  | ok u =>
    cases hcheck' : (plan.query.reordered fs).checkStatement with
    | ok u' => exact iff_of_true (.of_eq (poll_of_reordered h hperm h' hcheck hcheck' s)) Iff.rfl
    | error e => exact iff_of_false (not_answeredAlike hs h h' hcheck hcheck') (by simp)
  | error e =>
    cases hcheck' : (plan.query.reordered fs).checkStatement with
    | ok u =>
      exact iff_of_false (fun halike => not_answeredAlike hs h' h hcheck' hcheck halike.symm)
        (by simp)
    | error e' =>
      rw [poll_of_exceeding h hcheck, poll_of_exceeding h' hcheck']
      exact iff_of_true rfl (by simp)

end Store

/-! ### Lists that say the same -/

/-- Whether a statement is carried out does not depend on the order of a moderate number of filters,
nor on that of very many. -/
theorem EventQuery.checkStatement_reordered {q : EventQuery} {fs : List Predicate}
    (hperm : q.predicates.Perm fs)
    (hcounted : ∀ e ∈ q.predicates.map Predicate.extent, e.Counted)
    (hlength : fs.length ≤ maxConditions ∨ maxDepth + 1 < fs.length) :
    q.checkStatement = .ok () ↔ (q.reordered fs).checkStatement = .ok () := by
  have hcounted' : ∀ e ∈ fs.map Predicate.extent, e.Counted :=
    fun e he => hcounted e ((hperm.map _).mem_iff.2 he)
  have hmany {q : EventQuery} (hq : ∀ e ∈ q.predicates.map Predicate.extent, e.Counted)
      (h : maxDepth + 1 < q.predicates.length) : q.checkStatement ≠ .ok () := by
    intro hok
    obtain ⟨e, he⟩ := exists_checkStatement_of_many
      (fun p hp => (hq _ (List.mem_map_of_mem hp)).chooses) h
    exact absurd (hok.symm.trans he) (by simp)
  rcases hlength with hfew | hlong
  · have hwithin {q : EventQuery} (hq : ∀ e ∈ q.predicates.map Predicate.extent, e.Counted)
        (h : q.predicates.length ≤ maxConditions) : q.checkStatement = .ok () ↔ q.BindsWithin :=
      ⟨fun hok => ((checkStatement_eq_ok_iff hq).1 hok).1,
        fun ⟨hstarts, hvalues⟩ => checkStatement_of_within hvalues hstarts h⟩
    rw [hwithin hcounted (hperm.length_eq ▸ hfew), hwithin (q := q.reordered fs) hcounted' hfew,
      bindsWithin_reordered hperm]
  · exact iff_of_false (hmany hcounted (hperm.length_eq ▸ hlong))
      (hmany (q := q.reordered fs) hcounted' hlong)

theorem StandingQuery.name_of_ofName {query : String} {q : StandingQuery}
    (h : StandingQuery.ofName query = some q) : query = q.name := by
  have hsame := List.find?_some (p := fun r : StandingQuery => r.name == query) h
  exact (beq_iff_eq.1 hsame).symm

/-- Polls of the query for master data are answered alike. -/
theorem Store.poll_masterData_of_filled {ps qs : List Parameter}
    (h : ∀ name, filled name ps = filled name qs) (s : Store) :
    AnsweredAlike (s.poll ⟨simpleMasterData.name, ps⟩) (s.poll ⟨simpleMasterData.name, qs⟩) := by
  have hperm := normalize_perm h
  cases hps : MasterDataPlan.ofParameters (normalize ps) with
  | error f =>
    cases hqs : MasterDataPlan.ofParameters (normalize qs) with
    | error g =>
      have hcheck {ps : List Parameter} {f : ParameterFault}
          (h : MasterDataPlan.ofParameters (normalize ps) = .error f) :
          simpleMasterData.check (normalize ps) = .error f := by
        rw [StandingQuery.check, h]
        rfl
      exact answeredAlike_of_faults (hcheck hps) (hcheck hqs) s
    | ok plan =>
      obtain ⟨-, hplan⟩ :=
        MasterDataPlan.ofParameters_of_perm hperm.symm (nodup_names_normalize qs) hqs
      exact absurd (hps.symm.trans hplan) (by simp)
  | ok plan =>
    obtain ⟨hvalues, hqs⟩ :=
      MasterDataPlan.ofParameters_of_perm hperm (nodup_names_normalize ps) hps
    have hfilled : ∀ v ∈ plan.query.attributeValues, v.2 ≠ [] := by
      intro v hv
      rw [(MasterDataPlan.asks hps).1.attributeValues] at hv
      obtain ⟨p, hp, hfilter⟩ := List.mem_filterMap.1 hv
      obtain ⟨-, -, hsame⟩ := attributeFilter?_eq_some_iff.1 hfilter
      exact hsame ▸ (mem_normalize_iff.1 hp).1
    rw [poll_of_masterDataPlan hps, poll_of_masterDataPlan hqs, MasterDataPlan.execute,
      MasterDataPlan.execute]
    rcases MasterDataQuery.fetch_reordered hvalues hfilled s with heq | ⟨e, e', he, he'⟩
    · rw [heq]
      exact .refl _
    · rw [he, he']
      exact rfl

/-- **The answers to two lists that say the same**, in every reachable store.  Let the two lists
give the same values under each name, apart from those that are blank.

* Polls of a query other than the one for events are answered alike: with the same elements, or by
  failures of one kind.
* So are polls of the query for events, if the parameters are at fault.
* Else the two plans differ in the order of their filters only.  The polls are answered alike, with
  the same events in the same order or by failures of one kind, exactly if both statements are
  carried out or none is.
* They are for certain if there are not too many filters, or more than can be in any order.
* Where there is a difference, one of the two orders makes the statement too deep and the other one
  does not, and nothing else about them exceeds a limit. -/
theorem Store.poll_of_filled {s : Store} (hs : s.Reachable) {ps qs : List Parameter}
    (h : ∀ name, filled name ps = filled name qs) :
    (∀ query, StandingQuery.ofName query ≠ some simpleEvent →
      AnsweredAlike (s.poll ⟨query, ps⟩) (s.poll ⟨query, qs⟩)) ∧
    ((∃ f, EventPlan.ofParameters (normalize ps) = .error f) →
      AnsweredAlike (s.poll ⟨simpleEvent.name, ps⟩) (s.poll ⟨simpleEvent.name, qs⟩)) ∧
    ∀ plan, EventPlan.ofParameters (normalize ps) = .ok plan →
      ∃ fs, plan.query.predicates.Perm fs ∧
        EventPlan.ofParameters (normalize qs) = .ok ⟨plan.query.reordered fs, plan.maxCount⟩ ∧
        (AnsweredAlike (s.poll ⟨simpleEvent.name, ps⟩) (s.poll ⟨simpleEvent.name, qs⟩) ↔
          (plan.query.checkStatement = .ok () ↔
            (plan.query.reordered fs).checkStatement = .ok ())) ∧
        (fs.length ≤ maxConditions ∨ maxDepth + 1 < fs.length →
          AnsweredAlike (s.poll ⟨simpleEvent.name, ps⟩) (s.poll ⟨simpleEvent.name, qs⟩)) ∧
        (¬AnsweredAlike (s.poll ⟨simpleEvent.name, ps⟩) (s.poll ⟨simpleEvent.name, qs⟩) →
          plan.query.BindsWithin ∧
            ¬(plan.query.depth ≤ maxDepth ↔ (plan.query.reordered fs).depth ≤ maxDepth)) := by
  have hperm := normalize_perm h
  refine ⟨fun query hquery => ?_, fun hfault => ?_, fun plan hplan => ?_⟩
  · cases hname : StandingQuery.ofName query with
    | none =>
      rw [poll, poll, hname]
      exact rfl
    | some q =>
      obtain rfl := name_of_ofName hname
      cases q with
      | simpleEvent => exact absurd hname hquery
      | simpleMasterData => exact poll_masterData_of_filled h s
  · obtain ⟨f, hf⟩ := hfault
    cases hqs : EventPlan.ofParameters (normalize qs) with
    | error g =>
      have hcheck {ps : List Parameter} {f : ParameterFault}
          (h : EventPlan.ofParameters (normalize ps) = .error f) :
          simpleEvent.check (normalize ps) = .error f := by
        rw [StandingQuery.check, h]
        rfl
      exact answeredAlike_of_faults (hcheck hf) (hcheck hqs) s
    | ok plan =>
      obtain ⟨-, hplan⟩ := EventPlan.ofParameters_of_perm hperm.symm (nodup_names_normalize qs) hqs
      exact absurd (hf.symm.trans hplan) (by simp)
  · obtain ⟨hfs, hqs⟩ := EventPlan.ofParameters_of_perm hperm (nodup_names_normalize ps) hplan
    have hcounted := EventPlan.counted_of_ofParameters
      (fun p hp => (mem_normalize_iff.1 hp).1) hplan
    have hcounted' := EventPlan.counted_of_ofParameters
      (fun p hp => (mem_normalize_iff.1 hp).1) hqs
    have hiff := answeredAlike_iff hs hplan hfs hqs
    refine ⟨_, hfs, hqs, hiff, fun hlength => ?_, fun hnot => ?_⟩
    · exact hiff.2 (EventQuery.checkStatement_reordered hfs hcounted hlength)
    · rw [hiff, EventQuery.checkStatement_eq_ok_iff hcounted,
        EventQuery.checkStatement_eq_ok_iff hcounted', EventQuery.bindsWithin_reordered hfs] at hnot
      tauto

/-! ### Two orders -/

/-- A filter whose condition is deeper than those on custom fields. -/
def describedFilter : Parameter := ⟨"EQATTR_readPoint_a", ["x"]⟩

/-- Its predicate. -/
def describedPredicate : Predicate := .attributeIn .readPoint "a" ["x"]

/-- Filters that begin with the deep one. -/
def deepFirst (n : Nat) : List Parameter := describedFilter :: Session.fieldFilters n

/-- The same filters, with the deep one at the end. -/
def deepLast (n : Nat) : List Parameter := Session.fieldFilters n ++ [describedFilter]

theorem perm_deepLast (n : Nat) : (deepLast n).Perm (deepFirst n) :=
  List.perm_append_singleton describedFilter (Session.fieldFilters n)

theorem nodup_names_fieldFilters (n : Nat) :
    ((Session.fieldFilters n).map Parameter.name).Nodup := by
  rw [Session.fieldFilters, List.map_map]
  refine List.Nodup.map (fun i j h => ?_) List.nodup_range
  have hdigits : Nat.toDigits 10 i = Nat.toDigits 10 j := by
    simpa [← String.toList_inj, Nat.toString_eq_ofList_toDigits] using h
  have hvalue := congrArg (Text.digitsValueFrom 0) hdigits
  rw [Text.digitsValueFrom_toDigits, Text.digitsValueFrom_toDigits] at hvalue
  exact Option.some.inj hvalue

theorem describedFilter_unnamed (n : Nat) :
    describedFilter.name ∉ (Session.fieldFilters n).map Parameter.name := by
  intro h
  obtain ⟨p, hp, hname⟩ := List.mem_map.1 h
  obtain ⟨i, -, rfl⟩ := List.mem_map.1 hp
  simp [describedFilter, ← String.toList_inj] at hname

/-- The two lists say the same. -/
theorem filled_deepFirst (n : Nat) (name : String) :
    filled name (deepFirst n) = filled name (deepLast n) := by
  unfold filled deepFirst deepLast
  rw [given_cons, given_concat]
  by_cases h : describedFilter.name = name
  · rw [← h, given_of_unnamed (describedFilter_unnamed n), List.append_nil, List.nil_append]
  · rw [if_neg h, List.append_nil, List.nil_append]

/-- In any order the filters are their own normal form. -/
theorem normalize_of_perm_deepFirst {n : Nat} {ps : List Parameter} (h : ps.Perm (deepFirst n)) :
    normalize ps = ps := by
  have hnames : ((deepFirst n).map Parameter.name).Nodup :=
    List.nodup_cons.2 ⟨describedFilter_unnamed n, nodup_names_fieldFilters n⟩
  refine normalize_eq_self ((h.map Parameter.name).nodup_iff.2 hnames) fun p hp => ?_
  rcases List.mem_cons.1 (h.mem_iff.1 hp) with rfl | hp
  · decide
  · obtain ⟨i, -, rfl⟩ := List.mem_map.1 hp
    exact ⟨List.cons_ne_nil _ _, fun v hv => List.mem_singleton.1 hv ▸ by decide⟩

theorem clause_describedFilter :
    describedFilter.clause = .ok (.filter describedPredicate) := by
  decide +kernel

theorem predicates_fieldFilters (n : Nat) :
    (Session.fieldFilters n).filterMap predicate? = (Session.fieldQuery n).predicates := by
  obtain ⟨-, limit, -, hplan⟩ := EventPlan.ofParameters_eq_ok_iff.1 (Session.plan_fieldFilters n)
  exact (congrArg (fun plan => plan.query.predicates) hplan).symm

theorem plan_deepFirst (n : Nat) : EventPlan.ofParameters (deepFirst n) =
    .ok ⟨⟨describedPredicate :: (Session.fieldQuery n).predicates, none, none⟩, none⟩ := by
  have hplan : EventPlan.ofParameters ([] ++ Session.fieldFilters n) =
      .ok ⟨Session.fieldQuery n, none⟩ := Session.plan_fieldFilters n
  rw [← predicates_fieldFilters]
  exact (EventPlan.ofParameters_insert_filter hplan clause_describedFilter).2

theorem plan_deepLast (n : Nat) : EventPlan.ofParameters (deepLast n) =
    .ok ⟨⟨(Session.fieldQuery n).predicates ++ [describedPredicate], none, none⟩, none⟩ := by
  have hplan : EventPlan.ofParameters (Session.fieldFilters n ++ []) =
      .ok ⟨Session.fieldQuery n, none⟩ := by
    rw [List.append_nil]
    exact Session.plan_fieldFilters n
  rw [← predicates_fieldFilters]
  exact (EventPlan.ofParameters_insert_filter hplan clause_describedFilter).2

theorem insideOf_deepFirst (n : Nat) :
    insideOf (describedPredicate.extent :: List.replicate n (Extent.ofPart 3 4 true)) = 18 := by
  have hfold : (List.replicate n 8).foldl max 18 = 18 := by
    induction n with
    | zero => rfl
    | succ n ih => exact ih
  rw [insideOf, List.map_cons, List.map_replicate]
  exact hfold

/-- Where the deep condition comes first, all others make it deeper. -/
theorem depth_deepFirst (n : Nat) :
    (⟨describedPredicate :: (Session.fieldQuery n).predicates, none, none⟩ : EventQuery).depth =
      n + 30 := by
  have hdepth : describedPredicate.extent.depth = 12 := by decide
  rw [EventQuery.depth, List.map_cons, Session.extents_fieldQuery, insideOf_deepFirst,
    ← deepen_eq, deepen_replicate (by decide), hdepth]
  omega

/-- Where it comes last, it is not as deep as the others are together. -/
theorem depth_deepLast {n : Nat} (h : 4 ≤ n) :
    (⟨(Session.fieldQuery n).predicates ++ [describedPredicate], none, none⟩ : EventQuery).depth =
      n + 27 := by
  obtain ⟨m, rfl⟩ := Nat.exists_eq_add_of_le' h
  have hdepth : describedPredicate.extent.depth = 12 := by decide
  have hother : (Extent.ofPart 3 4 true).depth = 9 := by decide
  have hinside : insideOf (List.replicate (m + 4) (Extent.ofPart 3 4 true) ++
      [describedPredicate.extent]) = 18 :=
    (insideOf_of_perm (List.perm_append_singleton _ _)).trans (insideOf_deepFirst _)
  have hlast : deepen 9 (List.replicate (m + 3) (Extent.ofPart 3 4 true) ++
      [describedPredicate.extent]) = m + 13 := by
    rw [deepen_append, deepen_replicate (Nat.le_of_eq hother)]
    show max (9 + (m + 3)) describedPredicate.extent.depth + 1 = m + 13
    omega
  rw [EventQuery.depth, List.map_append, Session.extents_fieldQuery, List.map_singleton, hinside,
    List.replicate_succ, List.cons_append, ← deepen_eq, hother, hlast]

/-- The filters of a list. -/
def deepQuery (n : Nat) : EventQuery :=
  ⟨describedPredicate :: (Session.fieldQuery n).predicates, none, none⟩

theorem bindsWithin_deepQuery {n : Nat} (h : n ≤ 1000) : (deepQuery n).BindsWithin where
  startsWithin p hp := by
    rcases List.mem_cons.1 hp with rfl | hp
    · trivial
    · obtain ⟨i, -, rfl⟩ := List.mem_map.1 hp
      trivial
  values_le := by
    have hvalues : ((deepQuery n).predicates.map Predicate.extent).map Extent.values =
        3 :: List.replicate n 3 := by
      rw [deepQuery, List.map_cons, Session.extents_fieldQuery, List.map_cons, List.map_replicate]
      rfl
    rw [EventQuery.length_values_statement, hvalues, List.sum_cons, List.sum_replicate_nat]
    show 3 + n * 3 + 1 ≤ 32766
    omega

/-- **Two lists that say the same, and one of them fails.**  With few other filters both are
answered, and alike. -/
theorem Store.poll_of_filled_deep :
    (∀ n name, filled name (deepFirst n) = filled name (deepLast n)) ∧
    AnsweredAlike (Store.empty.poll ⟨simpleEvent.name, deepFirst 5⟩)
      (Store.empty.poll ⟨simpleEvent.name, deepLast 5⟩) ∧
    ¬AnsweredAlike (Store.empty.poll ⟨simpleEvent.name, deepFirst 973⟩)
      (Store.empty.poll ⟨simpleEvent.name, deepLast 973⟩) := by
  have hplan (n : Nat) : EventPlan.ofParameters (normalize (deepFirst n)) =
      .ok ⟨deepQuery n, none⟩ := by
    rw [normalize_of_perm_deepFirst (.refl _), plan_deepFirst]
    rfl
  -- the two statements differ in the depth of their conditions only
  have hdeep (n : Nat) (hmin : 971 ≤ n) (hmax : n ≤ 973) :
      ¬AnsweredAlike (Store.empty.poll ⟨simpleEvent.name, deepFirst n⟩)
        (Store.empty.poll ⟨simpleEvent.name, deepLast n⟩) := by
    intro halike
    obtain ⟨fs, hperm, hlast, hiff, -, -⟩ :=
      (Store.poll_of_filled .empty (filled_deepFirst n)).2.2 _ (hplan n)
    have hcounted := EventPlan.counted_of_ofParameters
      (fun p hp => (mem_normalize_iff.1 hp).1) (hplan n)
    have hcounted' := EventPlan.counted_of_ofParameters
      (fun p hp => (mem_normalize_iff.1 hp).1) hlast
    have hchecks := hiff.1 halike
    rw [normalize_of_perm_deepFirst (perm_deepLast n), plan_deepLast] at hlast
    obtain rfl : (Session.fieldQuery n).predicates ++ [describedPredicate] = fs :=
      congrArg (fun plan => plan.query.predicates) (Except.ok.inj hlast)
    rw [EventQuery.checkStatement_eq_ok_iff hcounted, EventQuery.checkStatement_eq_ok_iff hcounted',
      EventQuery.bindsWithin_reordered hperm] at hchecks
    have hfirst : (deepQuery n).depth = n + 30 := depth_deepFirst n
    have hother : ((deepQuery n).reordered
        ((Session.fieldQuery n).predicates ++ [describedPredicate])).depth = n + 27 :=
      depth_deepLast (by omega)
    have hle : n + 27 ≤ maxDepth := Nat.add_le_add_right hmax 27
    have hbound := (hchecks.2 ⟨bindsWithin_deepQuery (by omega), hother ▸ hle⟩).2
    have hgt : maxDepth < n + 30 := Nat.add_le_add_right hmin 30
    exact absurd (hfirst ▸ hbound) (Nat.not_le.2 hgt)
  refine ⟨filled_deepFirst, ?_, hdeep 973 (by decide) (by decide)⟩
  obtain ⟨fs, hperm, -, -, hcount, -⟩ :=
    (Store.poll_of_filled .empty (filled_deepFirst 5)).2.2 _ (hplan 5)
  exact hcount (.inl (hperm.length_eq ▸ by decide))

end Provenance
