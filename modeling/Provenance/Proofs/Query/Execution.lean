import Mathlib.Algebra.GroupWithZero.Nat
import Provenance.Proofs.Event.Reassembly
import Provenance.Query.Standing

/-!
# Executing the event query

A parameter list that passes the check has a plan, and all that can go wrong when the plan is
executed is that there are too many events, or that its statement exceeds a limit of the store.
Nothing in a reachable store makes the reading fail: every row that was written is read back.

The check of a parameter list does not look at the limits of statements.  A statement stays within
them if it does not bind too many values, no hierarchy in it starts from no ids or from too many,
and it does not have too many conditions; and one that binds too many values, or that has too many
conditions, exceeds them for certain.

## Main definitions

* `EventPlan.asks` — the query that a plan carries out in a scope.
* `Predicate.startsWithin` — a hierarchy that starts from as many ids as it may.
* `maxConditions` — how many conditions are never too many.

## Main results

* `EventQuery.length_values_statement` — how many values a statement binds.
* `EventQuery.checkStatement_of_within` — a statement within the limits passes.
* `StandingQuery.execute_of_check` — **what becomes of parameters that pass the check.**
-/

namespace Provenance

/-! ### Reading conditions -/

theorem checkDepth_eq_ok_iff {n : Nat} : checkDepth n = .ok () ↔ n ≤ maxDepth := by
  unfold checkDepth
  split <;> simp [*]

/-- **When conditions are read**: the hierarchy in the first one is within the limits, its values
can be bound, it does not make conditions too deep, and the others are read after it. -/
theorem readExtents_cons_eq_ok_iff {e : Extent} {es : List Extent} {bound : Nat}
    {depth : Option Nat} {empty : Bool} {r : Nat × Nat} :
    readExtents bound depth empty (e :: es) = .ok r ↔
      checkStart bound e.start = .ok () ∧ bound + e.values ≤ maxBound ∧
        joinedDepth depth empty e ≤ maxDepth ∧
          readExtents (bound + e.values) (some (joinedDepth depth empty e))
            (empty || e.isEmptyChoice) es = .ok r := by
  constructor
  · intro h
    obtain ⟨_, hstart, h⟩ := bind_eq_ok_iff.1 h
    obtain ⟨_, hvalues, h⟩ := bind_eq_ok_iff.1 h
    obtain ⟨_, hdepth, h⟩ := bind_eq_ok_iff.1 h
    exact ⟨hstart, checkBound_eq_ok_iff.1 hvalues, checkDepth_eq_ok_iff.1 hdepth, h⟩
  · rintro ⟨hstart, hvalues, hdepth, h⟩
    refine bind_eq_ok_iff.2 ⟨(), hstart, ?_⟩
    refine bind_eq_ok_iff.2 ⟨(), checkBound_eq_ok_iff.2 hvalues, ?_⟩
    exact bind_eq_ok_iff.2 ⟨(), checkDepth_eq_ok_iff.2 hdepth, h⟩

/-- The values of all conditions that are read are counted. -/
theorem bound_of_readExtents {es : List Extent} {bound n d : Nat} {depth : Option Nat}
    {empty : Bool} (h : readExtents bound depth empty es = .ok (n, d)) :
    n = bound + (es.map Extent.values).sum := by
  induction es generalizing bound depth empty with
  | nil =>
    obtain ⟨rfl, -⟩ := Prod.mk.inj (Except.ok.inj h)
    rfl
  | cons e es ih =>
    obtain ⟨-, -, -, h⟩ := readExtents_cons_eq_ok_iff.1 h
    rw [ih h, List.map_cons, List.sum_cons, Nat.add_assoc]

/-- Each condition that is read makes conditions deeper, if none chooses from an empty list. -/
theorem depth_of_readExtents {es : List Extent} (hes : ∀ e ∈ es, e.isEmptyChoice = false)
    {bound n d d' : Nat} (h : readExtents bound (some d) false es = .ok (n, d'))
    (hd : d ≤ maxDepth) : d + es.length ≤ d' ∧ d' ≤ maxDepth := by
  induction es generalizing bound d with
  | nil =>
    obtain ⟨-, rfl⟩ := Prod.mk.inj (Except.ok.inj h)
    exact ⟨Nat.le_refl _, hd⟩
  | cons e es ih =>
    have he : e.isEmptyChoice = false := hes e List.mem_cons_self
    obtain ⟨-, -, hjoined, h⟩ := readExtents_cons_eq_ok_iff.1 h
    rw [he] at h
    have hdeeper : joinedDepth (some d) false e = max d e.depth + 1 := by simp [joinedDepth, he]
    have hrest := ih (fun e' he' => hes e' (List.mem_cons_of_mem _ he')) h hjoined
    rw [List.length_cons]
    omega

/-- A statement that is carried out has not too many conditions, if none chooses from an empty
list. -/
theorem length_le_of_checkExtents {es : List Extent} (hes : ∀ e ∈ es, e.isEmptyChoice = false)
    (h : checkExtents es = .ok ()) : es.length ≤ maxDepth + 1 := by
  obtain ⟨⟨n, d⟩, hread, -⟩ := bind_eq_ok_iff.1 h
  cases es with
  | nil => exact Nat.zero_le _
  | cons e es =>
    have he : e.isEmptyChoice = false := hes e List.mem_cons_self
    obtain ⟨-, -, hjoined, hread⟩ := readExtents_cons_eq_ok_iff.1 hread
    rw [he] at hread
    have hrest := depth_of_readExtents (fun e' he' => hes e' (List.mem_cons_of_mem _ he')) hread
      hjoined
    rw [List.length_cons]
    omega

/-- A statement that is carried out does not bind too many values. -/
theorem values_le_of_checkExtents {es : List Extent} (h : checkExtents es = .ok ()) :
    (es.map Extent.values).sum + 1 ≤ maxBound := by
  obtain ⟨⟨n, d⟩, hread, h⟩ := bind_eq_ok_iff.1 h
  obtain ⟨_, hbound, -⟩ := bind_eq_ok_iff.1 h
  have hn := bound_of_readExtents hread
  rw [Nat.zero_add] at hn
  rw [← hn]
  exact checkBound_eq_ok_iff.1 hbound

/-- A hierarchy in a condition that is read does not start from too many ids. -/
theorem start_le_of_readExtents {es : List Extent} {bound : Nat} {depth : Option Nat} {empty : Bool}
    {r : Nat × Nat} (h : readExtents bound depth empty es = .ok r) {e : Extent} (he : e ∈ es)
    {n : Nat} (hn : e.start = some n) : n ≤ maxStart := by
  induction es generalizing bound depth empty with
  | nil => exact absurd he List.not_mem_nil
  | cons d es ih =>
    obtain ⟨hstart, -, -, h⟩ := readExtents_cons_eq_ok_iff.1 h
    rcases List.mem_cons.1 he with rfl | he
    · by_contra hmax
      by_cases hzero : n = 0
      · exact hmax (hzero ▸ Nat.zero_le _)
      · simp only [hn, checkStart, hzero, hmax, if_false] at hstart
        obtain ⟨_, -, hfails⟩ := bind_eq_ok_iff.1 hstart
        exact absurd hfails (by simp)
    · exact ih h he

/-- A hierarchy in a statement that is carried out does not start from too many ids. -/
theorem start_le_of_checkExtents {es : List Extent} (h : checkExtents es = .ok ()) {e : Extent}
    (he : e ∈ es) {n : Nat} (hn : e.start = some n) : n ≤ maxStart := by
  obtain ⟨_, hread, -⟩ := bind_eq_ok_iff.1 h
  exact start_le_of_readExtents hread he hn

namespace Extent

/-- The greatest depth of a single condition. -/
def maxOwnDepth : Nat := 12

/-- The greatest depth of the conditions on rows that a single condition looks for. -/
def maxInside : Nat := 18

/-- That a condition stands no deeper than conditions do, and a hierarchy in it starts from as many
ids as it may, all of which it binds. -/
structure Regular (e : Extent) : Prop where
  depth_le : e.depth ≤ maxOwnDepth
  inside_le : e.inside ≤ maxInside
  start : ∀ n, e.start = some n → 0 < n ∧ n ≤ maxStart ∧ n ≤ e.values

theorem Regular.checkStart_eq_ok {e : Extent} (h : e.Regular) {bound : Nat}
    (hbound : bound + e.values ≤ maxBound) : checkStart bound e.start = .ok () := by
  cases hstart : e.start with
  | none => rfl
  | some n =>
    obtain ⟨hpos, hmax, hvalues⟩ := h.start n hstart
    have hn : n ≠ 0 := Nat.ne_of_gt hpos
    have hcheck : checkBound (bound + n) = .ok () := checkBound_eq_ok_iff.2 (by omega)
    simp only [checkStart, hn, if_false, hcheck, hmax, if_true]
    rfl

theorem regular_ofRow (values : Nat) : (ofRow values).Regular :=
  ⟨(by decide : comparison ≤ maxOwnDepth), Nat.zero_le _,
    fun n hn => absurd hn (by simp [ofRow])⟩

theorem regular_ofChoice (values : Nat) : (ofChoice values).Regular :=
  ⟨(by decide : comparison ≤ maxOwnDepth), Nat.zero_le _,
    fun n hn => absurd hn (by simp [ofChoice])⟩

theorem regular_ofPart (values : Nat) {further : Nat} (h : further < 6) (chooses : Bool) :
    (ofPart values further chooses).Regular := by
  have hall : ∀ further < 6, ∀ chooses, (ofPart 0 further chooses).depth ≤ maxOwnDepth ∧
      (ofPart 0 further chooses).inside ≤ maxInside := by decide
  obtain ⟨hdepth, hinside⟩ := hall further h chooses
  exact ⟨hdepth, hinside, fun n hn => absurd hn (by simp [ofPart])⟩

theorem regular_ofAttribute (values : Nat) {further : Nat} (h : further < 3)
    (vocabulary chooses : Bool) : (ofAttribute values further vocabulary chooses).Regular := by
  have hall : ∀ further < 3, ∀ vocabulary chooses,
      (ofAttribute 0 further vocabulary chooses).depth ≤ maxOwnDepth ∧
        (ofAttribute 0 further vocabulary chooses).inside ≤ maxInside := by decide
  obtain ⟨hdepth, hinside⟩ := hall further h vocabulary chooses
  exact ⟨hdepth, hinside, fun n hn => absurd hn (by simp [ofAttribute])⟩

theorem regular_ofDescent {start values : Nat} (hpos : 0 < start) (hmax : start ≤ maxStart)
    (hvalues : start ≤ values) (vocabulary : Bool) :
    (ofDescent start values vocabulary).Regular := by
  have hall : ∀ vocabulary, (ofDescent 0 0 vocabulary).depth ≤ maxOwnDepth ∧
      (ofDescent 0 0 vocabulary).inside ≤ maxInside := by decide
  obtain ⟨hdepth, hinside⟩ := hall vocabulary
  refine ⟨hdepth, hinside, fun n hn => ?_⟩
  obtain rfl := Option.some.inj hn
  exact ⟨hpos, hmax, hvalues⟩

/-- One more condition makes conditions deeper by one, if they are deeper than it is. -/
theorem Regular.joinedDepth_le {e : Extent} (h : e.Regular) {d m : Nat} (empty : Bool)
    (hd : d ≤ m) (hm : maxOwnDepth ≤ m) : joinedDepth (some d) empty e ≤ m + 1 := by
  have hown := h.depth_le
  simp only [joinedDepth]
  split <;> omega

end Extent

open Extent

/-- Conditions are read where they do not bind too many values and are not too many. -/
theorem readExtents_eq_ok {es : List Extent} (hes : ∀ e ∈ es, e.Regular) {bound m : Nat}
    {depth : Option Nat} {empty : Bool} (hm : maxOwnDepth ≤ m) (hdepth : depth.getD 0 < m)
    (hjoined : ∀ e : Extent, e.Regular → joinedDepth depth empty e ≤ m)
    (hlength : m + es.length ≤ maxDepth + 1)
    (hbound : bound + (es.map Extent.values).sum ≤ maxBound) :
    ∃ n d, readExtents bound depth empty es = .ok (n, d) ∧ d < m + es.length := by
  induction es generalizing bound m depth empty with
  | nil => exact ⟨bound, depth.getD 0, rfl, hdepth⟩
  | cons e es ih =>
    rw [List.map_cons, List.sum_cons] at hbound
    rw [List.length_cons] at hlength ⊢
    have he : e.Regular := hes e List.mem_cons_self
    have hnow := hjoined e he
    have hnext (e' : Extent) (he' : e'.Regular) :
        joinedDepth (some (joinedDepth depth empty e)) (empty || e.isEmptyChoice) e' ≤ m + 1 :=
      he'.joinedDepth_le _ hnow hm
    have hrest : bound + e.values + (es.map Extent.values).sum ≤ maxBound := by omega
    obtain ⟨n, d, hread, hd⟩ := ih (fun e' he' => hes e' (List.mem_cons_of_mem _ he'))
      (by omega) (Nat.lt_succ_of_le hnow) hnext (by omega) hrest
    have hvalues : bound + e.values ≤ maxBound := by omega
    refine ⟨n, d, ?_, by omega⟩
    exact readExtents_cons_eq_ok_iff.2 ⟨he.checkStart_eq_ok hvalues, hvalues, by omega, hread⟩

/-- So many conditions are never too many. -/
def maxConditions : Nat := 971

/-- A statement is carried out where it does not bind too many values and has not too many
conditions. -/
theorem checkExtents_eq_ok {es : List Extent} (hes : ∀ e ∈ es, e.Regular)
    (hlength : es.length ≤ maxConditions)
    (hbound : (es.map Extent.values).sum + 1 ≤ maxBound) : checkExtents es = .ok () := by
  have hcount : maxOwnDepth + es.length + maxInside ≤ maxDepth + 1 := by
    simp only [maxConditions, maxOwnDepth, maxInside, maxDepth] at hlength ⊢
    omega
  have hfirst (e : Extent) (he : e.Regular) : joinedDepth none false e ≤ maxOwnDepth := by
    have hown := he.depth_le
    simp only [joinedDepth]
    split
    · decide
    · exact hown
  have hvalues : 0 + (es.map Extent.values).sum ≤ maxBound := by omega
  obtain ⟨n, d, hread, hd⟩ := readExtents_eq_ok hes (Nat.le_refl _) (by decide) hfirst (by omega)
    hvalues
  have hn := bound_of_readExtents hread
  have hinside : (es.map Extent.inside).foldl max 0 ≤ maxInside := by
    refine List.foldlRecOn _ max (motive := (· ≤ maxInside)) (Nat.zero_le _) fun b hb a ha => ?_
    obtain ⟨e, he, rfl⟩ := List.mem_map.1 ha
    exact Nat.max_le.2 ⟨hb, (hes e he).inside_le⟩
  refine bind_eq_ok_iff.2 ⟨(n, d), hread, bind_eq_ok_iff.2 ⟨(), ?_, ?_⟩⟩
  · exact checkBound_eq_ok_iff.2 (by omega)
  · split
    · rfl
    · exact checkDepth_eq_ok_iff.2 (by omega)

/-! ### The statement of a query -/

namespace Predicate

/-- That a hierarchy starts from as many ids as it may. -/
def startsWithin : Predicate → Prop
  | fieldWithin _ ids => ids ≠ [] ∧ ids.length ≤ maxStart
  | _ => True

/-- A condition is counted with the values that it binds. -/
theorem values_extent (p : Predicate) : p.extent.values = p.condition.values.length := by
  cases p <;> simp [extent, ofChoice, ofRow, ofPart, ofAttribute, ofDescent, condition]

theorem regular_extent {p : Predicate} (h : p.startsWithin) : p.extent.Regular := by
  cases p with
  | fieldIn f vs => exact regular_ofChoice _
  | fieldCompare f c v => exact regular_ofRow _
  | requestIn ids => exact regular_ofChoice _
  | fieldWithin f ids =>
    refine regular_ofDescent (List.length_pos_iff.2 h.1) h.2 ?_ _
    simp [condition, descendants, Statement.join, List.flatMap_map, List.map_const']
  | attributeIn f a vs => exact regular_ofAttribute _ (by decide) _ _
  | attributePresent f as => exact regular_ofAttribute _ (by decide) _ _
  | pendingFor s n =>
    exact ⟨(by decide : comparisons 2 + 1 ≤ maxOwnDepth), (by decide : comparisons 2 ≤ maxInside),
      fun n hn => absurd hn (by simp [extent])⟩
  | _ => exact regular_ofPart _ (by decide) _

end Predicate

namespace EventQuery

/-- A statement binds the values of its conditions and the limit. -/
theorem length_values_statement (q : EventQuery) :
    q.statement.values.length =
      ((q.predicates.map Predicate.extent).map Extent.values).sum + 1 := by
  have hall : (conjunction q.predicates).values.length =
      ((q.predicates.map Predicate.extent).map Extent.values).sum := by
    cases hps : q.predicates with
    | nil => rfl
    | cons p ps =>
      rw [conjunction, Statement.join, List.length_flatMap, List.map_map, List.map_map]
      · refine congrArg List.sum (List.map_congr_left fun p _ => ?_)
        exact p.values_extent.symm
      · simp
  simp [statement, hall]

/-- A statement that binds too many values exceeds the limits. -/
theorem exists_checkStatement_of_wide {q : EventQuery}
    (h : maxBound < q.statement.values.length) : ∃ e, q.checkStatement = .error e := by
  cases hcheck : q.checkStatement with
  | error e => exact ⟨e, rfl⟩
  | ok u =>
    have := values_le_of_checkExtents hcheck
    rw [length_values_statement] at h
    omega

/-- A statement that has too many conditions exceeds the limits. -/
theorem exists_checkStatement_of_many {q : EventQuery}
    (hchoice : ∀ p ∈ q.predicates, p.extent.isEmptyChoice = false)
    (h : maxDepth + 1 < q.predicates.length) : ∃ e, q.checkStatement = .error e := by
  cases hcheck : q.checkStatement with
  | error e => exact ⟨e, rfl⟩
  | ok u =>
    have hlength := length_le_of_checkExtents (fun e he => by
      obtain ⟨p, hp, rfl⟩ := List.mem_map.1 he
      exact hchoice p hp) hcheck
    rw [List.length_map] at hlength
    omega

/-- **A statement within the limits passes.** -/
theorem checkStatement_of_within {q : EventQuery} (hvalues : q.statement.values.length ≤ maxBound)
    (hstart : ∀ p ∈ q.predicates, p.startsWithin)
    (hlength : q.predicates.length ≤ maxConditions) : q.checkStatement = .ok () := by
  rw [length_values_statement] at hvalues
  refine checkExtents_eq_ok (fun e he => ?_) (by rwa [List.length_map]) hvalues
  obtain ⟨p, hp, rfl⟩ := List.mem_map.1 he
  exact Predicate.regular_extent (hstart p hp)

end EventQuery

/-! ### Executing -/

namespace EventPlan

/-- The query that a plan carries out in a scope; in an empty one there is none. -/
def asks (p : EventPlan) : Option Scope → Option EventQuery
  | none => some p.query
  | some c => if c.isEmpty then none else some (p.query.confine c)

theorem execute_of_asks_none {p : EventPlan} {scope : Option Scope} (h : p.asks scope = none)
    (s : Store) : p.execute s scope = .ok [] := by
  cases scope with
  | none => exact absurd h (by simp [asks])
  | some c =>
    have hempty : c.isEmpty = true := by simpa [asks] using h
    simp [execute, hempty]

theorem execute_of_asks {p : EventPlan} {scope : Option Scope} {q : EventQuery}
    (h : p.asks scope = some q) (s : Store) : p.execute s scope = execute.run p s q := by
  cases scope with
  | none =>
    obtain rfl := Option.some.inj h
    rfl
  | some c =>
    simp only [asks] at h
    split at h
    · exact absurd h (by simp)
    · next hempty =>
      obtain rfl := Option.some.inj h
      simp [execute, hempty]

/-- What becomes of a query of a plan: only a limit on statements makes it fail, unless there are
too many events. -/
theorem run_cases {s : Store} (hs : s.Reachable) (p : EventPlan) (q : EventQuery) :
    (∃ e, q.checkStatement = .error e ∧ execute.run p s q = .error (.storage e)) ∨
      q.checkStatement = .ok () ∧
        ((∃ es, execute.run p s q = .ok es) ∨
          ∃ n, p.maxCount = some n ∧ n < (q.rows s).length ∧
            execute.run p s q = .error (.tooLarge .events n)) := by
  cases hcheck : q.checkStatement with
  | error e =>
    refine .inl ⟨e, rfl, ?_⟩
    simp only [execute.run, EventQuery.fetch, hcheck]
    rfl
  | ok u =>
    refine .inr ⟨rfl, ?_⟩
    obtain ⟨cs, -, hj⟩ := hs.exists_journal
    obtain ⟨xs, -, hrows, hfetch⟩ := hj.fetch_eq_ok hcheck
    have hlen : (xs.map Recorded.answer).length = (q.rows s).length := by
      rw [hrows, List.length_map, List.length_map]
    have hrun : execute.run p s q =
        (checkCount .events p.maxCount (q.rows s).length).bind
          fun _ => .ok (xs.map Recorded.answer) := by
      rw [← hlen]
      simp only [execute.run, hfetch]
      rfl
    cases hmax : p.maxCount with
    | none => exact .inl ⟨_, by rw [hrun, hmax]; rfl⟩
    | some n =>
      by_cases hn : n < (q.rows s).length
      · exact .inr ⟨n, rfl, hn, by rw [hrun, hmax, checkCount, if_pos hn]; rfl⟩
      · exact .inl ⟨_, by rw [hrun, hmax, checkCount, if_neg hn]; rfl⟩

end EventPlan

namespace StandingQuery

theorem execute_of_plan {ps : List Parameter} {plan : EventPlan}
    (h : EventPlan.ofParameters ps = .ok plan) (s : Store) (scope : Option Scope) :
    simpleEvent.execute s ps scope = (plan.execute s scope).map .events := by
  simp only [execute, h]
  rfl

/-- **What becomes of parameters that pass the check.**  They have a plan, and executing it in a
scope is to carry out its query, unless the scope is empty.

* The store fails exactly if the statement of the query exceeds one of its limits.  Otherwise the
  answer is a list of events, or that there are more of them than are wanted.
* The statement exceeds the limits if it binds too many values, and if it has too many conditions of
  which none chooses from an empty list.  It does not if it binds no more than a statement may, no
  hierarchy in it starts from no ids or from too many, and it has not too many conditions. -/
theorem execute_of_check {s : Store} (hs : s.Reachable) {ps : List Parameter}
    (hcheck : simpleEvent.check ps = .ok ()) (scope : Option Scope) :
    ∃ plan, EventPlan.ofParameters ps = .ok plan ∧
      (plan.asks scope = none → simpleEvent.execute s ps scope = .ok (.events [])) ∧
      ∀ q, plan.asks scope = some q →
        (∀ e, simpleEvent.execute s ps scope = .error (.storage e) ↔
          q.checkStatement = .error e) ∧
        (q.checkStatement = .ok () →
          (∃ es, simpleEvent.execute s ps scope = .ok (.events es)) ∨
            ∃ n, plan.maxCount = some n ∧ n < (q.rows s).length ∧
              simpleEvent.execute s ps scope = .error (.tooLarge .events n)) ∧
        (maxBound < q.statement.values.length → ∃ e, q.checkStatement = .error e) ∧
        ((∀ p ∈ q.predicates, p.extent.isEmptyChoice = false) →
          maxDepth + 1 < q.predicates.length → ∃ e, q.checkStatement = .error e) ∧
        (q.statement.values.length ≤ maxBound → (∀ p ∈ q.predicates, p.startsWithin) →
          q.predicates.length ≤ maxConditions → q.checkStatement = .ok ()) := by
  obtain ⟨plan, hplan, -⟩ := map_eq_ok_iff.1 hcheck
  have hexecute := execute_of_plan hplan s scope
  refine ⟨plan, hplan, fun hnone => ?_, fun q hq => ?_⟩
  · rw [hexecute, EventPlan.execute_of_asks_none hnone]
    rfl
  · rw [EventPlan.execute_of_asks hq] at hexecute
    refine ⟨fun e => ?_, fun hok => ?_, EventQuery.exists_checkStatement_of_wide,
      EventQuery.exists_checkStatement_of_many, EventQuery.checkStatement_of_within⟩
    · rcases plan.run_cases hs q with ⟨e', hlimit, hrun⟩ | ⟨hok, ⟨es, hrun⟩ | ⟨n, -, -, hrun⟩⟩
      · simp [hexecute, hrun, hlimit, Except.map]
      · simp [hexecute, hrun, hok, Except.map]
      · simp [hexecute, hrun, hok, Except.map]
    · rcases plan.run_cases hs q with ⟨e', hlimit, -⟩ | ⟨-, ⟨es, hrun⟩ | ⟨n, hmax, hn, hrun⟩⟩
      · rw [hok] at hlimit
        exact absurd hlimit (by simp)
      · exact .inl ⟨es, by rw [hexecute, hrun]; rfl⟩
      · exact .inr ⟨n, hmax, hn, by rw [hexecute, hrun]; rfl⟩

/-- As many values for a field as a statement may bind. -/
def wideParameters : List Parameter := [⟨"EQ_bizStep", List.replicate maxBound "a"⟩]

/-- The query of these parameters. -/
def wideQuery : EventQuery :=
  ⟨[.fieldIn .businessStep ((List.replicate maxBound "a").map .text)], none, none⟩

/-- Parameters that pass the check fail in the store: the limit on the number of rows is one value
more. -/
theorem execute_wideParameters :
    simpleEvent.check wideParameters = .ok () ∧
      simpleEvent.execute .empty wideParameters none = .error (.storage .tooManyVariables) := by
  have hplan : EventPlan.ofParameters wideParameters = .ok ⟨wideQuery, none⟩ := rfl
  have hcheck : simpleEvent.check wideParameters = .ok () :=
    map_eq_ok_iff (f := fun _ => ()).2 ⟨_, hplan, rfl⟩
  have hlimit : wideQuery.checkStatement = .error .tooManyVariables := by
    have hextent : wideQuery.predicates.map Predicate.extent = [.ofChoice maxBound] := by
      simp [wideQuery, Predicate.extent]
    rw [EventQuery.checkStatement, hextent]
    rfl
  obtain ⟨plan, hplan', -, hall⟩ := execute_of_check .empty hcheck none
  obtain rfl := Except.ok.inj (hplan.symm.trans hplan')
  exact ⟨hcheck, ((hall _ rfl).1 _).2 hlimit⟩

end StandingQuery

end Provenance
