import Mathlib.Data.List.Induction
import Provenance.Proofs.Query.Filters

/-!
# Reading a parameter list

A parameter list has a plan if each of its parameters has a meaning and the two that limit an answer
do not stand in the way of each other.  What the plan asks for can be told from the list: it has the
predicates of the filters, and the last parameter on each other matter decides.

## Main definitions

* `Parameter.given`, `Parameter.lastNamed`, `Parameter.lastRead` — what a list says under a name.
* `Parameter.order` — the order that a list asks for.
* `EventQuery.IsTemporal` — a query orders by a time, or only by keys.

## Main results

* `Parameter.cases_of_clause` — what a parameter can mean.
* `EventPlan.ofParameters_eq_ok_iff` — **when a list has a plan, and which one.**
* `EventPlan.ofParameters_insert` — what a counting parameter adds to a plan.
* `EventPlan.isTemporal` — plans order by a time, or only by keys.
-/

namespace Provenance

/-! ### What a list says under a name -/

namespace Parameter

/-- The values that a list gives under a name, all together. -/
def given (name : String) (ps : List Parameter) : List String :=
  (ps.filter fun p => p.name == name).flatMap Parameter.values

/-- The last parameter of a name. -/
def lastNamed (name : String) (ps : List Parameter) : Option Parameter :=
  (ps.filter fun p => p.name == name).getLast?

/-- What is read of the last parameter of a name. -/
def lastRead {α : Type} (read : Parameter → Except ParameterFault α) (name : String)
    (ps : List Parameter) : Option α :=
  (lastNamed name ps).bind fun p => (read p).toOption

section Named

variable {name : String} {ps front back : List Parameter} {p : Parameter} {α : Type}
  {read : Parameter → Except ParameterFault α}

@[simp] theorem given_concat :
    given name (ps ++ [p]) = given name ps ++ if p.name = name then p.values else [] := by
  by_cases h : p.name = name <;> simp [given, h]

@[simp] theorem lastNamed_concat :
    lastNamed name (ps ++ [p]) = if p.name = name then some p else lastNamed name ps := by
  by_cases h : p.name = name <;> simp [lastNamed, h]

@[simp] theorem lastRead_concat :
    lastRead read name (ps ++ [p]) =
      if p.name = name then (read p).toOption else lastRead read name ps := by
  by_cases h : p.name = name <;> simp [lastRead, h]

/-- Nothing is read under a name that a list does not have. -/
theorem lastRead_of_unnamed (h : ∀ q ∈ ps, q.name ≠ name) : lastRead read name ps = none := by
  have hnone : ps.filter (fun q => q.name == name) = [] :=
    List.filter_eq_nil_iff.2 fun q hq hname => h q hq (beq_iff_eq.1 hname)
  rw [lastRead, lastNamed, hnone]
  rfl

/-- A parameter of another name changes nothing, wherever it stands. -/
theorem lastRead_insert_of_ne (h : p.name ≠ name) :
    lastRead read name (front ++ p :: back) = lastRead read name (front ++ back) := by
  simp [lastRead, lastNamed, h]

/-- The only parameter of a name is the last one. -/
theorem lastRead_insert_of_eq (h : p.name = name) (hothers : ∀ q ∈ front ++ back, q.name ≠ name) :
    lastRead read name (front ++ p :: back) = (read p).toOption := by
  have hnone : (front ++ back).filter (fun q => q.name == name) = [] :=
    List.filter_eq_nil_iff.2 fun q hq hname => hothers q hq (beq_iff_eq.1 hname)
  rw [List.filter_append, List.append_eq_nil_iff] at hnone
  simp [lastRead, lastNamed, h, hnone]

end Named

/-! ### What a parameter means -/

/-- The field that a parameter orders by. -/
def orderField (p : Parameter) : Except ParameterFault EventField :=
  p.readSingle .orderField fun v =>
    if v = "eventTime" then some .time else if v = "recordTime" then some .recordTime else none

/-- The direction that a parameter orders in. -/
def orderDirection (p : Parameter) : Except ParameterFault SortDirection :=
  p.readSingle .orderDirection fun v =>
    if v = "ASC" then some .ascending else if v = "DESC" then some .descending else none

/-- **The order that a list asks for**: its last word on the field, if there is one, and its last
word on the direction, which is from the last to the first if there is none. -/
def order (ps : List Parameter) : Option (EventField × SortDirection) :=
  (lastRead orderField "orderBy" ps).map fun f =>
    (f, (lastRead orderDirection "orderDirection" ps).getD .descending)

/-- The predicate of a parameter that is a filter. -/
def predicate? (p : Parameter) : Option Predicate :=
  p.clause.toOption.bind Clause.predicate?

theorem time_of_orderField {p : Parameter} {f : EventField} (h : p.orderField = .ok f) :
    f = .time ∨ f = .recordTime := by
  obtain ⟨v, -, hread⟩ := readSingle_eq_ok_iff.1 h
  split at hread
  · exact .inl (Option.some.inj hread).symm
  · split at hread
    · exact .inr (Option.some.inj hread).symm
    · exact absurd hread (by simp)

/-- **What a parameter can mean**: one of four things by its name, and a filter otherwise. -/
theorem cases_of_clause {p : Parameter} {c : Clause} (h : p.clause = .ok c) :
    (p.name = "orderBy" ∧ ∃ f, p.orderField = .ok f ∧ c = .orderBy f) ∨
      (p.name = "orderDirection" ∧ ∃ d, p.orderDirection = .ok d ∧ c = .orderDirection d) ∨
      (p.name = "eventCountLimit" ∧ ∃ n, p.count = .ok n ∧ c = .countLimit n) ∨
      (p.name = "maxEventCount" ∧ ∃ n, p.count = .ok n ∧ c = .maxCount n) ∨
      (p.name ≠ "orderBy" ∧ p.name ≠ "orderDirection" ∧ p.name ≠ "eventCountLimit" ∧
        p.name ≠ "maxEventCount" ∧ ∃ f, c = .filter f) := by
  rcases clause_isShaping h with ⟨hp, -⟩ | ⟨hp, f, rfl, -⟩
  · obtain ⟨name, values⟩ := p
    simp only [isShaping, List.contains_iff_mem, List.mem_cons, List.not_mem_nil, or_false] at hp
    rcases hp with rfl | rfl | rfl | rfl
    all_goals
      simp only [clause, exactClause, scalarField, timeField, quantityComparator, wordClause] at h
      obtain ⟨a, ha, rfl⟩ := map_eq_ok_iff.1 h
    · exact .inl ⟨rfl, a, ha, rfl⟩
    · exact .inr (.inl ⟨rfl, a, ha, rfl⟩)
    · exact .inr (.inr (.inl ⟨rfl, a, ha, rfl⟩))
    · exact .inr (.inr (.inr (.inl ⟨rfl, a, ha, rfl⟩)))
  · simp only [isShaping, ← Bool.not_eq_true, List.contains_iff_mem, List.mem_cons,
      List.not_mem_nil, or_false, not_or] at hp
    obtain ⟨horder, hdirection, hlimit, hmax⟩ := hp
    exact .inr (.inr (.inr (.inr ⟨horder, hdirection, hlimit, hmax, f, rfl⟩)))

/-- A parameter that cuts an answer short. -/
theorem clause_of_countLimit {p : Parameter} {n : Nat} (hname : p.name = "eventCountLimit")
    (h : p.count = .ok n) : p.clause = .ok (.countLimit n) := by
  obtain ⟨name, values⟩ := p
  obtain rfl : name = "eventCountLimit" := hname
  simp only [clause, exactClause, scalarField, timeField, quantityComparator, wordClause, h]
  rfl

/-- A parameter that refuses an answer. -/
theorem clause_of_maxCount {p : Parameter} {n : Nat} (hname : p.name = "maxEventCount")
    (h : p.count = .ok n) : p.clause = .ok (.maxCount n) := by
  obtain ⟨name, values⟩ := p
  obtain rfl : name = "maxEventCount" := hname
  simp only [clause, exactClause, scalarField, timeField, quantityComparator, wordClause, h]
  rfl

end Parameter

open Parameter

/-! ### Plans -/

/-- A query orders by a time, or only by keys. -/
def EventQuery.IsTemporal (q : EventQuery) : Prop :=
  ∀ f d, q.order = some (f, d) → f = .time ∨ f = .recordTime

/-- What the last clause on a matter says is what is read of the last parameter of a name, if it is
the parameters of this name that say something on it. -/
theorem Clause.last_eq_lastRead {α : Type} {pick : Clause → Option α}
    {read : Parameter → Except ParameterFault α} {name : String}
    (hpick : ∀ p c, Parameter.clause p = .ok c →
      p.name = name ∧ (∃ a, read p = .ok a ∧ pick c = some a) ∨ p.name ≠ name ∧ pick c = none)
    {ps : List Parameter} {cs : List Clause} (h : ps.mapM clause = .ok cs) :
    last pick cs = lastRead read name ps := by
  have hsaid : cs.filterMap pick =
      ps.filterMap fun p => if p.name = name then (read p).toOption else none := by
    refine filterMap_of_said (fun p c hc => ?_) h
    rcases hpick p c hc with ⟨hname, a, ha, hsome⟩ | ⟨hname, hnone⟩
    · rw [if_pos hname, ha, hsome]
      rfl
    · rw [if_neg hname, hnone]
  have hall : ∀ p ∈ ps, p.name = name → ∃ a, read p = .ok a := by
    intro p hp hname
    obtain ⟨c, hc⟩ := exists_mapM_iff.1 ⟨cs, h⟩ p hp
    rcases hpick p c hc with ⟨-, a, ha, -⟩ | ⟨hne, -⟩
    · exact ⟨a, ha⟩
    · exact absurd hname hne
  rw [last, hsaid]
  -- from the end: the last parameter of the name is read, so nothing before it counts
  clear h hsaid
  induction ps using List.reverseRecOn with
  | nil => rfl
  | append_singleton ps p ih =>
    rw [lastRead_concat, List.filterMap_append, List.getLast?_append,
      ih fun q hq => hall q (List.mem_append_left _ hq)]
    by_cases hname : p.name = name
    · obtain ⟨a, ha⟩ := hall p (List.mem_append_right _ List.mem_cons_self) hname
      simp [hname, ha, Except.toOption]
    · simp [hname]

namespace EventPlan

variable {ps : List Parameter} {plan : EventPlan}

/-- The clauses of a list say what can be told from the list. -/
theorem ofClauses_eq {cs : List Clause} (h : ps.mapM Parameter.clause = .ok cs) :
    ofClauses cs =
      (limitOf (lastRead count "eventCountLimit" ps) (lastRead count "maxEventCount" ps)).map
        fun limit => ⟨⟨ps.filterMap Parameter.predicate?, order ps, limit⟩,
          lastRead count "maxEventCount" ps⟩ := by
  have hpredicates : cs.filterMap Clause.predicate? = ps.filterMap Parameter.predicate? :=
    filterMap_of_said (fun p c hc => by simp [Parameter.predicate?, hc, Except.toOption]) h
  -- on each matter the parameters of one name decide
  have horder : Clause.last Clause.orderBy? cs = lastRead orderField "orderBy" ps := by
    refine Clause.last_eq_lastRead (fun p c hc => ?_) h
    rcases cases_of_clause hc with ⟨hp, a, ha, rfl⟩ | ⟨hp, a, ha, rfl⟩ | ⟨hp, a, ha, rfl⟩ |
      ⟨hp, a, ha, rfl⟩ | ⟨hp, -, -, -, a, rfl⟩ <;> simp_all [Clause.orderBy?]
  have hdirection : Clause.last Clause.orderDirection? cs =
      lastRead orderDirection "orderDirection" ps := by
    refine Clause.last_eq_lastRead (fun p c hc => ?_) h
    rcases cases_of_clause hc with ⟨hp, a, ha, rfl⟩ | ⟨hp, a, ha, rfl⟩ | ⟨hp, a, ha, rfl⟩ |
      ⟨hp, a, ha, rfl⟩ | ⟨-, hp, -, -, a, rfl⟩ <;> simp_all [Clause.orderDirection?]
  have hlimit : Clause.last Clause.countLimit? cs = lastRead count "eventCountLimit" ps := by
    refine Clause.last_eq_lastRead (fun p c hc => ?_) h
    rcases cases_of_clause hc with ⟨hp, a, ha, rfl⟩ | ⟨hp, a, ha, rfl⟩ | ⟨hp, a, ha, rfl⟩ |
      ⟨hp, a, ha, rfl⟩ | ⟨-, -, hp, -, a, rfl⟩ <;> simp_all [Clause.countLimit?]
  have hmax : Clause.last Clause.maxCount? cs = lastRead count "maxEventCount" ps := by
    refine Clause.last_eq_lastRead (fun p c hc => ?_) h
    rcases cases_of_clause hc with ⟨hp, a, ha, rfl⟩ | ⟨hp, a, ha, rfl⟩ | ⟨hp, a, ha, rfl⟩ |
      ⟨hp, a, ha, rfl⟩ | ⟨-, -, -, hp, a, rfl⟩ <;> simp_all [Clause.maxCount?]
  rw [ofClauses, hpredicates, horder, hdirection, hlimit, hmax]
  rfl

/-- **When a list has a plan, and which one.** -/
theorem ofParameters_eq_ok_iff :
    ofParameters ps = .ok plan ↔
      (∀ p ∈ ps, ∃ c, p.clause = .ok c) ∧
        ∃ limit, limitOf (lastRead count "eventCountLimit" ps)
            (lastRead count "maxEventCount" ps) = .ok limit ∧
          plan = ⟨⟨ps.filterMap Parameter.predicate?, order ps, limit⟩,
            lastRead count "maxEventCount" ps⟩ := by
  rw [← exists_mapM_iff, ofParameters, bind_eq_ok_iff]
  constructor
  · rintro ⟨cs, hcs, h⟩
    rw [ofClauses_eq hcs] at h
    obtain ⟨limit, hlimit, rfl⟩ := map_eq_ok_iff.1 h
    exact ⟨⟨cs, hcs⟩, limit, hlimit, rfl⟩
  · rintro ⟨⟨cs, hcs⟩, limit, hlimit, rfl⟩
    exact ⟨cs, hcs, by rw [ofClauses_eq hcs, hlimit]; rfl⟩

/-- **What a counting parameter adds to a plan**: nothing but what it says on the count. -/
theorem ofParameters_insert {front back : List Parameter} {p : Parameter}
    (h : ofParameters (front ++ back) = .ok plan) {c : Clause}
    (hc : p.clause = .ok c) (hpredicate : c.predicate? = none) (horder : p.name ≠ "orderBy")
    (hdirection : p.name ≠ "orderDirection") {limit : Option Nat}
    (hlimit : limitOf (lastRead count "eventCountLimit" (front ++ p :: back))
      (lastRead count "maxEventCount" (front ++ p :: back)) = .ok limit) :
    ofParameters (front ++ p :: back) =
      .ok ⟨{ plan.query with limit := limit },
        lastRead count "maxEventCount" (front ++ p :: back)⟩ := by
  obtain ⟨hclauses, _, -, rfl⟩ := ofParameters_eq_ok_iff.1 h
  refine ofParameters_eq_ok_iff.2 ⟨fun q hq => ?_, limit, hlimit, ?_⟩
  · rcases List.mem_append.1 hq with hq | hq
    · exact hclauses q (List.mem_append_left _ hq)
    · rcases List.mem_cons.1 hq with rfl | hq
      · exact ⟨c, hc⟩
      · exact hclauses q (List.mem_append_right _ hq)
  · have hnone : p.predicate? = none := by
      simp [Parameter.predicate?, hc, hpredicate, Except.toOption]
    have hpredicates : (front ++ p :: back).filterMap Parameter.predicate? =
        (front ++ back).filterMap Parameter.predicate? := by
      simp [List.filterMap_append, hnone]
    have hsame : order (front ++ p :: back) = order (front ++ back) := by
      rw [order, order, lastRead_insert_of_ne horder, lastRead_insert_of_ne hdirection]
    rw [hpredicates, hsame]

/-- **Plans order by a time, or only by keys.** -/
theorem isTemporal (h : ofParameters ps = .ok plan) : plan.query.IsTemporal := by
  obtain ⟨-, limit, -, rfl⟩ := ofParameters_eq_ok_iff.1 h
  intro f d horder
  obtain ⟨g, hg, heq⟩ := Option.map_eq_some_iff.1 horder
  obtain ⟨rfl, -⟩ := Prod.mk.inj heq
  obtain ⟨p, -, hread⟩ := Option.bind_eq_some_iff.1 hg
  cases hfield : p.orderField with
  | error e => exact absurd hread (by simp [hfield, Except.toOption])
  | ok g' =>
    obtain rfl : g' = g := by simpa [hfield, Except.toOption] using hread
    exact time_of_orderField hfield

/-- A plan without the parameters that limit an answer sets no limit. -/
theorem limit_eq_none (h : ofParameters ps = .ok plan)
    (hps : ∀ p ∈ ps, p.name ≠ "eventCountLimit" ∧ p.name ≠ "maxEventCount") :
    plan.query.limit = none ∧ plan.maxCount = none := by
  obtain ⟨-, limit, hlimit, rfl⟩ := ofParameters_eq_ok_iff.1 h
  rw [lastRead_of_unnamed fun p hp => (hps p hp).1,
    lastRead_of_unnamed fun p hp => (hps p hp).2] at hlimit
  exact ⟨(Except.ok.inj hlimit).symm, lastRead_of_unnamed fun p hp => (hps p hp).2⟩

end EventPlan

end Provenance
