import Provenance.Proofs.Event.Fetch
import Provenance.Query.Standing

/-!
# What a parameter list asks for

Four parameters of the event query shape an answer: two put it in order, one cuts it short, and one
refuses it if it is too long.  All others are filters, and the predicates of a plan are those of the
filters among the parameters, so an event satisfies all predicates exactly if every filter accepts
it.

## Main definitions

* `Parameter.isShaping`, `Parameter.accepts` — parameters that shape, and filters.
* `Parameter.wants` — whether all filters accept an event.
* `Parameter.room` — how many events an answer has room for.

## Main results

* `Parameter.clause_isShaping` — a parameter either shapes or filters.
* `EventPlan.all_predicates` — the predicates of a plan are the filters.
* `EventPlan.map_key_run` — what an answer holds.
-/

namespace Provenance

/-- Whether a predicate asks what is pending. -/
def Predicate.asksPending : Predicate → Bool
  | .pendingFor .. => true
  | _ => false

namespace Parameter

/-- Whether a parameter shapes the answer instead of choosing events. -/
def isShaping (p : Parameter) : Bool :=
  ["orderBy", "orderDirection", "eventCountLimit", "maxEventCount"].contains p.name

/-- Whether a parameter is a filter that an event satisfies. -/
def accepts (s : Store) (e : EventRow) (p : Parameter) : Bool :=
  match p.clause with
  | .ok (.filter f) => f.holds s e
  | _ => false

/-- The number that a parameter cuts an answer short to. -/
def countLimit? (p : Parameter) : Option Nat :=
  match p.clause with
  | .ok c => c.countLimit?
  | .error _ => none

/-! ### Shaping and filtering -/

/-- A shaping parameter has no predicate. -/
theorem predicate?_of_isShaping {p : Parameter} {c : Clause} (hp : p.isShaping = true)
    (h : p.clause = .ok c) : c.predicate? = none := by
  obtain ⟨name, values⟩ := p
  simp only [isShaping, List.contains_iff_mem, List.mem_cons, List.not_mem_nil, or_false] at hp
  rcases hp with rfl | rfl | rfl | rfl
  all_goals
    simp only [clause, exactClause, scalarField, timeField, quantityComparator, wordClause] at h
    obtain ⟨_, -, rfl⟩ := map_eq_ok_iff.1 h
    rfl

/-- That a reading can give nothing but a filter, and one that does not ask what is pending. -/
def Filters (r : Except ParameterFault Clause) : Prop :=
  ∀ c, r = .ok c → ∃ f, c = .filter f ∧ f.asksPending = false

theorem Filters.ok {f : Predicate} (hf : f.asksPending = false) : Filters (.ok (.filter f)) := by
  intro c h
  exact ⟨f, (Except.ok.inj h).symm, hf⟩

theorem Filters.error (e : ParameterFault) : Filters (.error e) := by
  intro c h
  exact absurd h (by simp)

theorem Filters.map {α : Type} (x : Except ParameterFault α) {f : α → Predicate}
    (hf : ∀ a, (f a).asksPending = false) : Filters (x.map fun a => .filter (f a)) := by
  intro c h
  obtain ⟨a, -, rfl⟩ := map_eq_ok_iff.1 h
  exact ⟨f a, rfl, hf a⟩

theorem Filters.bind {α : Type} (x : Except ParameterFault α) {f : α → Predicate}
    (hf : ∀ a, (f a).asksPending = false) : Filters (x >>= fun a => .ok (.filter (f a))) := by
  intro c h
  obtain ⟨a, -, hc⟩ := bind_eq_ok_iff.1 h
  exact ⟨f a, (Except.ok.inj hc).symm, hf a⟩

theorem filters_wordClause {p : Parameter} {r : Except ParameterFault Clause}
    (hp : p.isShaping = false) (h : p.wordClause = some r) : Filters r := by
  simp only [isShaping, ← Bool.not_eq_true, List.contains_iff_mem, List.mem_cons, List.not_mem_nil,
    or_false, not_or] at hp
  obtain ⟨horder, hdirection, hlimit, hmax⟩ := hp
  -- one case for each word: those that shape the answer are ruled out
  unfold wordClause at h
  split at h
  case h_1 | h_2 =>
    obtain rfl := Option.some.inj h
    exact .bind _ fun _ => rfl
  case h_3 | h_4 | h_5 | h_6 | h_7 =>
    obtain rfl := Option.some.inj h
    exact .ok rfl
  case h_8 hname => exact absurd hname horder
  case h_9 hname => exact absurd hname hdirection
  case h_10 hname => exact absurd hname hlimit
  case h_11 hname => exact absurd hname hmax
  case h_12 => exact absurd h (by simp)

theorem filters_exactClause {p : Parameter} {r : Except ParameterFault Clause}
    (hp : p.isShaping = false) (h : p.exactClause = some r) : Filters r := by
  unfold exactClause at h
  split at h
  · obtain rfl := Option.some.inj h
    exact .ok rfl
  · split at h
    · obtain rfl := Option.some.inj h
      exact .map _ fun _ => rfl
    · split at h
      · obtain rfl := Option.some.inj h
        exact .map _ fun _ => rfl
      · exact filters_wordClause hp h

theorem filters_customClause (p : Parameter) : Filters p.customClause := by
  unfold customClause
  split
  · exact .error _
  · split
    · exact .ok rfl
    · exact .map _ fun _ => rfl
    · exact .error _

theorem filters_familyClause (p : Parameter) : Filters p.familyClause := by
  simp only [familyClause]
  -- each family reads its name and then means a filter, or fails
  repeat' split
  all_goals first | exact .ok rfl | exact .error _ | exact filters_customClause p

/-- **A parameter either shapes the answer or filters events.** -/
theorem clause_isShaping {p : Parameter} {c : Clause} (h : p.clause = .ok c) :
    p.isShaping = true ∧ c.predicate? = none ∨
      p.isShaping = false ∧ ∃ f, c = .filter f ∧ f.asksPending = false := by
  cases hp : p.isShaping with
  | true => exact .inl ⟨rfl, predicate?_of_isShaping hp h⟩
  | false =>
    refine .inr ⟨rfl, ?_⟩
    unfold clause at h
    split at h
    · next r hr => exact filters_exactClause hp hr c h
    · exact filters_familyClause p c h

/-! ### Parameter lists -/

/-- Whether an event satisfies all filters in a parameter list. -/
def wants (ps : List Parameter) (s : Store) (e : EventRow) : Bool :=
  ps.all fun p => p.isShaping || p.accepts s e

/-- How many events an answer has room for. -/
def room (ps : List Parameter) : Nat := rowCount (ps.filterMap countLimit?).getLast?

/-- The predicates among clauses are the filters among the parameters. -/
theorem all_predicate? {ps : List Parameter} {cs : List Clause} (h : ps.mapM clause = .ok cs)
    (s : Store) (e : EventRow) :
    ((cs.filterMap Clause.predicate?).all fun f => f.holds s e) = wants ps s e := by
  induction ps generalizing cs with
  | nil =>
    obtain rfl := Except.ok.inj h
    rfl
  | cons p ps ih =>
    obtain ⟨c, rest, hc, hrest, rfl⟩ := mapM_cons_eq_ok_iff.1 h
    have ih := ih hrest
    simp only [wants] at ih
    rcases clause_isShaping hc with ⟨hshaping, hnone⟩ | ⟨hfilters, f, rfl, -⟩
    · rw [List.filterMap_cons_none hnone, ih, wants, List.all_cons, hshaping, Bool.true_or,
        Bool.true_and]
    · have hsome : (Clause.filter f).predicate? = some f := rfl
      rw [List.filterMap_cons_some hsome, List.all_cons, ih, wants, List.all_cons, hfilters,
        Bool.false_or, accepts, hc]

/-- What clauses say on a matter is what the parameters say on it. -/
theorem filterMap_of_said {α : Type} {pick : Clause → Option α} {said : Parameter → Option α}
    (hsaid : ∀ p c, clause p = .ok c → pick c = said p) {ps : List Parameter} {cs : List Clause}
    (h : ps.mapM clause = .ok cs) : cs.filterMap pick = ps.filterMap said := by
  induction ps generalizing cs with
  | nil =>
    obtain rfl := Except.ok.inj h
    rfl
  | cons p ps ih =>
    obtain ⟨c, rest, hc, hrest, rfl⟩ := mapM_cons_eq_ok_iff.1 h
    rw [List.filterMap_cons, List.filterMap_cons, ih hrest, hsaid p c hc]

theorem filterMap_countLimit? {ps : List Parameter} {cs : List Clause}
    (h : ps.mapM clause = .ok cs) :
    cs.filterMap Clause.countLimit? = ps.filterMap countLimit? := by
  refine filterMap_of_said (fun p c hc => ?_) h
  rw [countLimit?, hc]

end Parameter

/-! ### Plans -/

namespace EventPlan

variable {ps : List Parameter} {plan : EventPlan}

theorem eq_of_probeLimit {name : String} {n m : Nat} (h : probeLimit name n = .ok m) :
    m = n + 1 := by
  unfold probeLimit at h
  split at h
  · exact (Except.ok.inj h).symm
  · exact absurd h (by simp)

theorem limitOf_eq_ok {countLimit maxCount limit : Option Nat}
    (h : limitOf countLimit maxCount = .ok limit) :
    maxCount = none ∧ limit = countLimit ∨
      ∃ n, maxCount = some n ∧ countLimit = none ∧ limit = some (n + 1) := by
  cases maxCount with
  | none =>
    simp only [limitOf] at h
    exact .inl ⟨rfl, (Except.ok.inj h).symm⟩
  | some n =>
    cases countLimit with
    | some m => simp [limitOf] at h
    | none =>
      simp only [limitOf] at h
      obtain ⟨m, hm, rfl⟩ := map_eq_ok_iff.1 h
      exact .inr ⟨n, rfl, rfl, congrArg some (eq_of_probeLimit hm)⟩

/-- **The predicates of a plan are the filters among the parameters.** -/
theorem all_predicates (h : ofParameters ps = .ok plan) (s : Store) (e : EventRow) :
    (plan.query.predicates.all fun f => f.holds s e) = Parameter.wants ps s e := by
  obtain ⟨cs, hcs, h⟩ := bind_eq_ok_iff.1 h
  obtain ⟨limit, -, h⟩ := bind_eq_ok_iff.1 h
  obtain rfl := Except.ok.inj h
  exact Parameter.all_predicate? hcs s e

/-- **No predicate of a plan asks what is pending.** -/
theorem asksPending_predicates (h : ofParameters ps = .ok plan) :
    ∀ f ∈ plan.query.predicates, f.asksPending = false := by
  obtain ⟨cs, hcs, h⟩ := bind_eq_ok_iff.1 h
  obtain ⟨limit, -, h⟩ := bind_eq_ok_iff.1 h
  obtain rfl := Except.ok.inj h
  intro f hf
  obtain ⟨c, hc, hpredicate⟩ := List.mem_filterMap.1 hf
  obtain ⟨p, -, hp⟩ := exists_of_mem_mapM hcs hc
  rcases Parameter.clause_isShaping hp with ⟨-, hnone⟩ | ⟨-, g, rfl, hg⟩
  · rw [hnone] at hpredicate
    exact absurd hpredicate (by simp)
  · obtain rfl : g = f := Option.some.inj hpredicate
    exact hg

/-- The limit of a plan is the room for the answer, unless it is there to show that the answer is
too long. -/
theorem limit_eq (h : ofParameters ps = .ok plan) :
    plan.maxCount = none ∧ rowCount plan.query.limit = Parameter.room ps ∨
      ∃ n, plan.maxCount = some n ∧ Parameter.room ps = maxRows ∧
        plan.query.limit = some (n + 1) := by
  obtain ⟨cs, hcs, h⟩ := bind_eq_ok_iff.1 h
  obtain ⟨limit, hlimit, h⟩ := bind_eq_ok_iff.1 h
  obtain rfl := Except.ok.inj h
  have hroom :
      Clause.last Clause.countLimit? cs = (ps.filterMap Parameter.countLimit?).getLast? := by
    rw [Clause.last, Parameter.filterMap_countLimit? hcs]
  rcases limitOf_eq_ok hlimit with ⟨hmax, hlim⟩ | ⟨n, hmax, hcount, hlim⟩
  · refine .inl ⟨hmax, ?_⟩
    simp only [hlim, hroom, Parameter.room]
  · refine .inr ⟨n, hmax, ?_, hlim⟩
    rw [Parameter.room, ← hroom, hcount]
    rfl

/-- **An answer that is not refused holds the matching events in order, as many as there is room
for.**  One that is refused where it is too long lacks none. -/
theorem map_key_run (hplan : ofParameters ps = .ok plan) {q : EventQuery} {s : Store}
    {es : List Event} (hlimit : q.limit = plan.query.limit) (h : execute.run plan s q = .ok es) :
    es.map Event.key =
      (((q.matching s).mergeSort fun a b => q.compareRows a b != .gt).take
        (Parameter.room ps)).map EventRow.key := by
  obtain ⟨read, hread, h⟩ := bind_eq_ok_iff.1 h
  obtain ⟨_, hcount, h⟩ := bind_eq_ok_iff.1 h
  obtain rfl := Except.ok.inj h
  have hkeys := EventQuery.map_key_fetch (mapError_eq_ok_iff.1 hread)
  rw [hkeys, EventQuery.rows, hlimit]
  rcases limit_eq hplan with ⟨-, hroom⟩ | ⟨n, hmax, hroom, hlim⟩
  · rw [hroom]
  · -- the answer was not too long, so the limit cut nothing off
    have hlen : read.length ≤ n := by
      rw [hmax] at hcount
      simp only [checkCount] at hcount
      split at hcount
      · exact absurd hcount (by simp)
      · omega
    have hlen' : (read.map Event.key).length ≤ n := by rwa [List.length_map]
    rw [hkeys, EventQuery.rows, hlimit, hlim, List.length_map, List.length_take] at hlen'
    rw [hlim, hroom]
    by_cases hsmall : n + 1 ≤ maxRows
    · -- there was room for one more than there may be
      have hrows : rowCount (some (n + 1)) = n + 1 := if_pos hsmall
      rw [hrows] at hlen' ⊢
      rw [List.take_of_length_le (by omega), List.take_of_length_le (by omega)]
    · have hrows : rowCount (some (n + 1)) = maxRows := if_neg hsmall
      rw [hrows]

end EventPlan

end Provenance
