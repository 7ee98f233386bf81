import Provenance.Proofs.MasterData.Answer
import Provenance.Proofs.Query.Placement
import Provenance.Proofs.Text.Numeral

/-!
# Answers of a limited size

A parameter list can cut an answer short, or refuse one that is too long.  Neither changes what else
the list asks for: the store is asked for the same rows in the same order and gives the first of
them, with the same parts.  To find out whether an answer is too long it is asked for one row more.

## Main definitions

* `Parameter.counting` — a parameter that gives a number.
* `Results.take`, `Results.refuseBeyond` — the first results, and all results unless they are too
  many.

## Main results

* `Store.Journal.fetch_limited` — what a limit leaves of a query for events.
* `StandingQuery.execute_counted` — **what counting parameters make of an answer.**
-/

namespace Provenance

open Text (maxWord64 trimmed_toString readNat_toDigits)

/-! ### Counting parameters -/

namespace Parameter

/-- A parameter that gives a number. -/
def counting (name : String) (n : Nat) : Parameter := ⟨name, [toString n]⟩

/-- The number is read. -/
theorem count_counting (name : String) {n : Nat} (hpos : 0 < n) (hmax : n ≤ maxWord64) :
    (counting name n).count = .ok n := by
  refine readSingle_eq_ok_iff.2 ⟨toString n, rfl, ?_⟩
  rw [trimmed_toString, Nat.toString_eq_ofList_toDigits, String.toList_ofList,
    readNat_toDigits hmax, Option.filter_some, if_pos (decide_eq_true hpos)]

/-- A number that is given once is the one that counts, wherever it stands. -/
theorem lastRead_counting {name : String} {n : Nat} {front back : List Parameter}
    (hothers : ∀ q ∈ front ++ back, q.name ≠ name) (hpos : 0 < n) (hmax : n ≤ maxWord64) :
    lastRead count name (front ++ counting name n :: back) = some n := by
  have hname : (counting name n).name = name := rfl
  rw [lastRead_insert_of_eq hname hothers, count_counting name hpos hmax]
  rfl

end Parameter

open Parameter

/-- The first of some results. -/
def Results.take (n : Nat) : Results → Results
  | events es => events (es.take n)
  | masterData ms => masterData (ms.take n)

/-- Results, unless there are more than a number. -/
def Results.refuseBeyond (kind : ResultKind) (n : Nat) (r : Results) : Except Failure Results :=
  if n < r.count then .error (.tooLarge kind n) else .ok r

/-- To ask for one more than a number shows whether there are more. -/
theorem refuseBeyond_eq {α : Type} (kind : ResultKind) (n : Nat) (as : List α)
    {results : List α → Results} (hcount : (results as).count = as.length) :
    ((checkCount kind (some n) (as.take (n + 1)).length).bind
        fun _ => .ok (as.take (n + 1))).map results =
      (results as).refuseBeyond kind n := by
  rw [Results.refuseBeyond, hcount, checkCount, List.length_take]
  by_cases h : n < as.length
  · rw [if_pos h, if_pos (by omega)]
    rfl
  · rw [if_neg h, if_neg (by omega), List.take_of_length_le (by omega)]
    rfl

/-- What a limit lets through is the first of what is let through without one. -/
theorem take_rowCount {α : Type} (n : Nat) (as : List α) :
    as.take (rowCount (some n)) = (as.take (rowCount none)).take n := by
  have hcount : rowCount (some n) = min n maxRows := by
    unfold rowCount
    simp only
    split <;> omega
  rw [hcount, List.take_take]
  rfl

/-! ### Events -/

/-- A limit lets the first rows through. -/
theorem EventQuery.rows_limited {q : EventQuery} (h : q.limit = none) (n : Nat) (s : Store) :
    { q with limit := some n }.rows s = (q.rows s).take n := by
  rw [rows, rows, h]
  exact take_rowCount n _

/-- **What a limit leaves of a query for events**: the first of them, with the same parts. -/
theorem Store.Journal.fetch_limited {s : Store} {cs : List Captured} (h : s.Journal cs)
    {q : EventQuery} (hlimit : q.limit = none) (n : Nat) :
    { q with limit := some n }.fetch s = (q.fetch s).map (List.take n) := by
  cases hcheck : q.checkStatement with
  | error e =>
    have hlimited : { q with limit := some n }.checkStatement = .error e := hcheck
    rw [EventQuery.fetch, EventQuery.fetch, hcheck, hlimited]
    rfl
  | ok u =>
    have hlimited : { q with limit := some n }.checkStatement = .ok () := hcheck
    obtain ⟨xs, hxs, hrows, hfetch⟩ := h.fetch_eq_ok hcheck
    have hfirst : { q with limit := some n }.rows s = (xs.take n).map Recorded.row := by
      rw [EventQuery.rows_limited hlimit, hrows, List.map_take]
    rw [h.fetch_of_rows hlimited (fun x hx => hxs (List.mem_of_mem_take hx)) hfirst, hfetch,
      List.map_take]
    rfl

namespace EventPlan

variable {front back : List Parameter} {plan : EventPlan} {n : Nat}

/-- The plan that cuts an answer short. -/
theorem ofParameters_countLimit (h : ofParameters (front ++ back) = .ok plan)
    (hps : ∀ q ∈ front ++ back, q.name ≠ "eventCountLimit" ∧ q.name ≠ "maxEventCount")
    (hpos : 0 < n) (hmax : n < maxWord64) :
    ofParameters (front ++ counting "eventCountLimit" n :: back) =
      .ok ⟨{ plan.query with limit := some n }, none⟩ := by
  have hcount := count_counting "eventCountLimit" hpos (Nat.le_of_lt hmax)
  have hread := lastRead_counting (fun q hq => (hps q hq).1) hpos (Nat.le_of_lt hmax)
  have hnone : lastRead count "maxEventCount"
      (front ++ counting "eventCountLimit" n :: back) = none := by
    rw [lastRead_insert_of_ne (by decide : "eventCountLimit" ≠ "maxEventCount")]
    exact lastRead_of_unnamed fun q hq => (hps q hq).2
  rw [ofParameters_insert h (clause_of_countLimit rfl hcount) rfl
    (by decide : "eventCountLimit" ≠ "orderBy") (by decide : "eventCountLimit" ≠ "orderDirection")
    (by rw [hread, hnone]; rfl), hnone]

/-- The plan that refuses an answer: it asks for one event more than there may be. -/
theorem ofParameters_maxCount (h : ofParameters (front ++ back) = .ok plan)
    (hps : ∀ q ∈ front ++ back, q.name ≠ "eventCountLimit" ∧ q.name ≠ "maxEventCount")
    (hpos : 0 < n) (hmax : n < maxWord64) :
    ofParameters (front ++ counting "maxEventCount" n :: back) =
      .ok ⟨{ plan.query with limit := some (n + 1) }, some n⟩ := by
  have hcount := count_counting "maxEventCount" hpos (Nat.le_of_lt hmax)
  have hread := lastRead_counting (fun q hq => (hps q hq).2) hpos (Nat.le_of_lt hmax)
  have hnone : lastRead count "eventCountLimit"
      (front ++ counting "maxEventCount" n :: back) = none := by
    rw [lastRead_insert_of_ne (by decide : "maxEventCount" ≠ "eventCountLimit")]
    exact lastRead_of_unnamed fun q hq => (hps q hq).1
  have hprobe : limitOf none (some n) = .ok (some (n + 1)) := by
    rw [limitOf, probeLimit, if_pos hmax]
    rfl
  rw [ofParameters_insert h (clause_of_maxCount rfl hcount) rfl
    (by decide : "maxEventCount" ≠ "orderBy") (by decide : "maxEventCount" ≠ "orderDirection")
    (by rw [hread, hnone, hprobe]), hread]

/-- A plan that refuses no answer fetches what its query asks for. -/
theorem execute_of_uncounted (h : plan.maxCount = none) (s : Store) :
    plan.execute s none = (plan.query.fetch s).mapError .storage := by
  rw [execute, execute.run, h]
  cases plan.query.fetch s <;> rfl

end EventPlan

namespace StandingQuery

variable {s : Store} {cs : List Captured} {front back : List Parameter} {n : Nat}

/-- **What is left of an answer that is cut short.** -/
theorem execute_countLimit (hj : s.Journal cs) {plan : EventPlan}
    (hplan : EventPlan.ofParameters (front ++ back) = .ok plan)
    (hps : ∀ q ∈ front ++ back, q.name ≠ "eventCountLimit" ∧ q.name ≠ "maxEventCount")
    (hpos : 0 < n) (hmax : n < maxWord64) :
    simpleEvent.execute s (front ++ counting "eventCountLimit" n :: back) none =
      (simpleEvent.execute s (front ++ back) none).map (Results.take n) := by
  obtain ⟨hlimit, hcount⟩ := EventPlan.limit_eq_none hplan hps
  have hfirst := EventPlan.ofParameters_countLimit hplan hps hpos hmax
  rw [execute_of_plan hplan, execute_of_plan hfirst, EventPlan.execute_of_uncounted hcount,
    EventPlan.execute_of_uncounted rfl, hj.fetch_limited hlimit]
  cases plan.query.fetch s <;> rfl

/-- **What becomes of an answer that may be too long.** -/
theorem execute_maxCount (hj : s.Journal cs) {plan : EventPlan}
    (hplan : EventPlan.ofParameters (front ++ back) = .ok plan)
    (hps : ∀ q ∈ front ++ back, q.name ≠ "eventCountLimit" ∧ q.name ≠ "maxEventCount")
    (hpos : 0 < n) (hmax : n < maxWord64) :
    simpleEvent.execute s (front ++ counting "maxEventCount" n :: back) none =
      (simpleEvent.execute s (front ++ back) none).bind (Results.refuseBeyond .events n) := by
  obtain ⟨hlimit, hcount⟩ := EventPlan.limit_eq_none hplan hps
  have hprobe := EventPlan.ofParameters_maxCount hplan hps hpos hmax
  rw [execute_of_plan hplan, execute_of_plan hprobe, EventPlan.execute_of_uncounted hcount,
    EventPlan.execute, EventPlan.execute.run, hj.fetch_limited hlimit]
  cases plan.query.fetch s with
  | error e => rfl
  | ok es => exact refuseBeyond_eq .events n es rfl

end StandingQuery

/-! ### Master data -/

/-- A limit lets the first rows through. -/
theorem MasterDataQuery.rows_limited {q : MasterDataQuery} (h : q.limit = none) (n : Nat)
    (s : Store) : { q with limit := some n }.rows s = (q.rows s).take n := by
  rw [rows, rows, h]
  exact take_rowCount n _

theorem MasterDataQuery.AttachesWithin.mono {q : MasterDataQuery} {m n : Nat}
    (h : q.AttachesWithin n) (hle : m ≤ n) : q.AttachesWithin m := by
  intro hinclude hpos
  have hmore := h hinclude (Nat.lt_of_lt_of_le hpos hle)
  omega

/-- **What a limit leaves of a query for master data that is answered.** -/
theorem Store.Journal.fetchElements_limited {s : Store} {cs : List Captured} (h : s.Journal cs)
    {q : MasterDataQuery} (hlimit : q.limit = none) {ms : List MasterData}
    (hfetch : q.fetch s = .ok ms) (n : Nat) :
    { q with limit := some n }.fetch s = .ok (ms.take n) := by
  obtain ⟨_, hcheck, -⟩ := bind_eq_ok_iff.1 hfetch
  obtain ⟨xs, -, hmem, hrows⟩ := h.exists_rows_take q
  have hrecorded : xs.take (rowCount q.limit) ⊆ recordedElements cs :=
    fun x hx => ((hmem x).1 (List.mem_of_mem_take hx)).1.mem
  have hattach : q.AttachesWithin (xs.take (rowCount q.limit)).length := by
    by_contra hnot
    rw [fetchElements_eq_error hcheck hrows hnot] at hfetch
    exact absurd hfetch (by simp)
  have hall := h.fetchElements_eq_ok hcheck hrecorded hrows hattach
  obtain rfl := Except.ok.inj (hall.symm.trans hfetch)
  -- a shorter list of elements leaves at least as much room for the names
  have hfirst : { q with limit := some n }.rows s =
      ((xs.take (rowCount q.limit)).take n).map RecordedElement.row := by
    rw [MasterDataQuery.rows_limited hlimit, hrows, ← List.map_take]
  have hless : { q with limit := some n }.AttachesWithin
      ((xs.take (rowCount q.limit)).take n).length :=
    hattach.mono (List.take_sublist _ _).length_le
  rw [← List.map_take]
  exact h.fetchElements_eq_ok (q := { q with limit := some n }) hcheck
    (fun x hx => hrecorded (List.mem_of_mem_take hx)) hfirst hless

/-- **What becomes of an answer of master data that may be too long.** -/
theorem StandingQuery.execute_maxElementCount {s : Store} {cs : List Captured} (hj : s.Journal cs)
    {front back : List Parameter} (hcheck : simpleMasterData.check (front ++ back) = .ok ())
    (hps : ∀ q ∈ front ++ back, q.name ≠ "maxElementCount") {r : Results}
    (hr : simpleMasterData.execute s (front ++ back) none = .ok r) {n : Nat} (hpos : 0 < n)
    (hmax : n < maxWord64) :
    simpleMasterData.execute s (front ++ counting "maxElementCount" n :: back) none =
      r.refuseBeyond .masterData n := by
  obtain ⟨plan, hplan, -⟩ := map_eq_ok_iff.1 hcheck
  obtain ⟨hlimit, hcount⟩ := MasterDataPlan.limit_eq_none hplan hps
  rw [execute_of_elementPlan hplan, MasterDataPlan.execute_of_uncounted hcount] at hr
  obtain ⟨ms, hms, rfl⟩ := map_eq_ok_iff.1 hr
  have hfetch := hj.fetchElements_limited hlimit (mapError_eq_ok_iff.1 hms) (n + 1)
  have hprobe : MasterDataPlan.ofParameters (front ++ counting "maxElementCount" n :: back) =
      .ok ⟨{ plan.query with limit := some (n + 1) }, some n⟩ :=
    MasterDataPlan.ofParameters_insert hplan hps rfl
      (count_counting _ hpos (Nat.le_of_lt hmax)) hmax
  rw [execute_of_elementPlan hprobe, MasterDataPlan.execute, hfetch]
  exact refuseBeyond_eq .masterData n ms rfl

/-! ### The answer -/

namespace StandingQuery

/-- **What counting parameters make of an answer.**  For a reachable store, with the requests that
were captured in it:

* Parameters of the event query that pass the check and do not count have a plan.  If its statement
  is carried out, the answer holds the recorded events that all filters accept, by the time that the
  parameters order by and then by their keys; their times are given back to the millisecond exactly
  if they are storable.  Otherwise the store fails.  The statement is carried out if it does not
  bind too many values, no hierarchy in it starts from no ids or from too many, and it has not too
  many conditions.
* With a parameter that cuts the answer short, wherever it stands, the answer has its first events,
  and with one that refuses it, it is the same or refused as too long.
* An answer of the master data query is the same or refused, too. -/
theorem execute_counted {s : Store} (hs : s.Reachable) :
    (∃ cs, s.Journal cs) ∧ ∀ {cs : List Captured}, s.Journal cs → ∀ front back : List Parameter,
      (simpleEvent.check (front ++ back) = .ok () →
        (∀ p ∈ front ++ back, p.name ≠ "eventCountLimit" ∧ p.name ≠ "maxEventCount") →
        ∃ plan, EventPlan.ofParameters (front ++ back) = .ok plan ∧
          (plan.query.checkStatement = .ok () →
            ∃ xs : List Recorded, xs.Pairwise (Recorded.IsPlacedBefore (order (front ++ back))) ∧
              (∀ x, x ∈ xs ↔ x ∈ recorded cs ∧ wants (front ++ back) s x.row = true) ∧
              (∀ x ∈ xs, x.event.time.SameMillis x.answer.time ↔ x.event.time.isStorable = true) ∧
              simpleEvent.execute s (front ++ back) none =
                .ok (.events ((xs.take maxRows).map Recorded.answer))) ∧
          (∀ e, plan.query.checkStatement = .error e →
            simpleEvent.execute s (front ++ back) none = .error (.storage e)) ∧
          (plan.query.statement.values.length ≤ maxBound →
            (∀ p ∈ plan.query.predicates, p.startsWithin) →
              plan.query.predicates.length ≤ maxConditions →
                plan.query.checkStatement = .ok ()) ∧
          ∀ n, 0 < n → n < maxWord64 →
            simpleEvent.execute s (front ++ counting "eventCountLimit" n :: back) none =
                (simpleEvent.execute s (front ++ back) none).map (Results.take n) ∧
              simpleEvent.execute s (front ++ counting "maxEventCount" n :: back) none =
                (simpleEvent.execute s (front ++ back) none).bind
                  (Results.refuseBeyond .events n)) ∧
      (simpleMasterData.check (front ++ back) = .ok () →
        (∀ p ∈ front ++ back, p.name ≠ "maxElementCount") →
        ∀ r, simpleMasterData.execute s (front ++ back) none = .ok r →
          ∀ n, 0 < n → n < maxWord64 →
            simpleMasterData.execute s (front ++ counting "maxElementCount" n :: back) none =
              r.refuseBeyond .masterData n) := by
  obtain ⟨cs, -, hj⟩ := hs.exists_journal
  refine ⟨⟨cs, hj⟩, fun {cs} hj front back => ⟨fun hcheck hps => ?_,
    fun hcheck hps r hr n hpos hmax => execute_maxElementCount hj hcheck hps hr hpos hmax⟩⟩
  obtain ⟨plan, hplan, -⟩ := map_eq_ok_iff.1 hcheck
  obtain ⟨hlimit, hcount⟩ := EventPlan.limit_eq_none hplan hps
  have hexecute : simpleEvent.execute s (front ++ back) none =
      ((plan.query.fetch s).mapError .storage).map .events := by
    rw [execute_of_plan hplan, EventPlan.execute_of_uncounted hcount]
  refine ⟨plan, hplan, fun hok => ?_, fun e he => ?_, EventQuery.checkStatement_of_within,
    fun n hpos hmax => ⟨execute_countLimit hj hplan hps hpos hmax,
      execute_maxCount hj hplan hps hpos hmax⟩⟩
  · obtain ⟨xs, hplaced, hmem, hrows⟩ := hj.exists_placed (EventPlan.isTemporal hplan)
    have horder : plan.query.order = order (front ++ back) := by
      obtain ⟨-, _, -, rfl⟩ := EventPlan.ofParameters_eq_ok_iff.1 hplan
      rfl
    rw [horder] at hplaced
    refine ⟨xs, hplaced, fun x => ?_, fun x _ => x.event.time.sameMillis_kept_iff, ?_⟩
    · rw [hmem, EventPlan.all_predicates hplan]
    · have hrecorded : xs.take (rowCount plan.query.limit) ⊆ recorded cs :=
        fun x hx => ((hmem x).1 (List.mem_of_mem_take hx)).1
      rw [hexecute, hj.fetch_of_rows hok hrecorded hrows, hlimit]
      rfl
  · rw [hexecute, EventQuery.fetch, he]
    rfl

end StandingQuery

namespace Session

open StandingQuery

/-- The events of a session that captures two of the same time. -/
def sameTime : List Recorded := [⟨stepCaptured, 0, bareEvent⟩, stepRecorded]

/-- Parameters that order by the time of events. -/
def byTime : List Parameter := [⟨"orderBy", ["eventTime"]⟩]

/-- Events of the same time stay in the order of their keys, although the order is from the last to
the first.  The first of them can be asked for; and one more than there may be is too many. -/
theorem execute_sameTime :
    simpleEvent.execute (run stepMoves).store byTime none =
        .ok (.events (sameTime.map Recorded.answer)) ∧
      simpleEvent.execute (run stepMoves).store (counting "eventCountLimit" 1 :: byTime) none =
        .ok (.events ((sameTime.take 1).map Recorded.answer)) ∧
      simpleEvent.execute (run stepMoves).store (counting "maxEventCount" 2 :: byTime) none =
        .ok (.events (sameTime.map Recorded.answer)) ∧
      simpleEvent.execute (run stepMoves).store (counting "maxEventCount" 1 :: byTime) none =
        .error (.tooLarge .events 1) := by
  obtain ⟨-, hall⟩ := execute_counted (run_reachable stepMoves)
  obtain ⟨hevents, -⟩ := hall (ledger_run stepMoves).journal [] byTime
  obtain ⟨plan, hplan, hanswer, -, -, hcount⟩ := hevents (by decide +kernel) (by decide)
  have horder : order byTime = some (.time, .descending) := by decide +kernel
  obtain rfl : plan = ⟨⟨[], some (.time, .descending), none⟩, none⟩ :=
    Except.ok.inj (hplan.symm.trans (by decide +kernel))
  obtain ⟨xs, hplaced, hmem, -, hexecute⟩ := hanswer rfl
  have hxs : xs = sameTime := by
    rw [List.nil_append, horder] at hplaced
    have hsame : sameTime.Pairwise (Recorded.IsPlacedBefore (some (.time, .descending))) := by
      refine .cons (fun y hy => ?_) (List.pairwise_singleton _ _)
      rw [List.mem_singleton.1 hy]
      exact .inr ⟨rfl, .inr ⟨rfl, by decide⟩⟩
    refine hplaced.eq_of_mem_iff hsame fun x => ?_
    have hwants : Parameter.wants ([] ++ byTime) (run stepMoves).store x.row = true := rfl
    rw [hmem, and_iff_left hwants, recorded_stepMoves]
    rfl
  have hanswer : simpleEvent.execute (run stepMoves).store byTime none =
      .ok (.events (sameTime.map Recorded.answer)) := by
    rw [hxs] at hexecute
    exact hexecute
  obtain ⟨hfirst, htoo⟩ := hcount 1 (by decide) (by decide)
  refine ⟨hanswer, ?_, ?_, ?_⟩
  · exact hfirst.trans (by rw [List.nil_append, hanswer]; rfl)
  · exact (hcount 2 (by decide) (by decide)).2.trans (by rw [List.nil_append, hanswer]; rfl)
  · exact htoo.trans (by rw [List.nil_append, hanswer]; rfl)

end Session

end Provenance
