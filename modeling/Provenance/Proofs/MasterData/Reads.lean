import Mathlib.Data.List.Sort
import Provenance.Proofs.MasterData.Answer

/-!
# The statements that attach

A query for master data selects rows with one statement, and reads attributes and children of the
selected elements with more of them, batch after batch.  A batch is cut so that its keys alone do
not bind too many values, however many elements are selected.  So the statements that read children
are always carried out, and so are those that read attributes if no names are bound with the keys.

Where names are bound, nothing has been set aside for them.  The statement of a full batch has no
room for a single one, and that of a smaller batch has room for two less with each element in it.

## Main definitions

* `MasterDataQuery.batchReads`, `MasterDataQuery.reads` — how many values the statements bind that
  attach to some elements.

## Main results

* `MasterDataQuery.reads_le_iff` — when none of them binds too many.
* `Session.fetch_masterData` — **what a query for master data fetches.**
-/

namespace Provenance

open RecordedElement

namespace MasterDataQuery

/-- How many values the statements bind that attach to a batch of elements: two for each key, and
for attributes the names. -/
def batchReads (q : MasterDataQuery) (n : Nat) : List Nat :=
  (if q.includeAttributes then [2 * n + (q.attributeNames.getD []).length] else []) ++
    if q.includeChildren then [2 * n] else []

/-- How many values the statements bind that attach to elements, batch after batch. -/
def reads {α : Type} (q : MasterDataQuery) (xs : List α) : List Nat :=
  (chunks keysPerStatement xs).flatMap fun batch => q.batchReads batch.length

variable {q : MasterDataQuery} {α : Type} {xs : List α}

theorem mem_batchReads {n r : Nat} :
    r ∈ q.batchReads n ↔
      q.includeAttributes = true ∧ r = 2 * n + (q.attributeNames.getD []).length ∨
        q.includeChildren = true ∧ r = 2 * n := by
  cases hattributes : q.includeAttributes <;> cases hchildren : q.includeChildren <;>
    simp [batchReads, hattributes, hchildren]

/-- **The statements do not bind too many values** if there is room for the names in the first
batch, which is as large as any. -/
theorem reads_le_iff : (∀ r ∈ q.reads xs, r ≤ maxBound) ↔ q.AttachesWithin xs.length := by
  constructor
  · intro hall hinclude hpos
    obtain ⟨x, rest, rfl⟩ := List.exists_cons_of_length_pos hpos
    have hfirst : x :: rest.take (keysPerStatement - 1) ∈ chunks keysPerStatement (x :: rest) := by
      rw [chunks]
      exact List.mem_cons_self
    have hlength : (x :: rest.take (keysPerStatement - 1)).length =
        min (x :: rest).length keysPerStatement := by
      simp only [List.length_cons, List.length_take, keysPerStatement, maxBound]
      omega
    rw [← hlength]
    exact hall _ (List.mem_flatMap.2 ⟨_, hfirst, mem_batchReads.2 (.inl ⟨hinclude, rfl⟩)⟩)
  · intro hattach r hr
    obtain ⟨batch, hbatch, hr⟩ := List.mem_flatMap.1 hr
    have hmany : batch.length ≤ keysPerStatement := length_le_of_mem_chunks (by decide) hbatch
    have hall : batch.length ≤ xs.length := by
      rw [← flatten_chunks keysPerStatement xs]
      exact (List.sublist_flatten_of_mem hbatch).length_le
    rcases mem_batchReads.1 hr with ⟨hinclude, rfl⟩ | ⟨-, rfl⟩
    · rcases Nat.eq_zero_or_pos xs.length with hnone | hpos
      · rw [List.length_eq_zero_iff.1 hnone, chunks_nil] at hbatch
        exact absurd hbatch List.not_mem_nil
      · have := hattach hinclude hpos
        omega
    · simp only [keysPerStatement, maxBound] at hmany ⊢
      omega

/-- There is room for the names if there are none, or if they fit with all keys into one
statement. -/
theorem attachesWithin_of_room {n : Nat}
    (h : q.includeAttributes = false ∨ q.attributeNames.getD [] = [] ∨
      2 * n + (q.attributeNames.getD []).length ≤ maxBound) : q.AttachesWithin n := by
  intro hinclude _
  rcases h with hnot | hnone | hroom
  · exact absurd (hinclude.symm.trans hnot) (by decide)
  · have hmost : min n keysPerStatement ≤ maxBound / 2 := Nat.min_le_right _ _
    rw [hnone, List.length_nil]
    simp only [maxBound] at hmost ⊢
    omega
  · have hmost : min n keysPerStatement ≤ n := Nat.min_le_left _ _
    omega

end MasterDataQuery

namespace Session

/-- **What a query for master data fetches.**  In every session and for every query, the matching
elements are the latest recordings that have what the query restricts to, in the order of
vocabularies and ids.

* If the statement that selects is carried out, each of them up to the limit is fetched with the
  attributes and children that the query attaches, provided that none of the statements that attach
  binds too many values; otherwise the store fails.  It fails too if the statement that selects
  exceeds a limit.
* The statements that attach do not bind too many values, however many elements there are, if no
  attributes or no names are asked for.  With names it depends on how many elements are in a batch.
* The statement that selects stays within the limits if it does not bind too many values, the
  hierarchy in it does not start from too many ids, and there are not too many value filters. -/
theorem fetch_masterData (moves : List Move) (q : MasterDataQuery) :
    ∃ ms : List RecordedElement, ms.Pairwise IsNamedBefore ∧
      (∀ x, x ∈ ms ↔ x.IsLatest (run moves).captured ∧ x.IsSelected (run moves).captured q) ∧
      q.fetch (run moves).store =
        ((checkExtents q.extents).bind fun _ =>
          if ∀ r ∈ q.reads (ms.take (rowCount q.limit)), r ≤ maxBound then
            .ok ((ms.take (rowCount q.limit)).map q.attached)
          else .error .tooManyVariables) ∧
      (∀ n, (∀ r ∈ q.reads (ms.take n), r ≤ maxBound) ↔ q.AttachesWithin (ms.take n).length) ∧
      (∀ n, q.includeAttributes = false ∨ q.attributeNames.getD [] = [] ∨
        2 * (ms.take n).length + (q.attributeNames.getD []).length ≤ maxBound →
          ∀ r ∈ q.reads (ms.take n), r ≤ maxBound) ∧
      (q.statement.values.length ≤ maxBound → q.within.length ≤ maxStart →
        q.attributeValues.length + 5 ≤ maxConditions → checkExtents q.extents = .ok ()) := by
  have hjournal := (ledger_run moves).journal
  obtain ⟨ms, hsorted, hmem, hrows⟩ := hjournal.exists_rows_take q
  refine ⟨ms, hsorted, hmem, ?_, fun n => MasterDataQuery.reads_le_iff, fun n hroom => ?_,
    MasterDataQuery.checkExtents_of_within⟩
  · cases hcheck : checkExtents q.extents with
    | error e =>
      rw [MasterDataQuery.fetch, hcheck]
      rfl
    | ok u =>
      have htaken : ms.take (rowCount q.limit) ⊆ recordedElements (run moves).captured :=
        fun x hx => ((hmem x).1 (List.mem_of_mem_take hx)).1.mem
      by_cases hreads : ∀ r ∈ q.reads (ms.take (rowCount q.limit)), r ≤ maxBound
      · rw [hjournal.fetchElements_eq_ok hcheck htaken hrows
          (MasterDataQuery.reads_le_iff.1 hreads)]
        exact (if_pos hreads).symm
      · rw [Store.Journal.fetchElements_eq_error hcheck hrows
          fun hattach => hreads (MasterDataQuery.reads_le_iff.2 hattach)]
        exact (if_neg hreads).symm
  · exact MasterDataQuery.reads_le_iff.2 (MasterDataQuery.attachesWithin_of_room hroom)

/-- Two places with a name. -/
def pair : List MasterData :=
  [⟨businessLocationVocabulary, "urn:dock", [⟨"name", "a"⟩], ["urn:crane"]⟩,
    ⟨businessLocationVocabulary, "urn:yard", [⟨"name", "b"⟩], []⟩]

/-- A request with both places, as it was captured. -/
def pairCaptured : Captured := ⟨1, ⟨.epoch, "1.2", none, none, [], pair⟩, none, .epoch⟩

/-- A session that captures the request. -/
def pairMoves : List Move := [.capture pairCaptured.request none .epoch]

theorem run_pairMoves :
    run pairMoves = ⟨Store.empty.record pairCaptured, [], [pairCaptured], []⟩ :=
  run_capture (by decide +kernel)

/-- A query that names an attribute many times. -/
def namesQuery (n : Nat) : MasterDataQuery :=
  { MasterDataQuery.all with
    includeAttributes := true
    includeChildren := true
    attributeNames := some (List.replicate n "name") }

/-- The elements that the query selects are both places. -/
theorem isLatest_pairMoves (n : Nat) (x : RecordedElement) :
    x.IsLatest [pairCaptured] ∧ x.IsSelected [pairCaptured] (namesQuery n) ↔
      x ∈ recordedElements [pairCaptured] := by
  constructor
  · rintro ⟨hlatest, -⟩
    exact hlatest.mem
  · intro hx
    refine ⟨⟨hx, fun y hy hname => ?_⟩, fun h => absurd rfl h, fun h => absurd rfl h,
      fun h => absurd rfl h, fun h => absurd rfl h, fun f hf => absurd hf List.not_mem_nil⟩
    -- no two of them have the same name
    have hnames : ((recordedElements [pairCaptured]).map name).Nodup := by decide
    rw [List.inj_on_of_nodup_map hnames hy hx hname]
    exact not_isBefore_self x

/-- Both places are fetched with their name, unless it is asked for so often that there is no room
for both keys beside; there would be room for one of them. -/
theorem fetch_pairMoves :
    (namesQuery 32762).fetch (run pairMoves).store = .ok pair ∧
      2 * 1 + 32763 ≤ maxBound ∧ (namesQuery 32763).statement.values.length ≤ maxBound ∧
      (namesQuery 32763).fetch (run pairMoves).store = .error .tooManyVariables := by
  have hfetch (n : Nat) : (namesQuery n).fetch (run pairMoves).store =
      if 2 * 2 + n ≤ maxBound then
        .ok ((recordedElements [pairCaptured]).map (namesQuery n).attached)
      else .error .tooManyVariables := by
    obtain ⟨ms, hsorted, hmem, hfetch, hwithin, -⟩ := fetch_masterData pairMoves (namesQuery n)
    have hpair : (recordedElements [pairCaptured]).Pairwise IsNamedBefore := by
      refine .cons (fun y hy => ?_) (List.pairwise_singleton _ _)
      rw [List.mem_singleton.1 hy]
      exact .inr ⟨rfl, by decide⟩
    have hms : ms = recordedElements [pairCaptured] := by
      rw [run_pairMoves] at hmem
      exact hsorted.eq_of_mem_iff hpair fun x => (hmem x).trans (isLatest_pairMoves n x)
    have htake : ms.take (rowCount (namesQuery n).limit) = recordedElements [pairCaptured] := by
      rw [hms]
      rfl
    have hroom : (∀ r ∈ (namesQuery n).reads (ms.take (rowCount (namesQuery n).limit)),
        r ≤ maxBound) ↔ 2 * 2 + n ≤ maxBound := by
      rw [hwithin, htake, MasterDataQuery.AttachesWithin]
      simp [namesQuery, recordedElements, pairCaptured, pair, keysPerStatement, maxBound]
    have hcheck : checkExtents (namesQuery n).extents = .ok () := rfl
    rw [hfetch, hcheck, htake]
    rw [htake] at hroom
    exact if_congr hroom rfl rfl
  refine ⟨(hfetch _).trans ?_, by decide, ?_, (hfetch _).trans (if_neg (by decide))⟩
  · rw [if_pos (by decide)]
    rfl
  · rw [MasterDataQuery.length_values_statement]
    decide

end Session

end Provenance
