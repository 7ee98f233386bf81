import Provenance.Proofs.MasterData.Recorded
import Provenance.Store.Assembly

/-!
# Attaching attributes and children

The selected elements get their attributes and children in batches, by their keys.  No two recorded
elements have the same key, so each gets what was recorded with it, in the order in which it was
given, and nothing of any other recording.

A batch takes as many keys as a statement may bind.  Where a query names attributes, the names are
bound too, and there is no room for them in the statement of a full batch.

## Main definitions

* `MasterDataQuery.pick`, `MasterDataQuery.attached` — what a query attaches to an element.
* `MasterDataQuery.AttachesWithin` — the statements that attach stay within the limit.

## Main results

* `Store.Journal.completeBatch_eq_ok` — the elements of a batch get what was recorded with them.
* `Store.Journal.fetchElements_eq_ok`, `Store.Journal.fetchElements_eq_error` — **the answer to a
  query that selects some rows**, and that it fails where there is no room for the names.
-/

namespace Provenance

open RecordedElement

namespace MasterDataQuery

/-- The attributes that a query attaches, of those of an element. -/
def pick (q : MasterDataQuery) (as : List Attribute) : List Attribute :=
  match q.attributeNames with
  | some names => as.filter fun a => names.contains a.id
  | none => as

/-- An element with what a query attaches to it. -/
def attached (q : MasterDataQuery) (x : RecordedElement) : MasterData where
  vocabulary := x.element.vocabulary
  id := x.element.id
  attributes := if q.includeAttributes then q.pick x.element.attributes else []
  children := if q.includeChildren then x.element.children else []

/-- The statements that attach attributes to so many elements do not bind too many values: the keys
of a batch, and the names. -/
def AttachesWithin (q : MasterDataQuery) (n : Nat) : Prop :=
  q.includeAttributes = true → 0 < n →
    2 * min n keysPerStatement + (q.attributeNames.getD []).length ≤ maxBound

/-- The rows of the attributes that a query attaches. -/
def pickRows (q : MasterDataQuery) (rs : List AttributeRow) : List AttributeRow :=
  match q.attributeNames with
  | some names => rs.filter fun r => names.contains r.id
  | none => rs

theorem pickRows_subset (q : MasterDataQuery) (rs : List AttributeRow) : q.pickRows rs ⊆ rs := by
  unfold pickRows
  split
  · exact List.filter_subset_self _
  · exact List.Subset.refl _

theorem pickRows_flatMap (q : MasterDataQuery) {α : Type} (xs : List α)
    (part : α → List AttributeRow) :
    q.pickRows (xs.flatMap part) = xs.flatMap fun x => q.pickRows (part x) := by
  unfold pickRows
  split
  · exact List.filter_flatMap
  · rfl

/-- What is read of the rows that a query attaches are the attributes that it attaches. -/
theorem mapM_pickRows (q : MasterDataQuery) (x : RecordedElement) :
    (q.pickRows (x.rows .attributes)).mapM
        (fun r => (.ok ⟨r.id, r.value⟩ : Except StorageError Attribute)) =
      .ok (q.pick x.element.attributes) := by
  have hall : (x.rows .attributes).map (fun r : AttributeRow => (⟨r.id, r.value⟩ : Attribute)) =
      x.element.attributes := by
    have hrows : x.rows .attributes = (numbered 0 x.element.attributes).map fun p =>
        ⟨x.captured.id, .integer x.index, .integer p.1, p.2.id, p.2.value⟩ := rfl
    rw [hrows, List.map_map]
    exact map_snd_numbered 0 x.element.attributes
  have hpick (rs : List AttributeRow) : (q.pickRows rs).map
      (fun r : AttributeRow => (⟨r.id, r.value⟩ : Attribute)) =
      q.pick (rs.map fun r : AttributeRow => (⟨r.id, r.value⟩ : Attribute)) := by
    unfold pickRows pick
    split
    · rw [List.filter_map]
      rfl
    · rfl
  rw [← hall, ← hpick]
  exact List.mapM_pure

/-- A batch is completed with attributes first, and then with children. -/
theorem completeBatch_eq (q : MasterDataQuery) (s : Store) (ms : List ElementRow) :
    q.completeBatch s ms =
      (if q.includeAttributes then q.readAttributes s (ms.map ElementRow.key) else .ok ∅) >>=
        fun attributes =>
          (if q.includeChildren then readChildren s (ms.map ElementRow.key) else .ok ∅) >>=
            fun children => .ok (ms.map fun m =>
              ⟨m.vocabulary, m.id, attributes.getD m.key [], children.getD m.key []⟩) := by
  unfold completeBatch
  cases q.includeAttributes <;> cases q.includeChildren <;> rfl

end MasterDataQuery

namespace Store.Journal

variable {s : Store} {cs : List Captured} {q : MasterDataQuery} {keys : List PairKey}

/-! ### Reading by key -/

theorem readAttributes_eq_ok (h : s.Journal cs)
    (hbound : 2 * keys.length + (q.attributeNames.getD []).length ≤ maxBound) :
    ∃ parts, q.readAttributes s keys = .ok parts ∧
      ∀ x ∈ recordedElements cs, x.key ∈ keys →
        parts.getD x.key [] = q.pick x.element.attributes := by
  have hrows : s.attributes = (recordedElements cs).flatMap fun x => x.rows .attributes :=
    h.rows_eq_flatMap_elements (t := .attributes) rfl
  have howner (x : RecordedElement) :
      ∀ r ∈ q.pickRows (x.rows .attributes), AttributeRow.owner r = x.key :=
    fun r hr => owner_attributeRows x r (q.pickRows_subset _ hr)
  have hkeys : 2 * keys.length ≤ maxBound := by omega
  obtain ⟨parts, hparts, hget⟩ := readParts_eq_ok h.recordedElements_keys_nodup howner
    (fun x => q.mapM_pickRows x) hkeys
  rw [← MasterDataQuery.pickRows_flatMap, ← hrows] at hparts
  exact ⟨parts, bind_eq_ok_iff.2 ⟨(), checkBound_eq_ok_iff.2 hbound, hparts⟩, hget⟩

theorem readChildren_eq_ok (h : s.Journal cs) (hbound : 2 * keys.length ≤ maxBound) :
    ∃ parts, MasterDataQuery.readChildren s keys = .ok parts ∧
      ∀ x ∈ recordedElements cs, x.key ∈ keys → parts.getD x.key [] = x.element.children := by
  have hrows : s.links = (recordedElements cs).flatMap fun x => x.rows .links :=
    h.rows_eq_flatMap_elements (t := .links) rfl
  rw [MasterDataQuery.readChildren, hrows]
  exact readParts_eq_ok h.recordedElements_keys_nodup owner_linkRows
    (fun x => mapM_numbered_eq_self fun _ => rfl) hbound

/-! ### Batches -/

/-- **The elements of a batch get what was recorded with them.** -/
theorem completeBatch_eq_ok (h : s.Journal cs) {xs : List RecordedElement}
    (hxs : xs ⊆ recordedElements cs) (hkeys : 2 * xs.length ≤ maxBound)
    (hnames : q.includeAttributes = true →
      2 * xs.length + (q.attributeNames.getD []).length ≤ maxBound) :
    q.completeBatch s (xs.map row) = .ok (xs.map q.attached) := by
  have hmap : (xs.map row).map ElementRow.key = xs.map key := by
    rw [List.map_map]
    rfl
  have hlength : (xs.map key).length = xs.length := List.length_map _
  have hattributes : ∃ parts,
      (if q.includeAttributes then q.readAttributes s (xs.map key) else .ok ∅) = .ok parts ∧
      ∀ x ∈ xs, parts.getD x.key [] =
        if q.includeAttributes then q.pick x.element.attributes else [] := by
    split
    · next hinclude =>
      obtain ⟨parts, hparts, hget⟩ := h.readAttributes_eq_ok (q := q) (hlength ▸ hnames hinclude)
      exact ⟨parts, hparts, fun x hx => hget x (hxs hx) (List.mem_map_of_mem hx)⟩
    · exact ⟨∅, rfl, fun x _ => by simp⟩
  have hchildren : ∃ parts,
      (if q.includeChildren then MasterDataQuery.readChildren s (xs.map key) else .ok ∅) =
        .ok parts ∧
      ∀ x ∈ xs, parts.getD x.key [] = if q.includeChildren then x.element.children else [] := by
    split
    · obtain ⟨parts, hparts, hget⟩ := h.readChildren_eq_ok (hlength ▸ hkeys)
      exact ⟨parts, hparts, fun x hx => hget x (hxs hx) (List.mem_map_of_mem hx)⟩
    · exact ⟨∅, rfl, fun x _ => by simp⟩
  obtain ⟨attributes, hattributes, hget⟩ := hattributes
  obtain ⟨children, hchildren, hget'⟩ := hchildren
  rw [MasterDataQuery.completeBatch_eq, hmap]
  refine bind_eq_ok_iff.2 ⟨attributes, hattributes, bind_eq_ok_iff.2 ⟨children, hchildren, ?_⟩⟩
  rw [List.map_map]
  refine congrArg Except.ok (List.map_congr_left fun x hx => ?_)
  simp only [Function.comp_apply, key_row, hget x hx, hget' x hx]
  rfl

/-- A batch fails if there is no room for the names in its statement. -/
theorem completeBatch_eq_error (s : Store) {ms : List ElementRow}
    (hinclude : q.includeAttributes = true)
    (hnames : maxBound < 2 * ms.length + (q.attributeNames.getD []).length) :
    q.completeBatch s ms = .error .tooManyVariables := by
  have hbound : checkBound (2 * (ms.map ElementRow.key).length +
      (q.attributeNames.getD []).length) = .error .tooManyVariables := by
    rw [List.length_map]
    exact if_neg (Nat.not_le.2 hnames)
  rw [MasterDataQuery.completeBatch_eq, if_pos hinclude, MasterDataQuery.readAttributes, hbound]
  rfl

/-! ### Answers -/

/-- The places of recorded elements are read. -/
theorem mapM_readWhole (xs : List RecordedElement) :
    ∃ ns, (xs.map row).mapM (fun m => readWhole 1 "md_index" m.index) = .ok ns := by
  have hread : ∀ x ∈ xs, readWhole 1 "md_index" x.row.index = .ok (x.index : Int) := fun _ _ => rfl
  exact ⟨_, mapM_map_eq_ok hread⟩

/-- **The answer to a query that selects some rows.** -/
theorem fetchElements_eq_ok (h : s.Journal cs) (hcheck : checkExtents q.extents = .ok ())
    {xs : List RecordedElement} (hxs : xs ⊆ recordedElements cs) (hrows : q.rows s = xs.map row)
    (hattach : q.AttachesWithin xs.length) : q.fetch s = .ok (xs.map q.attached) := by
  have hbatch : ∀ piece ∈ chunks keysPerStatement xs,
      q.completeBatch s (piece.map row) = .ok (piece.map q.attached) := by
    intro piece hpiece
    have hmany : piece.length ≤ keysPerStatement := length_le_of_mem_chunks (by decide) hpiece
    have hall : piece.length ≤ xs.length := by
      rw [← flatten_chunks keysPerStatement xs]
      exact (List.sublist_flatten_of_mem hpiece).length_le
    have hpos : 0 < xs.length := by
      refine List.length_pos_iff.2 fun hnil => ?_
      rw [hnil, chunks_nil] at hpiece
      exact absurd hpiece List.not_mem_nil
    have hrecorded : piece ⊆ recordedElements cs := fun x hx => hxs (mem_of_mem_chunks hpiece hx)
    refine h.completeBatch_eq_ok hrecorded ?_ fun hinclude => ?_
    · simp only [keysPerStatement, maxBound] at hmany ⊢
      omega
    · have := hattach hinclude hpos
      omega
  obtain ⟨ns, hns⟩ := mapM_readWhole xs
  rw [← hrows] at hns
  refine bind_eq_ok_iff.2 ⟨(), hcheck, bind_eq_ok_iff.2 ⟨ns, hns, bind_eq_ok_iff.2
    ⟨(chunks keysPerStatement xs).map (List.map q.attached), ?_, ?_⟩⟩⟩
  · rw [hrows, chunks_map]
    exact mapM_map_eq_ok hbatch
  · rw [← List.map_flatten, flatten_chunks]

/-- **A query fails if there is no room for its names** in the statement of its first batch. -/
theorem fetchElements_eq_error (hcheck : checkExtents q.extents = .ok ())
    {xs : List RecordedElement} (hrows : q.rows s = xs.map row)
    (hattach : ¬q.AttachesWithin xs.length) : q.fetch s = .error .tooManyVariables := by
  obtain ⟨hinclude, hpos, hnames⟩ : q.includeAttributes = true ∧ 0 < xs.length ∧
      maxBound < 2 * min xs.length keysPerStatement + (q.attributeNames.getD []).length := by
    simpa [MasterDataQuery.AttachesWithin] using hattach
  obtain ⟨ns, hns⟩ := mapM_readWhole xs
  obtain ⟨x, rest, rfl⟩ := List.exists_cons_of_length_pos hpos
  -- the first batch takes as many elements as it may
  have hfirst : q.completeBatch s ((x :: rest.take (keysPerStatement - 1)).map row) =
      .error .tooManyVariables := by
    refine completeBatch_eq_error s hinclude ?_
    have hlength : ((x :: rest.take (keysPerStatement - 1)).map row).length =
        min (x :: rest).length keysPerStatement := by
      simp only [List.length_map, List.length_cons, List.length_take, keysPerStatement, maxBound]
      omega
    rwa [hlength]
  have hbatches : (chunks keysPerStatement (q.rows s)).mapM (q.completeBatch s) =
      .error .tooManyVariables := by
    rw [hrows, chunks_map, chunks, List.map_cons, List.mapM_cons, hfirst]
    rfl
  rw [← hrows] at hns
  rw [MasterDataQuery.fetch, hcheck, hns, hbatches]
  rfl

end Store.Journal

end Provenance
