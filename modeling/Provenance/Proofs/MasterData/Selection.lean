import Mathlib.Data.List.Perm.Subperm
import Mathlib.Data.String.Basic
import Provenance.Proofs.MasterData.Hierarchy
import Provenance.Proofs.MasterData.Plan
import Provenance.Store.Selection

/-!
# The elements that a query selects

A query for master data looks at the latest recordings only, and at their attributes, which are
found by the key of the recording.  So what an earlier recording had is never seen, and an element
is selected or not by its latest recording alone.  The selected elements are put in order by
vocabulary and id, which no two of them share.

## Main definitions

* `RecordedElement.Satisfies` — what the filters of a parameter list ask of a recorded element.
* `RecordedElement.IsSelected` — what a query restricts to.
* `RecordedElement.IsNamedBefore` — the order by vocabulary and id.

## Main results

* `Store.Journal.hasAttribute_iff` — the attributes that are found are those of the recording.
* `Store.Journal.accepts_iff` — **a query accepts what it restricts to.**
* `Store.Journal.exists_rows_take` — **the rows that a query asks for.**
-/

namespace Provenance

open Parameter (given attributeFilter? attributeFilter?_eq_some_iff)

/-! ### What filters ask -/

namespace RecordedElement

/-- A recorded element has what all filters of a parameter list ask for.  Filters without values ask
for nothing, except the one on the values of an attribute, which asks for one of its values. -/
structure Satisfies (cs : List Captured) (ps : List Parameter) (x : RecordedElement) : Prop where
  vocabulary : given "vocabularyName" ps ≠ [] → x.element.vocabulary ∈ given "vocabularyName" ps
  id : given "EQ_name" ps ≠ [] → x.element.id ∈ given "EQ_name" ps
  within : given "WD_name" ps ≠ [] → DescendsFrom cs none (given "WD_name" ps) x.element.id
  present : given "HASATTR" ps ≠ [] → ∃ a ∈ x.element.attributes, a.id ∈ given "HASATTR" ps
  described : ∀ p ∈ ps, ∀ name, name ≠ "" → p.name = "EQATTR_" ++ name →
    ∃ a ∈ x.element.attributes, a.id = name ∧ a.value ∈ p.values

/-- A recorded element has what a query restricts to.  An empty list restricts nothing, except one
of values of an attribute. -/
structure IsSelected (cs : List Captured) (q : MasterDataQuery) (x : RecordedElement) : Prop where
  vocabulary : q.vocabularies ≠ [] → x.element.vocabulary ∈ q.vocabularies
  id : q.ids ≠ [] → x.element.id ∈ q.ids
  within : q.within ≠ [] → DescendsFrom cs none q.within x.element.id
  present : q.attributesPresent ≠ [] → ∃ a ∈ x.element.attributes, a.id ∈ q.attributesPresent
  described : ∀ f ∈ q.attributeValues, ∃ a ∈ x.element.attributes, a.id = f.1 ∧ a.value ∈ f.2

/-- The order by vocabulary and id. -/
def IsNamedBefore (x y : RecordedElement) : Prop :=
  x.element.vocabulary < y.element.vocabulary ∨
    x.element.vocabulary = y.element.vocabulary ∧ x.element.id < y.element.id

theorem IsNamedBefore.ne {x y : RecordedElement} (h : x.IsNamedBefore y) : x ≠ y := by
  rintro rfl
  rcases h with hlt | ⟨-, hlt⟩
  · exact lt_irrefl _ hlt
  · exact lt_irrefl _ hlt

theorem IsNamedBefore.not_isNamedBefore {x y : RecordedElement} (h : x.IsNamedBefore y) :
    ¬y.IsNamedBefore x := by
  rintro (hlt | ⟨heq, hlt⟩)
  · rcases h with hlt' | ⟨heq, -⟩
    · exact lt_asymm hlt hlt'
    · exact hlt.ne heq.symm
  · rcases h with hlt' | ⟨-, hlt'⟩
    · exact hlt'.ne heq.symm
    · exact lt_asymm hlt hlt'

instance : Std.Asymm IsNamedBefore := ⟨fun _ _ h => h.not_isNamedBefore⟩

/-- Elements of different names that are not in the wrong order are in the right one. -/
theorem isNamedBefore_of_compareRows {x y : RecordedElement} (hname : x.name ≠ y.name)
    (h : MasterDataQuery.compareRows x.row y.row ≠ .gt) : x.IsNamedBefore y := by
  have hne : MasterDataQuery.compareRows x.row y.row ≠ .eq := by
    intro heq
    obtain ⟨hvocabulary, hid⟩ := Ordering.then_eq_eq.1 heq
    exact hname (Prod.ext (Std.compare_eq_iff_eq.1 hvocabulary) (Std.compare_eq_iff_eq.1 hid))
  have hlt : MasterDataQuery.compareRows x.row y.row = .lt := by
    cases hc : MasterDataQuery.compareRows x.row y.row with
    | lt => rfl
    | eq => exact absurd hc hne
    | gt => exact absurd hc h
  rcases Ordering.then_eq_lt.1 hlt with hvocabulary | ⟨hvocabulary, hid⟩
  · exact .inl (compare_lt_iff_lt.1 hvocabulary)
  · exact .inr ⟨Std.compare_eq_iff_eq.1 hvocabulary, compare_lt_iff_lt.1 hid⟩

end RecordedElement

open RecordedElement

/-- What is sorted by an order is in order. -/
theorem pairwise_mergeSort_of_transCmp {α : Type} (cmp : α → α → Ordering) [Std.TransCmp cmp]
    (l : List α) : (l.mergeSort fun a b => cmp a b != .gt).Pairwise fun a b => cmp a b ≠ .gt := by
  have htrans (a b c : α) (hab : (cmp a b != .gt) = true) (hbc : (cmp b c != .gt) = true) :
      (cmp a c != .gt) = true := by
    rw [bne_iff_ne, ne_eq, ← Ordering.isLE_iff_ne_gt] at hab hbc ⊢
    exact Std.TransCmp.isLE_trans hab hbc
  have htotal (a b : α) : (cmp a b != .gt || cmp b a != .gt) = true := by
    rw [Bool.or_eq_true, bne_iff_ne, bne_iff_ne]
    by_contra hboth
    obtain ⟨hab, hba⟩ := not_or.1 hboth
    rw [not_ne_iff, Std.OrientedCmp.gt_iff_lt] at hab
    rw [not_ne_iff, hab] at hba
    exact absurd hba (by decide)
  exact (List.pairwise_mergeSort htrans htotal l).imp bne_iff_ne.1

/-- Elements of different names come in the order of their names. -/
theorem RecordedElement.isNamedBefore_mergeSort {xs : List RecordedElement}
    (hnames : (xs.map name).Nodup) :
    (xs.mergeSort fun x y => MasterDataQuery.compareRows x.row y.row != .gt).Pairwise
      IsNamedBefore := by
  have : Std.TransCmp fun x y : RecordedElement => MasterDataQuery.compareRows x.row y.row :=
    inferInstanceAs (Std.TransCmp (compareLex (compareOn fun x : RecordedElement =>
      x.element.vocabulary) (compareOn fun x : RecordedElement => x.element.id)))
  have hsorted := pairwise_mergeSort_of_transCmp
    (fun x y : RecordedElement => MasterDataQuery.compareRows x.row y.row) xs
  have hdistinct := hnames.perm ((List.mergeSort_perm xs fun x y =>
    MasterDataQuery.compareRows x.row y.row != .gt).map name).symm
  rw [List.Nodup, List.pairwise_map] at hdistinct
  exact (hsorted.and hdistinct).imp fun hboth => isNamedBefore_of_compareRows hboth.2 hboth.1

namespace Store.Journal

variable {s : Store} {cs : List Captured} {q : MasterDataQuery} {ps : List Parameter}

/-! ### Accepting -/

/-- **The attributes that are found for a recorded element are its own.** -/
theorem hasAttribute_iff (h : s.Journal cs) {x : RecordedElement} (hx : x ∈ recordedElements cs)
    {wanted : AttributeRow → Bool} {P : Attribute → Prop}
    (hwanted : ∀ r, wanted r = true ↔ P ⟨r.id, r.value⟩) :
    MasterDataQuery.hasAttribute s x.row wanted = true ↔ ∃ a ∈ x.element.attributes, P a := by
  have hrows : s.attributes = (recordedElements cs).flatMap fun x => x.rows .attributes :=
    h.rows_eq_flatMap_elements (t := .attributes) rfl
  have hown : s.attributes.filter (fun r => r.owner == x.key) = x.rows .attributes := by
    rw [hrows]
    exact filter_owner_eq (fun y _ => owner_attributeRows y) h.recordedElements_keys_nodup hx
  rw [MasterDataQuery.hasAttribute, key_row, ← List.any_filter, hown, List.any_eq_true]
  exact exists_mem_numbered (fun i a => hwanted _) 0 x.element.attributes

/-- A list that restricts nothing, or one with a member. -/
theorem allows_iff {ss : List String} {t : String} :
    MasterDataQuery.allows ss t = true ↔ (ss ≠ [] → t ∈ ss) := by
  rw [MasterDataQuery.allows, Bool.or_eq_true, List.isEmpty_iff, List.contains_iff_mem]
  exact Decidable.or_iff_not_imp_left

/-- **A query accepts a recorded element that has what the query restricts to.** -/
theorem accepts_iff (h : s.Journal cs) {x : RecordedElement}
    (hx : x ∈ recordedElements cs) :
    q.accepts s (s.descendants none q.within) x.row = true ↔ x.IsSelected cs q := by
  have hwithin : (q.within.isEmpty || (s.descendants none q.within).contains x.element.id) = true ↔
      (q.within ≠ [] → DescendsFrom cs none q.within x.element.id) := by
    rw [Bool.or_eq_true, List.isEmpty_iff, List.contains_iff_mem, h.mem_descendants_iff]
    exact Decidable.or_iff_not_imp_left
  have hpresent : (q.attributesPresent.isEmpty ||
      MasterDataQuery.hasAttribute s x.row fun a => q.attributesPresent.contains a.id) = true ↔
      (q.attributesPresent ≠ [] → ∃ a ∈ x.element.attributes, a.id ∈ q.attributesPresent) := by
    have hone : MasterDataQuery.hasAttribute s x.row (fun a => q.attributesPresent.contains a.id) =
        true ↔ ∃ a ∈ x.element.attributes, a.id ∈ q.attributesPresent :=
      h.hasAttribute_iff hx fun r => List.contains_iff_mem
    rw [Bool.or_eq_true, List.isEmpty_iff, hone]
    exact Decidable.or_iff_not_imp_left
  have hvalues : (q.attributeValues.all fun f =>
      MasterDataQuery.hasAttribute s x.row fun a => a.id == f.1 && f.2.contains a.value) = true ↔
      ∀ f ∈ q.attributeValues, ∃ a ∈ x.element.attributes, a.id = f.1 ∧ a.value ∈ f.2 := by
    have hone (n : String) (vs : List String) :
        MasterDataQuery.hasAttribute s x.row (fun a => a.id == n && vs.contains a.value) = true ↔
          ∃ a ∈ x.element.attributes, a.id = n ∧ a.value ∈ vs := by
      refine h.hasAttribute_iff hx fun r => ?_
      rw [Bool.and_eq_true, beq_iff_eq, List.contains_iff_mem]
    simp only [List.all_eq_true, hone]
  rw [MasterDataQuery.accepts, Bool.and_eq_true, Bool.and_eq_true, Bool.and_eq_true,
    Bool.and_eq_true, allows_iff, allows_iff]
  constructor
  · rintro ⟨⟨⟨⟨hvocabulary, hid⟩, hfamily⟩, hkinds⟩, hall⟩
    exact ⟨hvocabulary, hid, hwithin.1 hfamily, hpresent.1 hkinds, hvalues.1 hall⟩
  · rintro ⟨hvocabulary, hid, hfamily, hkinds, hall⟩
    exact ⟨⟨⟨⟨hvocabulary, hid⟩, hwithin.2 hfamily⟩, hpresent.2 hkinds⟩, hvalues.2 hall⟩

/-- What a query restricts to is what the filters of its list ask for. -/
theorem isSelected_iff (hq : q.Restricts ps) (x : RecordedElement) :
    x.IsSelected cs q ↔ x.Satisfies cs ps := by
  have hvalues : (∀ f ∈ q.attributeValues, ∃ a ∈ x.element.attributes, a.id = f.1 ∧ a.value ∈ f.2) ↔
      ∀ p ∈ ps, ∀ name, name ≠ "" → p.name = "EQATTR_" ++ name →
        ∃ a ∈ x.element.attributes, a.id = name ∧ a.value ∈ p.values := by
    simp only [hq.attributeValues, List.mem_filterMap]
    constructor
    · intro hall p hp name hne hname
      exact hall _ ⟨p, hp, attributeFilter?_eq_some_iff.2 ⟨hname, hne, rfl⟩⟩
    · rintro hall ⟨n, vs⟩ ⟨p, hp, hfilter⟩
      obtain ⟨hname, hne, rfl⟩ := attributeFilter?_eq_some_iff.1 hfilter
      exact hall p hp n hne hname
  constructor
  · rintro ⟨hvocabulary, hid, hfamily, hkinds, hall⟩
    exact ⟨hq.vocabularies ▸ hvocabulary, hq.ids ▸ hid, hq.within ▸ hfamily,
      hq.attributesPresent ▸ hkinds, hvalues.1 hall⟩
  · rintro ⟨hvocabulary, hid, hfamily, hkinds, hall⟩
    exact ⟨hq.vocabularies ▸ hvocabulary, hq.ids ▸ hid, hq.within ▸ hfamily,
      hq.attributesPresent ▸ hkinds, hvalues.2 hall⟩

/-! ### Selecting -/

/-- **The matching elements are the latest recordings that have what the query restricts to.** -/
theorem exists_matching (h : s.Journal cs) (q : MasterDataQuery) :
    ∃ xs : List RecordedElement, xs.Sublist (recordedElements cs) ∧
      (∀ x, x ∈ xs ↔ x.IsLatest cs ∧ x.IsSelected cs q) ∧ q.matching s = xs.map row := by
  obtain ⟨ls, hsub, hlatest, hcurrent⟩ := h.exists_currentElements
  refine ⟨ls.filter fun x => q.accepts s (s.descendants none q.within) x.row,
    List.filter_sublist.trans hsub, fun x => ?_, ?_⟩
  · rw [List.mem_filter, hlatest]
    exact and_congr_right fun hx => h.accepts_iff hx.mem
  · rw [MasterDataQuery.matching, hcurrent, List.filter_map]
    rfl

/-- **The rows that a query asks for**: the matching elements, by vocabulary and id, up to its
limit. -/
theorem exists_rows_take (h : s.Journal cs) (q : MasterDataQuery) :
    ∃ xs : List RecordedElement, xs.Pairwise IsNamedBefore ∧
      (∀ x, x ∈ xs ↔ x.IsLatest cs ∧ x.IsSelected cs q) ∧
      q.rows s = (xs.take (rowCount q.limit)).map row := by
  obtain ⟨ms, hsub, hmem, hmatching⟩ := h.exists_matching q
  have hnames : (ms.map name).Nodup := by
    have hkeys : ms.Nodup := h.recordedElements_keys_nodup.of_map.sublist hsub
    refine hkeys.map_on fun x hx y hy heq => ?_
    exact h.isLatest_unique ((hmem x).1 hx).1 ((hmem y).1 hy).1 heq
  refine ⟨_, isNamedBefore_mergeSort hnames, fun x => ?_, ?_⟩
  · rw [List.mem_mergeSort, hmem]
  · have hsort : (ms.mergeSort fun x y => MasterDataQuery.compareRows x.row y.row != .gt).map row =
        (ms.map row).mergeSort fun a b => MasterDataQuery.compareRows a b != .gt :=
      List.map_mergeSort fun _ _ _ _ => rfl
    rw [MasterDataQuery.rows, hmatching, List.map_take, hsort]

/-- Without a limit a query asks for all matching elements. -/
theorem exists_rows (h : s.Journal cs) (hsize : (recordedElements cs).length ≤ maxRows)
    (hq : q.Restricts ps) (hlimit : q.limit = none) :
    ∃ xs : List RecordedElement, xs.Pairwise IsNamedBefore ∧
      (∀ x, x ∈ xs ↔ x.IsLatest cs ∧ x.Satisfies cs ps) ∧ q.rows s = xs.map row := by
  obtain ⟨xs, hsorted, hmem, hrows⟩ := h.exists_rows_take q
  have hlength : xs.length ≤ maxRows := by
    have hsubset : xs ⊆ recordedElements cs := fun x hx => ((hmem x).1 hx).1.mem
    have hnodup : xs.Nodup := hsorted.imp IsNamedBefore.ne
    exact (hnodup.subperm hsubset).length_le.trans hsize
  refine ⟨xs, hsorted, fun x => ?_, ?_⟩
  · rw [hmem, isSelected_iff hq]
  · rw [hrows, hlimit]
    exact congrArg (List.map row) (List.take_of_length_le hlength)

end Store.Journal

end Provenance
