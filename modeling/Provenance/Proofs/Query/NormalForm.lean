import Mathlib.Data.List.Sort
import Provenance.Proofs.Query.Normalization

/-!
# The normal form is the only one

A parameter list is in normal form if its names are different, none of its entries is without
values and no value is blank.  Of the lists in normal form one belongs to a given list: it has the
names under which something is given that is not blank, in the order in which they first occur,
where a name counts from the first parameter that has it even if all the values there are blank, and
under each name all that is given and not blank.

Merging keeps the names in the order of their first occurrence at every step: a name that was there
keeps its entry, and a new one is put behind all others.  Entries are dropped only in the end, which
leaves the others in order.

## Main definitions

* `Parameter.IsNormal` — being in normal form.
* `Parameter.OccursBefore` — the order of first occurrence.
* `Parameter.IsNormalFormOf` — being the normal form of a list.

## Main results

* `mergeParameters_pairwise` — merged entries stand in the order of first occurrence.
* `normalize_isNormalFormOf`, `Parameter.IsNormalFormOf.unique` — there is one normal form.
* `normalize_canonical` — **normalizing gives the normal form**, and changes nothing else.
-/

namespace Provenance

open Text (isBlankText)

namespace Parameter

/-- **Being in normal form**: different names, no entry without values, no blank value. -/
structure IsNormal (ps : List Parameter) : Prop where
  names_nodup : (ps.map Parameter.name).Nodup
  values_ne_nil : ∀ p ∈ ps, p.values ≠ []
  not_blank : ∀ p ∈ ps, ∀ v ∈ p.values, isBlankText v = false

/-- That the name of one entry occurs in a list before that of another, where the first occurrence of
a name counts. -/
def OccursBefore (ps : List Parameter) (p q : Parameter) : Prop :=
  (ps.map Parameter.name).idxOf p.name < (ps.map Parameter.name).idxOf q.name

instance (ps : List Parameter) : Std.Asymm (OccursBefore ps) := ⟨fun _ _ h => Nat.lt_asymm h⟩

/-- **Being the normal form of a list**: the names with a value that is not blank, in the order of
their first occurrence, each with all its values that are not blank. -/
structure IsNormalFormOf (ps qs : List Parameter) : Prop extends IsNormal qs where
  named_iff : ∀ name, name ∈ qs.map Parameter.name ↔
    ∃ p ∈ ps, p.name = name ∧ ∃ v ∈ p.values, isBlankText v = false
  inOrder : qs.Pairwise (OccursBefore ps)
  values_eq : ∀ q ∈ qs, q.values = filled q.name ps

variable {ps qs qs' : List Parameter} {p : Parameter} {name v : String}

theorem mem_given_iff : v ∈ given name ps ↔ ∃ p ∈ ps, p.name = name ∧ v ∈ p.values := by
  simp only [given, List.mem_flatMap, List.mem_filter, beq_iff_eq, and_assoc]

theorem mem_filled_iff :
    v ∈ filled name ps ↔ (∃ p ∈ ps, p.name = name ∧ v ∈ p.values) ∧ isBlankText v = false := by
  rw [filled, List.mem_filter, mem_given_iff, Bool.not_eq_true']

/-- Something is given under a name and is not blank. -/
theorem filled_ne_nil_iff :
    filled name ps ≠ [] ↔ ∃ p ∈ ps, p.name = name ∧ ∃ v ∈ p.values, isBlankText v = false := by
  constructor
  · intro h
    obtain ⟨v, hv⟩ := List.exists_mem_of_ne_nil _ h
    obtain ⟨⟨p, hp, hname, hv⟩, hfull⟩ := mem_filled_iff.1 hv
    exact ⟨p, hp, hname, v, hv, hfull⟩
  · rintro ⟨p, hp, hname, v, hv, hfull⟩
    exact List.ne_nil_of_mem (mem_filled_iff.2 ⟨⟨p, hp, hname, hv⟩, hfull⟩)

/-- **A list has one normal form at most**: its entries are determined, and so is their order. -/
theorem IsNormalFormOf.unique (h : IsNormalFormOf ps qs) (h' : IsNormalFormOf ps qs') :
    qs = qs' := by
  have hentries {rs rs' : List Parameter} (h : IsNormalFormOf ps rs) (h' : IsNormalFormOf ps rs') :
      ∀ p ∈ rs, p ∈ rs' := by
    intro p hp
    -- the other list has an entry of the same name, and it has the same values
    have hnamed : p.name ∈ rs'.map Parameter.name :=
      (h'.named_iff p.name).2 ((h.named_iff p.name).1 (List.mem_map_of_mem hp))
    obtain ⟨q, hq, hname⟩ := List.mem_map.1 hnamed
    have hvalues : q.values = p.values := by
      rw [h'.values_eq q hq, h.values_eq p hp, hname]
    obtain ⟨name, values⟩ := p
    obtain ⟨name', values'⟩ := q
    obtain rfl : name' = name := hname
    obtain rfl : values' = values := hvalues
    exact hq
  exact h.inOrder.eq_of_mem_iff h'.inOrder fun p => ⟨hentries h h' p, hentries h' h p⟩

end Parameter

open Parameter

variable {ps : List Parameter} {p : Parameter}

/-! ### The order of entries -/

/-- A name has an entry exactly if a parameter has it, even with blank values only. -/
theorem mem_names_mergeParameters {name : String} :
    name ∈ (mergeParameters ps).map Parameter.name ↔ name ∈ ps.map Parameter.name := by
  induction ps using List.reverseRecOn with
  | nil => exact Iff.rfl
  | append_singleton ps p ih =>
    rw [mergeParameters_concat, names_addValues, List.map_append, List.mem_append, ← ih]
    split
    · next hold =>
      refine ⟨Or.inl, fun h => h.elim id fun hp => ?_⟩
      rwa [List.mem_singleton.1 hp]
    · exact List.mem_append

/-- The names of merged entries stand in the order of first occurrence. -/
theorem names_mergeParameters_pairwise (ps : List Parameter) :
    ((mergeParameters ps).map Parameter.name).Pairwise fun m n =>
      (ps.map Parameter.name).idxOf m < (ps.map Parameter.name).idxOf n := by
  induction ps using List.reverseRecOn with
  | nil => exact List.Pairwise.nil
  | append_singleton ps p ih =>
    have hmem : ∀ n ∈ (mergeParameters ps).map Parameter.name, n ∈ ps.map Parameter.name :=
      fun n => mem_names_mergeParameters.1
    have hold : ((mergeParameters ps).map Parameter.name).Pairwise fun m n =>
        ((ps ++ [p]).map Parameter.name).idxOf m < ((ps ++ [p]).map Parameter.name).idxOf n := by
      refine ih.imp_of_mem fun hm hn hlt => ?_
      rwa [List.map_append, List.idxOf_append_of_mem (hmem _ hm),
        List.idxOf_append_of_mem (hmem _ hn)]
    rw [mergeParameters_concat, names_addValues]
    split
    · exact hold
    · next hnew =>
      rw [mem_names_mergeParameters] at hnew
      refine List.pairwise_append.2 ⟨hold, List.pairwise_singleton _ _, fun m hm n hn => ?_⟩
      rw [List.mem_singleton.1 hn, List.map_append, List.idxOf_append_of_mem (hmem m hm),
        List.idxOf_append_of_notMem hnew]
      exact Nat.lt_add_right _ (List.idxOf_lt_length_of_mem (hmem m hm))

/-- **Merged entries stand in the order of first occurrence.** -/
theorem mergeParameters_pairwise (ps : List Parameter) :
    (mergeParameters ps).Pairwise (OccursBefore ps) := by
  have hnames := names_mergeParameters_pairwise ps
  rw [List.pairwise_map] at hnames
  exact hnames

/-! ### The normal form -/

theorem mem_names_normalize {name : String} :
    name ∈ (normalize ps).map Parameter.name ↔ filled name ps ≠ [] := by
  constructor
  · intro h
    obtain ⟨p, hp, rfl⟩ := List.mem_map.1 h
    obtain ⟨hne, hvalues⟩ := mem_normalize_iff.1 hp
    exact hvalues ▸ hne
  · intro h
    exact List.mem_map.2 ⟨⟨name, filled name ps⟩, mem_normalize_iff.2 ⟨h, rfl⟩, rfl⟩

/-- **Normalizing gives the normal form.** -/
theorem normalize_isNormalFormOf (ps : List Parameter) : IsNormalFormOf ps (normalize ps) where
  names_nodup := nodup_names_normalize ps
  values_ne_nil := fun p hp => (mem_normalize_iff.1 hp).1
  not_blank := by
    intro p hp v hv
    rw [(mem_normalize_iff.1 hp).2] at hv
    exact (mem_filled_iff.1 hv).2
  named_iff := fun name => mem_names_normalize.trans filled_ne_nil_iff
  inOrder := (mergeParameters_pairwise ps).sublist List.filter_sublist
  values_eq := fun p hp => (mem_normalize_iff.1 hp).2

/-- A list in normal form is left as it is, and no other list is. -/
theorem normalize_eq_self_iff : normalize ps = ps ↔ IsNormal ps := by
  constructor
  · intro h
    exact h ▸ (normalize_isNormalFormOf ps).toIsNormal
  · intro h
    exact normalize_eq_self h.names_nodup fun p hp => ⟨h.values_ne_nil p hp, h.not_blank p hp⟩

/-- **Normalizing is canonical.**  Of every list it gives the normal form, which is the only one;
a second time it changes nothing; and a list is left as it is if and only if it is in normal form
already. -/
theorem normalize_canonical (ps : List Parameter) :
    (∀ qs, IsNormalFormOf ps qs ↔ qs = normalize ps) ∧
      normalize (normalize ps) = normalize ps ∧ (normalize ps = ps ↔ IsNormal ps) := by
  have hform := normalize_isNormalFormOf ps
  refine ⟨fun qs => ⟨fun h => h.unique hform, ?_⟩, ?_, normalize_eq_self_iff⟩
  · rintro rfl
    exact hform
  · exact normalize_eq_self_iff.2 hform.toIsNormal

/-- The name that comes first has only a blank value at its first occurrence; another one has blank
values only, and is dropped. -/
example :
    normalize [⟨"EQ_bizStep", [" "]⟩, ⟨"EQ_action", ["ADD"]⟩, ⟨"EQ_name", ["", "\t"]⟩,
        ⟨"EQ_bizStep", ["urn:pack ", "", "urn:ship"]⟩] =
      [⟨"EQ_bizStep", ["urn:pack ", "urn:ship"]⟩, ⟨"EQ_action", ["ADD"]⟩] := by
  decide

end Provenance
