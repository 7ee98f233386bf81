import Mathlib.Data.List.Induction
import Mathlib.Data.List.Nodup
import Mathlib.Data.List.Perm.Basic
import Provenance.Proofs.Query.Reading

/-!
# The normal form of a parameter list

Values are added to the entries of their names one parameter after the other.  At every step there
is one entry for each name, and it holds what was given under the name so far, without what is
blank.  So the normal form has an entry for a name exactly if something that is not blank is given
under it, whatever parameters it is given in; and two lists that give the same under each name have
the same entries, if not in the same order.

## Main definitions

* `Parameter.filled` — what a list gives under a name, without what is blank.

## Main results

* `given_mergeParameters` — what is merged is what is given.
* `mem_normalize_iff` — the entries of the normal form.
* `normalize_perm` — lists that give the same have the same entries.
-/

namespace Provenance

open Parameter

open Text (isBlankText)

namespace Parameter

/-- The values that a list gives under a name and that are not blank, all together. -/
def filled (name : String) (ps : List Parameter) : List String :=
  (given name ps).filter fun v => !isBlankText v

variable {name : String} {ps : List Parameter} {p : Parameter}

theorem given_cons :
    given name (p :: ps) = (if p.name = name then p.values else []) ++ given name ps := by
  by_cases h : p.name = name <;> simp [given, h]

/-- Nothing is given under a name that a list does not have. -/
theorem given_of_unnamed (h : name ∉ ps.map Parameter.name) : given name ps = [] := by
  have hnone : ps.filter (fun q => q.name == name) = [] :=
    List.filter_eq_nil_iff.2 fun q hq hname =>
      h (List.mem_map.2 ⟨q, hq, beq_iff_eq.1 hname⟩)
  rw [given, hnone]
  rfl

/-- Where there is one entry for each name, an entry has all that is given under its name. -/
theorem given_of_mem (h : (ps.map Parameter.name).Nodup) (hp : p ∈ ps) :
    given p.name ps = p.values := by
  induction ps with
  | nil => exact absurd hp List.not_mem_nil
  | cons q ps ih =>
    rw [List.map_cons, List.nodup_cons] at h
    rw [given_cons]
    rcases List.mem_cons.1 hp with rfl | hp
    · rw [if_pos rfl, given_of_unnamed h.1, List.append_nil]
    · have hne : q.name ≠ p.name := fun heq => h.1 (heq ▸ List.mem_map_of_mem hp)
      rw [if_neg hne, List.nil_append, ih h.2 hp]

/-- Entries without values give nothing. -/
theorem given_filter_values :
    given name (ps.filter fun p => !p.values.isEmpty) = given name ps := by
  induction ps with
  | nil => rfl
  | cons p ps ih =>
    by_cases h : p.values = []
    · rw [List.filter_cons_of_neg (by simp [h]), ih, given_cons, h, ite_self, List.nil_append]
    · rw [List.filter_cons_of_pos (by simpa using h), given_cons, given_cons, ih]

end Parameter

/-! ### Adding values -/

section Adding

variable {n : String} {vs : List String} {ps : List Parameter}

/-- A name that has no entry gets one, at the end. -/
theorem addValues_of_unnamed (h : n ∉ ps.map Parameter.name) :
    addValues n vs ps = ps ++ [⟨n, vs⟩] := by
  induction ps with
  | nil => rfl
  | cons p ps ih =>
    rw [List.map_cons, List.mem_cons, not_or] at h
    rw [addValues, if_neg fun heq => h.1 heq.symm, ih h.2, List.cons_append]

theorem names_addValues : (addValues n vs ps).map Parameter.name =
    if n ∈ ps.map Parameter.name then ps.map Parameter.name
    else ps.map Parameter.name ++ [n] := by
  induction ps with
  | nil => rfl
  | cons p ps ih =>
    by_cases h : p.name = n
    · simp [addValues, h]
    · have hne : n ≠ p.name := fun heq => h heq.symm
      rw [addValues, if_neg h, List.map_cons, ih, List.map_cons]
      by_cases hn : n ∈ ps.map Parameter.name <;> simp [hn, hne]

theorem nodup_names_addValues (h : (ps.map Parameter.name).Nodup) :
    ((addValues n vs ps).map Parameter.name).Nodup := by
  rw [names_addValues]
  split
  · exact h
  · next hn => exact List.nodup_append.2 ⟨h, List.nodup_singleton n, by simpa using hn⟩

/-- **Values that are added** are given under their name, after those that were there. -/
theorem given_addValues (h : (ps.map Parameter.name).Nodup) (name : String) :
    given name (addValues n vs ps) = given name ps ++ if n = name then vs else [] := by
  induction ps with
  | nil =>
    show given name [⟨n, vs⟩] = given name [] ++ _
    rw [given_cons]
    exact List.append_nil _
  | cons p ps ih =>
    rw [List.map_cons, List.nodup_cons] at h
    by_cases hp : p.name = n
    · rw [addValues, if_pos hp, given_cons, given_cons]
      by_cases hname : n = name
      · subst hp hname
        -- no further entry has the name
        simp [given_of_unnamed h.1]
      · have hother : p.name ≠ name := fun heq => hname (hp.symm.trans heq)
        simp [hname, hother]
    · rw [addValues, if_neg hp, given_cons, given_cons, ih h.2, List.append_assoc]

end Adding

/-! ### Merging -/

variable {ps qs : List Parameter} {p : Parameter}

theorem mergeParameters_concat :
    mergeParameters (ps ++ [p]) =
      addValues p.name (p.values.filter fun v => !isBlankText v) (mergeParameters ps) := by
  rw [mergeParameters, List.foldl_concat]
  rfl

/-- There is one entry for each name. -/
theorem nodup_names_mergeParameters (ps : List Parameter) :
    ((mergeParameters ps).map Parameter.name).Nodup := by
  induction ps using List.reverseRecOn with
  | nil => exact List.nodup_nil
  | append_singleton ps p ih =>
    rw [mergeParameters_concat]
    exact nodup_names_addValues ih

/-- **What is merged is what is given**, without what is blank. -/
theorem given_mergeParameters (name : String) (ps : List Parameter) :
    given name (mergeParameters ps) = filled name ps := by
  induction ps using List.reverseRecOn with
  | nil => rfl
  | append_singleton ps p ih =>
    rw [mergeParameters_concat, given_addValues (nodup_names_mergeParameters ps), ih, filled,
      filled, given_concat, List.filter_append]
    by_cases h : p.name = name <;> simp [h]

/-! ### The normal form -/

theorem nodup_names_normalize (ps : List Parameter) :
    ((normalize ps).map Parameter.name).Nodup :=
  (nodup_names_mergeParameters ps).sublist (List.filter_sublist.map _)

theorem given_normalize (name : String) (ps : List Parameter) :
    given name (normalize ps) = filled name ps := by
  rw [normalize, given_filter_values, given_mergeParameters]

/-- **The entries of the normal form**: what is given under a name and is not blank, for each name
that has some. -/
theorem mem_normalize_iff :
    p ∈ normalize ps ↔ p.values ≠ [] ∧ p.values = filled p.name ps := by
  have hgiven := given_normalize p.name ps
  constructor
  · intro hp
    refine ⟨by simpa using (List.mem_filter.1 hp).2, ?_⟩
    rw [← hgiven, given_of_mem (nodup_names_normalize ps) hp]
  · rintro ⟨hne, hvalues⟩
    rw [← hvalues] at hgiven
    have hnamed : p.name ∈ (normalize ps).map Parameter.name := by
      by_contra hn
      exact hne (hgiven.symm.trans (given_of_unnamed hn))
    obtain ⟨q, hq, hname⟩ := List.mem_map.1 hnamed
    have hsame := given_of_mem (nodup_names_normalize ps) hq
    rw [hname, hgiven] at hsame
    obtain ⟨name, values⟩ := p
    obtain ⟨name', values'⟩ := q
    obtain rfl : name' = name := hname
    obtain rfl : values = values' := hsame
    exact hq

/-- Parameters with different names and with values of which none is blank are their own normal
form. -/
theorem normalize_eq_self (hnames : (ps.map Parameter.name).Nodup)
    (hvalues : ∀ p ∈ ps, p.values ≠ [] ∧ ∀ v ∈ p.values, isBlankText v = false) :
    normalize ps = ps := by
  have hmerge : mergeParameters ps = ps := by
    induction ps using List.reverseRecOn with
    | nil => rfl
    | append_singleton ps p ih =>
      rw [List.map_append, List.map_singleton, List.nodup_append] at hnames
      have hp := hvalues p (List.mem_append_right ps (List.mem_singleton_self p))
      have hkeep : p.values.filter (fun v => !isBlankText v) = p.values :=
        List.filter_eq_self.2 fun v hv => by simp [hp.2 v hv]
      have hnew : p.name ∉ ps.map Parameter.name := fun hmem =>
        hnames.2.2 _ hmem _ (List.mem_singleton_self _) rfl
      rw [mergeParameters_concat, hkeep,
        ih hnames.1 fun q hq => hvalues q (List.mem_append_left _ hq), addValues_of_unnamed hnew]
  rw [normalize, hmerge]
  exact List.filter_eq_self.2 fun p hp => by simpa using (hvalues p hp).1

/-- **Lists that give the same have the same entries.** -/
theorem normalize_perm (h : ∀ name, filled name ps = filled name qs) :
    (normalize ps).Perm (normalize qs) := by
  refine (List.perm_ext_iff_of_nodup (nodup_names_normalize ps).of_map
    (nodup_names_normalize qs).of_map).2 fun p => ?_
  rw [mem_normalize_iff, mem_normalize_iff, h]

end Provenance
