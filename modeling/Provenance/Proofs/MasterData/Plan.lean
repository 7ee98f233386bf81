import Provenance.Proofs.Query.Reading
import Provenance.Query.MasterDataParameters

/-!
# What a parameter list asks of master data

Parameters are read from the left into a draft.  The restrictions of one kind add up, whichever of
several parameters give them; each value filter on an attribute is a restriction of its own; and of
several parameters that say what to attach, the last one counts.

## Main definitions

* `Parameter.attributeFilter?` — the attribute that a parameter asks values of.
* `MasterDataQuery.Restricts`, `MasterDataQuery.Asks` — a query asks for what a list says.
* `MasterDataDraft.Says` — a draft says what a list says.

## Main results

* `MasterDataDraft.Says.add`, `MasterDataDraft.Says.foldl` — a clause, and many clauses.
* `MasterDataPlan.asks` — **what the plan of a list asks for.**
* `MasterDataPlan.ofParameters_insert` — what a greatest count adds to a plan.
-/

namespace Provenance

/-! ### Value filters -/

namespace Parameter

/-- The attribute that a parameter asks values of, with the values. -/
def attributeFilter? (p : Parameter) : Option (String × List String) :=
  match Text.dropWord "EQATTR_".toList p.name.toList with
  | some (c :: cs) => some (String.ofList (c :: cs), p.values)
  | _ => none

theorem attributeFilter?_eq_some_iff {p : Parameter} {a : String} {vs : List String} :
    p.attributeFilter? = some (a, vs) ↔ p.name = "EQATTR_" ++ a ∧ a ≠ "" ∧ vs = p.values := by
  have hdrop : p.name = "EQATTR_" ++ a ↔
      Text.dropWord "EQATTR_".toList p.name.toList = some a.toList := by
    rw [Text.dropWord_toList_eq_some_iff, String.ofList_toList]
  have hempty : a ≠ "" ↔ a.toList ≠ [] := by simp
  rw [hdrop, hempty, attributeFilter?]
  split
  · next c cs hrest =>
    rw [hrest, Option.some.injEq, Option.some.injEq, Prod.mk.injEq,
      ← String.toList_inj, String.toList_ofList]
    constructor
    · rintro ⟨ha, hvs⟩
      exact ⟨ha, by simp [← ha], hvs.symm⟩
    · rintro ⟨ha, -, hvs⟩
      exact ⟨ha, hvs.symm⟩
  · next hnone =>
    constructor
    · intro h
      exact absurd h (by simp)
    · rintro ⟨hrest, hne, -⟩
      obtain ⟨c, cs, hcs⟩ := List.exists_cons_of_ne_nil hne
      exact absurd (hcs ▸ hrest) (hnone c cs)

end Parameter

open Parameter

/-! ### Drafts and plans -/

/-- A query restricts elements as the parameters of a list say. -/
structure MasterDataQuery.Restricts (q : MasterDataQuery) (ps : List Parameter) : Prop where
  vocabularies : q.vocabularies = given "vocabularyName" ps
  ids : q.ids = given "EQ_name" ps
  within : q.within = given "WD_name" ps
  attributesPresent : q.attributesPresent = given "HASATTR" ps
  attributeValues : q.attributeValues = ps.filterMap attributeFilter?
  attributeNames : q.attributeNames = (lastNamed "attributeNames" ps).map Parameter.values

/-- A query asks for what the parameters of a list say, apart from their number. -/
structure MasterDataQuery.Asks (q : MasterDataQuery) (ps : List Parameter) : Prop extends
    q.Restricts ps where
  includeAttributes : lastRead flag "includeAttributes" ps = some q.includeAttributes
  includeChildren : lastRead flag "includeChildren" ps = some q.includeChildren

namespace MasterDataDraft

variable {d : MasterDataDraft} {ps : List Parameter}

/-- A draft says what the parameters of a list say. -/
structure Says (d : MasterDataDraft) (ps : List Parameter) : Prop where
  restricts : d.query.Restricts ps
  includeAttributes : d.includeAttributes = lastRead flag "includeAttributes" ps
  includeChildren : d.includeChildren = lastRead flag "includeChildren" ps
  maxCount : d.maxCount = lastRead count "maxElementCount" ps
  limit : d.query.limit = none

theorem says_start : start.Says [] where
  restricts := ⟨rfl, rfl, rfl, rfl, rfl, rfl⟩
  includeAttributes := rfl
  includeChildren := rfl
  maxCount := rfl
  limit := rfl

/-- **A clause adds to a draft what its parameter says.** -/
theorem Says.add {p : Parameter} {c : ElementClause} (h : d.Says ps)
    (hc : p.elementClause = .ok c) : (d.add c).Says (ps ++ [p]) := by
  obtain ⟨⟨hvocabularies, hids, hwithin, hpresent, hvalues, hnames⟩, hattributes, hchildren, hcount,
    hlimit⟩ := h
  unfold elementClause at hc
  split at hc
  -- the parameters that are taken as they are
  case h_1 hname | h_4 hname | h_5 hname | h_6 hname | h_7 hname =>
    obtain rfl := Except.ok.inj hc
    have hfilter : p.attributeFilter? = none := by rw [attributeFilter?, hname]; rfl
    constructor
    · constructor <;> simp [MasterDataDraft.add, *]
    all_goals simp [MasterDataDraft.add, *]
  -- the parameters that are read as flags or as a count
  case h_2 hname | h_3 hname | h_8 hname =>
    obtain ⟨b, hb, rfl⟩ := map_eq_ok_iff.1 hc
    have hfilter : p.attributeFilter? = none := by rw [attributeFilter?, hname]; rfl
    constructor
    · constructor <;> simp [MasterDataDraft.add, *]
    all_goals simp [MasterDataDraft.add, Except.toOption, *]
  -- the value filters on attributes
  case h_9 =>
    split at hc
    · next c cs hrest =>
      obtain rfl := Except.ok.inj hc
      have hfilter : p.attributeFilter? = some (String.ofList (c :: cs), p.values) := by
        rw [attributeFilter?, hrest]
      constructor
      · constructor <;> simp_all [MasterDataDraft.add]
      all_goals simp_all [MasterDataDraft.add]
    · exact absurd hc (by simp)

theorem Says.foldl {qs : List Parameter} {cs : List ElementClause} (h : d.Says ps)
    (hcs : qs.mapM elementClause = .ok cs) : (cs.foldl MasterDataDraft.add d).Says (ps ++ qs) := by
  induction qs generalizing d ps cs with
  | nil =>
    obtain rfl := Except.ok.inj hcs
    rwa [List.append_nil]
  | cons p qs ih =>
    obtain ⟨c, rest, hc, hrest, rfl⟩ := mapM_cons_eq_ok_iff.1 hcs
    rw [List.foldl_cons, List.append_cons]
    exact ih (h.add hc) hrest

end MasterDataDraft

/-- **What the plan of a list asks for.**  Where there is a greatest count, it asks for one element
more. -/
theorem MasterDataPlan.asks {ps : List Parameter} {plan : MasterDataPlan}
    (h : ofParameters ps = .ok plan) :
    plan.query.Asks ps ∧ plan.maxCount = lastRead count "maxElementCount" ps ∧
      plan.query.limit = plan.maxCount.map (· + 1) := by
  obtain ⟨cs, hcs, hfinish⟩ := bind_eq_ok_iff.1 h
  have hsays := MasterDataDraft.says_start.foldl hcs
  rw [List.nil_append] at hsays
  obtain ⟨hrestricts, hattributes, hchildren, hcount, hlimit⟩ := hsays
  unfold MasterDataDraft.finish at hfinish
  split at hfinish
  · next attributes children ha hc =>
    rw [hattributes] at ha
    rw [hchildren] at hc
    obtain ⟨hvocabularies, hids, hwithin, hpresent, hvalues, hnames⟩ := hrestricts
    split at hfinish
    · next hnone =>
      obtain rfl := Except.ok.inj hfinish
      exact ⟨⟨⟨hvocabularies, hids, hwithin, hpresent, hvalues, hnames⟩, ha, hc⟩,
        hnone.symm.trans hcount, hlimit⟩
    · next n hsome =>
      obtain ⟨limit, hprobe, hfinish⟩ := bind_eq_ok_iff.1 hfinish
      obtain rfl := Except.ok.inj hfinish
      exact ⟨⟨⟨hvocabularies, hids, hwithin, hpresent, hvalues, hnames⟩, ha, hc⟩,
        hsome.symm.trans hcount, congrArg some (EventPlan.eq_of_probeLimit hprobe)⟩
  · exact absurd hfinish (by simp)

/-- The plan of a list that sets no greatest count sets no limit. -/
theorem MasterDataPlan.limit_eq_none {ps : List Parameter} {plan : MasterDataPlan}
    (h : ofParameters ps = .ok plan) (hps : ∀ p ∈ ps, p.name ≠ "maxElementCount") :
    plan.query.limit = none ∧ plan.maxCount = none := by
  obtain ⟨-, hcount, hlimit⟩ := asks h
  have hmax : plan.maxCount = none := hcount.trans (lastRead_of_unnamed hps)
  exact ⟨by rw [hlimit, hmax]; rfl, hmax⟩

/-! ### A greatest count -/

namespace MasterDataDraft

variable {d : MasterDataDraft} {n : Nat}

/-- A draft with a greatest count. -/
def counted (d : MasterDataDraft) (n : Nat) : MasterDataDraft := { d with maxCount := some n }

/-- A greatest count stays as clauses on other matters are added. -/
theorem foldl_counted {cs : List ElementClause} (hcs : ∀ c ∈ cs, ∀ m, c ≠ .maxCount m) :
    cs.foldl add (d.counted n) = (cs.foldl add d).counted n := by
  induction cs generalizing d with
  | nil => rfl
  | cons c cs ih =>
    have hadd : (d.counted n).add c = (d.add c).counted n := by
      cases c with
      | maxCount m => exact absurd rfl (hcs _ List.mem_cons_self m)
      | _ => rfl
    rw [List.foldl_cons, List.foldl_cons, hadd]
    exact ih fun c' hc' => hcs c' (List.mem_cons_of_mem _ hc')

/-- A plan with a greatest count asks for one element more. -/
theorem finish_counted {plan : MasterDataPlan} (h : d.finish = .ok plan)
    (hnone : plan.maxCount = none) (hmax : n < Text.maxWord64) :
    (d.counted n).finish = .ok ⟨{ plan.query with limit := some (n + 1) }, some n⟩ := by
  have hprobe : probeLimit "maxElementCount" n = .ok (n + 1) := if_pos hmax
  obtain ⟨query, attributes?, children?, count?⟩ := d
  simp only [finish] at h
  split at h
  · split at h
    · obtain rfl := Except.ok.inj h
      simp only [counted, finish, hprobe]
      rfl
    · obtain ⟨limit, -, h⟩ := bind_eq_ok_iff.1 h
      obtain rfl := Except.ok.inj h
      exact absurd hnone (by simp)
  · exact absurd h (by simp)

end MasterDataDraft

/-- Only one parameter gives a greatest count of elements. -/
theorem Parameter.elementClause_ne_maxCount {p : Parameter} {c : ElementClause}
    (h : p.elementClause = .ok c) (hname : p.name ≠ "maxElementCount") (m : Nat) :
    c ≠ .maxCount m := by
  rintro rfl
  unfold elementClause at h
  split at h
  case h_8 hp => exact hname hp
  case h_9 => split at h <;> exact absurd h (by simp)
  case h_2 | h_3 =>
    obtain ⟨_, -, h⟩ := map_eq_ok_iff.1 h
    exact absurd h (by simp)
  all_goals exact absurd h (by simp)

/-- The parameter that refuses an answer. -/
theorem Parameter.elementClause_of_maxCount {p : Parameter} {n : Nat}
    (hname : p.name = "maxElementCount") (h : p.count = .ok n) :
    p.elementClause = .ok (.maxCount n) := by
  obtain ⟨name, values⟩ := p
  obtain rfl : name = "maxElementCount" := hname
  simp only [elementClause, h]
  rfl

/-- **What a greatest count adds to a plan**: nothing but the count. -/
theorem MasterDataPlan.ofParameters_insert {front back : List Parameter} {p : Parameter}
    {plan : MasterDataPlan} {n : Nat} (h : ofParameters (front ++ back) = .ok plan)
    (hps : ∀ q ∈ front ++ back, q.name ≠ "maxElementCount") (hname : p.name = "maxElementCount")
    (hcount : p.count = .ok n) (hmax : n < Text.maxWord64) :
    ofParameters (front ++ p :: back) =
      .ok ⟨{ plan.query with limit := some (n + 1) }, some n⟩ := by
  obtain ⟨cs, hcs, hfinish⟩ := bind_eq_ok_iff.1 h
  have hread := exists_mapM_iff.1 ⟨cs, hcs⟩
  obtain ⟨cs₁, hcs₁⟩ := exists_mapM_iff.2 fun q hq => hread q (List.mem_append_left back hq)
  obtain ⟨cs₂, hcs₂⟩ := exists_mapM_iff.2 fun q hq => hread q (List.mem_append_right front hq)
  obtain rfl : cs = cs₁ ++ cs₂ :=
    Except.ok.inj (hcs.symm.trans (mapM_append_eq_ok hcs₁ hcs₂))
  have hclause : p.elementClause = .ok (.maxCount n) := elementClause_of_maxCount hname hcount
  have hclauses : (front ++ p :: back).mapM elementClause = .ok (cs₁ ++ .maxCount n :: cs₂) :=
    mapM_append_eq_ok hcs₁ (mapM_cons_eq_ok_iff.2 ⟨_, _, hclause, hcs₂, rfl⟩)
  -- of what follows the count, nothing is a count
  have hothers : ∀ c ∈ cs₂, ∀ m, c ≠ .maxCount m := by
    intro c hc
    obtain ⟨q, hq, hclause⟩ := exists_of_mem_mapM hcs₂ hc
    exact elementClause_ne_maxCount hclause (hps q (List.mem_append_right _ hq))
  have hdraft : (cs₁ ++ .maxCount n :: cs₂).foldl MasterDataDraft.add MasterDataDraft.start =
      ((cs₁ ++ cs₂).foldl MasterDataDraft.add MasterDataDraft.start).counted n := by
    rw [List.foldl_append, List.foldl_append, List.foldl_cons]
    exact MasterDataDraft.foldl_counted hothers
  refine bind_eq_ok_iff.2 ⟨_, hclauses, ?_⟩
  rw [hdraft]
  exact MasterDataDraft.finish_counted hfinish (limit_eq_none h hps).2 hmax

end Provenance
