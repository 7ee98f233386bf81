import Mathlib.Logic.Relation
import Provenance.Proofs.MasterData.Recorded

/-!
# The hierarchy of master data

Links are followed round after round.  A round that finds something new leaves fewer links to ids
that were not seen, so there are enough rounds, and what is found in the end is closed under links.
So it is what a chain of links leads to, also where links run in circles.

The links that count are those of the latest recordings, so a new recording of an element cuts off
the children that it does not name any more, and all that hangs on them.

## Main definitions

* `unseen` — how many links lead to ids that were not seen.
* `Links` — one id names another one as its child, in a latest recording.
* `DescendsFrom` — an id is one of some ids, or links lead to it from one of them.

## Main results

* `mem_reachable_iff` — **following links finds what chains of links lead to.**
* `Store.Journal.mem_descendants_iff` — the descendants that the store finds.
-/

namespace Provenance

/-! ### Following links -/

section Rounds

variable {links : List (String × String)} {seen : List String} {x : String}

/-- The ends that are new after a round. -/
theorem mem_freshEnds_iff :
    x ∈ freshEnds links seen ↔ x ∉ seen ∧ ∃ p ∈ seen, (p, x) ∈ links := by
  simp only [freshEnds, List.mem_eraseDups, List.mem_map, List.mem_filter, Bool.and_eq_true,
    List.contains_iff_mem, Bool.not_eq_true', Bool.eq_false_iff, ne_eq]
  constructor
  · rintro ⟨⟨p, c⟩, ⟨hlink, hp, hc⟩, rfl⟩
    exact ⟨hc, p, hp, hlink⟩
  · rintro ⟨hx, p, hp, hlink⟩
    exact ⟨(p, x), ⟨hlink, hp, hx⟩, rfl⟩

theorem subset_follow (n : Nat) : seen ⊆ follow links n seen := by
  fun_induction follow links n seen with
  | case1 => exact List.Subset.refl _
  | case2 => exact List.Subset.refl _
  | case3 n seen _ ih => exact fun y hy => ih (List.mem_append_left _ hy)

/-- What is found was seen in the beginning, or a chain of links leads to it. -/
theorem exists_of_mem_follow {n : Nat} (h : x ∈ follow links n seen) :
    ∃ id ∈ seen, Relation.ReflTransGen (fun p c => (p, c) ∈ links) id x := by
  fun_induction follow links n seen with
  | case1 => exact ⟨x, h, .refl⟩
  | case2 => exact ⟨x, h, .refl⟩
  | case3 n seen _ ih =>
    obtain ⟨id, hid, hchain⟩ := ih h
    rcases List.mem_append.1 hid with hid | hid
    · exact ⟨id, hid, hchain⟩
    · -- what the round found is at the end of a link
      obtain ⟨-, p, hp, hlink⟩ := mem_freshEnds_iff.1 hid
      exact ⟨p, hp, .head hlink hchain⟩

/-- How many links lead to ids that were not seen. -/
def unseen (links : List (String × String)) (seen : List String) : Nat :=
  (links.filter fun l => !seen.contains l.2).length

/-- What is found at the end of a link leaves fewer links to ids that were not seen. -/
theorem unseen_append_lt {p : String} {new : List String} (hx : x ∉ seen) (hlink : (p, x) ∈ links)
    (hnew : x ∈ new) : unseen links (seen ++ new) < unseen links seen := by
  have hfewer : (links.filter fun l => !(seen ++ new).contains l.2) =
      (links.filter fun l => !seen.contains l.2).filter fun l => !new.contains l.2 := by
    rw [List.filter_filter]
    refine List.filter_congr fun l _ => ?_
    rw [List.contains_append, Bool.not_or, Bool.and_comm]
  rw [unseen, hfewer, unseen, List.length_filter_lt_length_iff_exists]
  exact ⟨(p, x), List.mem_filter.2 ⟨hlink, by simpa using hx⟩, by simpa using hnew⟩

/-- **With enough rounds, what is found is closed under links.** -/
theorem mem_follow_of_link {n : Nat} (hn : unseen links seen ≤ n) {p : String}
    (hp : p ∈ follow links n seen) (hlink : (p, x) ∈ links) : x ∈ follow links n seen := by
  fun_induction follow links n seen with
  | case1 seen =>
    -- no link leads to anything new
    have hnone : (links.filter fun l => !seen.contains l.2) = [] :=
      List.length_eq_zero_iff.1 (Nat.le_zero.1 hn)
    simpa using List.filter_eq_nil_iff.1 hnone _ hlink
  | case2 n seen hfresh =>
    by_contra hx
    have : x ∈ freshEnds links seen := mem_freshEnds_iff.2 ⟨hx, p, hp, hlink⟩
    rw [hfresh] at this
    exact absurd this List.not_mem_nil
  | case3 n seen hfresh ih =>
    obtain ⟨y, hy⟩ := List.exists_mem_of_ne_nil _ hfresh
    obtain ⟨hunseen, q, -, hfound⟩ := mem_freshEnds_iff.1 hy
    have hless := unseen_append_lt hunseen hfound hy
    exact ih (by omega) hp

/-- **Following links finds what chains of links lead to.** -/
theorem mem_reachable_iff {ids : List String} :
    x ∈ reachable links ids ↔
      ∃ id ∈ ids, Relation.ReflTransGen (fun p c => (p, c) ∈ links) id x := by
  constructor
  · exact exists_of_mem_follow
  · rintro ⟨id, hid, hchain⟩
    have hrounds : unseen links ids ≤ links.length := List.length_filter_le _ _
    induction hchain with
    | refl => exact subset_follow _ hid
    | tail _ hlink ih => exact mem_follow_of_link hrounds ih hlink

end Rounds

/-! ### The links that count -/

/-- One id names another one as its child in a latest recording, of a given vocabulary where there
is one. -/
def Links (cs : List Captured) (vocabulary : Option String) (p c : String) : Prop :=
  ∃ x : RecordedElement, x.IsLatest cs ∧ (∀ v ∈ vocabulary, x.element.vocabulary = v) ∧
    x.element.id = p ∧ c ∈ x.element.children

/-- An id is one of some ids, or a chain of links leads to it from one of them. -/
def DescendsFrom (cs : List Captured) (vocabulary : Option String) (ids : List String)
    (x : String) : Prop :=
  ∃ id ∈ ids, Relation.ReflTransGen (Links cs vocabulary) id x

namespace Store.Journal

variable {s : Store} {cs : List Captured}

/-- **The current links are those of the latest recordings.** -/
theorem mem_currentLinks_iff (h : s.Journal cs) {vocabulary : Option String} {p c : String} :
    (p, c) ∈ (s.currentLinks vocabulary).map (fun l => (l.parent, l.child)) ↔
      Links cs vocabulary p c := by
  have hlinks : s.links = (recordedElements cs).flatMap fun x => x.rows .links :=
    h.rows_eq_flatMap_elements (t := .links) rfl
  have hcurrent (l : LinkRow) : l ∈ s.currentLinks vocabulary ↔
      (∃ x ∈ recordedElements cs, l ∈ x.rows .links) ∧
        s.isCurrent l.vocabulary l.parent l.request l.element = true ∧
          ∀ v ∈ vocabulary, l.vocabulary = v := by
    rw [currentLinks, List.mem_filter, hlinks, List.mem_flatMap, Bool.and_eq_true]
    cases vocabulary <;> simp
  simp only [List.mem_map, hcurrent, Prod.mk.injEq]
  constructor
  · rintro ⟨l, ⟨⟨x, hx, hl⟩, hlatest, hv⟩, rfl, rfl⟩
    obtain ⟨q, hq, rfl⟩ := List.mem_map.1 hl
    refine ⟨x, (h.isCurrent_iff hx).1 hlatest, hv, rfl, ?_⟩
    rw [← map_snd_numbered 0 x.element.children]
    exact List.mem_map_of_mem hq
  · rintro ⟨x, hx, hv, rfl, hc⟩
    rw [← map_snd_numbered 0 x.element.children] at hc
    obtain ⟨q, hq, rfl⟩ := List.mem_map.1 hc
    exact ⟨_, ⟨⟨x, hx.mem, List.mem_map_of_mem hq⟩, (h.isCurrent_iff hx.mem).2 hx, hv⟩, rfl, rfl⟩

/-- **The descendants that the store finds.** -/
theorem mem_descendants_iff (h : s.Journal cs) {vocabulary : Option String} {ids : List String}
    {x : String} : x ∈ s.descendants vocabulary ids ↔ DescendsFrom cs vocabulary ids x := by
  have hlinks : (fun p c => (p, c) ∈ (s.currentLinks vocabulary).map fun l => (l.parent, l.child)) =
      Links cs vocabulary := by
    funext p c
    exact propext h.mem_currentLinks_iff
  rw [descendants, mem_reachable_iff, hlinks, DescendsFrom]

end Store.Journal

end Provenance
