import Provenance.Proofs.MasterData.Hierarchy

/-!
# Collecting descendants

The recursion that collects descendants keeps a list of ids.  Again and again it takes a link from
an id of the list to one that is not in it, and adds that one at the end.  Nothing says which link
is taken first: a queue takes the links of the oldest ids, and the store takes all links of a round.

Whichever it takes, there is an end to it, since each id that is added leaves fewer links to ids
that are not in the list; also where links run in circles, or from an id to itself.  And all lists
in which nothing more can be added have the same members: what chains of links lead to.

## Main definitions

* `Discovers` — one id is added to a list.
* `Collects` — ids are added to a list until nothing more can be added.
* `Store.family` — the links of a store, as pairs of ids.

## Main results

* `wellFounded_discovers` — **collecting comes to an end.**
* `Collects.mem_iff` — **what is collected does not depend on the order.**
* `collects_reachable` — the rounds of the store collect.
* `Store.Journal.mem_iff_of_collects` — what is collected along the links of a store.
-/

namespace Provenance

variable {links : List (String × String)} {seen after ids found : List String} {x : String}

/-- One id is added to a list, to which a link leads from an id in the list. -/
def Discovers (links : List (String × String)) (seen after : List String) : Prop :=
  ∃ x, x ∉ seen ∧ (∃ p ∈ seen, (p, x) ∈ links) ∧ after = seen ++ [x]

/-- Ids are added to a list until nothing more can be added. -/
structure Collects (links : List (String × String)) (ids found : List String) : Prop where
  steps : Relation.ReflTransGen (Discovers links) ids found
  finished : ∀ after, ¬Discovers links found after

/-! ### The end of a collection -/

theorem Discovers.unseen_lt (h : Discovers links seen after) :
    unseen links after < unseen links seen := by
  obtain ⟨x, hx, ⟨p, -, hlink⟩, rfl⟩ := h
  exact unseen_append_lt hx hlink (List.mem_singleton_self x)

/-- **Collecting comes to an end**, whichever links are taken first. -/
theorem wellFounded_discovers (links : List (String × String)) :
    WellFounded fun after seen => Discovers links seen after :=
  Subrelation.wf Discovers.unseen_lt (measure (unseen links)).wf

/-- A list to which nothing can be added is closed under links. -/
theorem mem_of_link {p : String} (hend : ∀ after, ¬Discovers links seen after) (hp : p ∈ seen)
    (hlink : (p, x) ∈ links) : x ∈ seen := by
  by_contra hx
  exact hend _ ⟨x, hx, ⟨p, hp, hlink⟩, rfl⟩

/-- What was added is at the end of a chain of links. -/
theorem exists_chain_of_mem (h : Relation.ReflTransGen (Discovers links) ids found)
    (hx : x ∈ found) : ∃ id ∈ ids, Relation.ReflTransGen (fun p c => (p, c) ∈ links) id x := by
  induction h generalizing x with
  | refl => exact ⟨x, hx, .refl⟩
  | tail _ hstep ih =>
    obtain ⟨y, -, ⟨p, hp, hlink⟩, rfl⟩ := hstep
    rcases List.mem_append.1 hx with hx | hx
    · exact ih hx
    · obtain rfl := List.mem_singleton.1 hx
      obtain ⟨id, hid, hchain⟩ := ih hp
      exact ⟨id, hid, hchain.tail hlink⟩

theorem subset_of_steps (h : Relation.ReflTransGen (Discovers links) ids found) : ids ⊆ found := by
  induction h with
  | refl => exact List.Subset.refl _
  | tail _ hstep ih =>
    obtain ⟨y, -, -, rfl⟩ := hstep
    exact fun z hz => List.mem_append_left _ (ih hz)

/-- **What is collected does not depend on the order** in which links are taken: it is what chains
of links lead to. -/
theorem Collects.mem_iff (h : Collects links ids found) :
    x ∈ found ↔ ∃ id ∈ ids, Relation.ReflTransGen (fun p c => (p, c) ∈ links) id x := by
  constructor
  · exact exists_chain_of_mem h.steps
  · rintro ⟨id, hid, hchain⟩
    induction hchain with
    | refl => exact subset_of_steps h.steps hid
    | tail _ hlink ih => exact mem_of_link h.finished ih hlink

/-! ### The rounds of the store -/

theorem nodup_eraseDups {α : Type} [DecidableEq α] (as : List α) : as.eraseDups.Nodup := by
  induction hn : as.length using Nat.strongRecOn generalizing as with
  | ind n ih =>
    cases as with
    | nil => exact List.nodup_nil
    | cons a as =>
      rw [List.eraseDups_cons, List.nodup_cons]
      constructor
      · rw [List.mem_eraseDups, List.mem_filter]
        simp
      · have hshorter : (as.filter fun b => !b == a).length < n := by
          have := List.length_filter_le (fun b => !b == a) as
          rw [List.length_cons] at hn
          omega
        exact ih _ hshorter _ rfl

/-- What a round finds is added one by one. -/
theorem steps_append {new : List String} (hnodup : new.Nodup)
    (hnew : ∀ x ∈ new, x ∉ seen ∧ ∃ p ∈ seen, (p, x) ∈ links) :
    Relation.ReflTransGen (Discovers links) seen (seen ++ new) := by
  induction new generalizing seen with
  | nil =>
    rw [List.append_nil]
  | cons x new ih =>
    obtain ⟨hx, hnodup⟩ := List.nodup_cons.1 hnodup
    obtain ⟨hunseen, hlink⟩ := hnew x List.mem_cons_self
    rw [List.append_cons]
    refine .head ⟨x, hunseen, hlink, rfl⟩ (ih hnodup fun y hy => ?_)
    -- the rest of the round is still to be found
    obtain ⟨hyunseen, p, hp, hylink⟩ := hnew y (List.mem_cons_of_mem x hy)
    refine ⟨fun hmem => ?_, p, List.mem_append_left _ hp, hylink⟩
    rcases List.mem_append.1 hmem with hmem | hmem
    · exact hyunseen hmem
    · exact hx (List.mem_singleton.1 hmem ▸ hy)

theorem steps_follow (n : Nat) :
    Relation.ReflTransGen (Discovers links) seen (follow links n seen) := by
  fun_induction follow links n seen with
  | case1 => exact .refl
  | case2 => exact .refl
  | case3 n seen _ ih =>
    have hround : Relation.ReflTransGen (Discovers links) seen (seen ++ freshEnds links seen) :=
      steps_append (nodup_eraseDups _) fun x hx => mem_freshEnds_iff.1 hx
    exact hround.trans ih

/-- **The rounds of the store collect**: they add one id after the other, until there is nothing
more to add. -/
theorem collects_reachable (links : List (String × String)) (ids : List String) :
    Collects links ids (reachable links ids) where
  steps := steps_follow links.length
  finished := by
    rintro _ ⟨x, hx, ⟨p, hp, hlink⟩, rfl⟩
    have hrounds : unseen links ids ≤ links.length := List.length_filter_le _ _
    exact hx (mem_follow_of_link hrounds hp hlink)

/-! ### The links of a store -/

/-- The links of the latest captures, from parent to child; with a vocabulary, its links only. -/
def Store.family (s : Store) (vocabulary : Option String) : List (String × String) :=
  (s.currentLinks vocabulary).map fun l => (l.parent, l.child)

theorem Store.collects_descendants (s : Store) (vocabulary : Option String) (ids : List String) :
    Collects (s.family vocabulary) ids (s.descendants vocabulary ids) :=
  collects_reachable _ _

/-- What is collected along the links of a store are the ids and their descendants. -/
theorem Store.Journal.mem_iff_of_collects {s : Store} {cs : List Captured} (h : s.Journal cs)
    {vocabulary : Option String} (hfound : Collects (s.family vocabulary) ids found) :
    x ∈ found ↔ DescendsFrom cs vocabulary ids x := by
  rw [hfound.mem_iff, ← (s.collects_descendants vocabulary ids).mem_iff]
  exact h.mem_descendants_iff

end Provenance
