import Provenance.Store.Basic

/-!
# Current master data and its hierarchy

An element of a vocabulary can be captured many times, and only its latest capture counts: the one
with the greatest request number and, inside of a request, the greatest place.  Links from an
element to its children count only if the latest capture of the element has them.  The descendants
of ids are found by following links round after round, until a round finds nothing new; there cannot
be more rounds than links.

## Main definitions

* `Store.isCurrent`, `Store.currentElements`, `Store.currentLinks` — what counts.
* `reachable` — ids and what links lead to from them.
* `Store.descendants` — ids and their descendants in the current hierarchy.
-/

namespace Provenance

namespace Store

/-- Whether no later capture of an element than the one at a place in a request is there. -/
def isCurrent (s : Store) (vocabulary id : String) (request : Int) (index : Cell) : Bool :=
  !s.elements.any fun newer =>
    newer.vocabulary == vocabulary && newer.id == id &&
      (request < newer.request ||
        (newer.request == request && newer.index.order index == some .gt))

/-- The latest captures of all elements. -/
def currentElements (s : Store) : List ElementRow :=
  s.elements.filter fun m => s.isCurrent m.vocabulary m.id m.request m.index

/-- The links of the latest captures; with a vocabulary, its links only. -/
def currentLinks (s : Store) (vocabulary : Option String) : List LinkRow :=
  s.links.filter fun l =>
    s.isCurrent l.vocabulary l.parent l.request l.element &&
      match vocabulary with
      | some v => l.vocabulary == v
      | none => true

end Store

/-- The ends of the links that begin at an id seen and lead to one not yet seen. -/
def freshEnds (links : List (String × String)) (seen : List String) : List String :=
  ((links.filter fun (parent, child) => seen.contains parent && !seen.contains child).map
    Prod.snd).eraseDups

/-- Follows links for a number of rounds, or until a round finds nothing new. -/
def follow (links : List (String × String)) : Nat → List String → List String
  | 0, seen => seen
  | n + 1, seen =>
    match freshEnds links seen with
    | [] => seen
    | fresh => follow links n (seen ++ fresh)

/-- Ids and everything that links lead to from them. -/
def reachable (links : List (String × String)) (ids : List String) : List String :=
  follow links links.length ids

/-- Ids and their descendants in the current hierarchy. -/
def Store.descendants (s : Store) (vocabulary : Option String) (ids : List String) :
    List String :=
  reachable ((s.currentLinks vocabulary).map fun l => (l.parent, l.child)) ids

end Provenance
