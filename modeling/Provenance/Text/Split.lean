/-!
# Cutting a text at a separator

The three ways in which names and lists are cut: at every separator, at the first one and at the
last one, and the removal of a fixed word in front.

## Main definitions

* `splitAll` — the pieces between all occurrences of a character.
* `splitFirst`, `splitLast` — the two pieces around the first, the last occurrence.
* `dropWord` — what follows a fixed word.
-/

namespace Provenance.Text

/-- The pieces between the separators; there is one more of them than there are separators. -/
def splitAll (sep : Char) : List Char → List (List Char)
  | [] => [[]]
  | c :: cs =>
    if c = sep then [] :: splitAll sep cs
    else match splitAll sep cs with
      | [] => [[c]]
      | piece :: pieces => (c :: piece) :: pieces

/-- What stands before and after the first separator. -/
def splitFirst (sep : Char) : List Char → Option (List Char × List Char)
  | [] => none
  | c :: cs =>
    if c = sep then some ([], cs)
    else (splitFirst sep cs).map fun (before, after) => (c :: before, after)

/-- What stands before and after the last separator. -/
def splitLast (sep : Char) (cs : List Char) : Option (List Char × List Char) :=
  (splitFirst sep cs.reverse).map fun (after, before) => (before.reverse, after.reverse)

/-- What follows `word`, if the text begins with it. -/
def dropWord : List Char → List Char → Option (List Char)
  | [], cs => some cs
  | _ :: _, [] => none
  | w :: ws, c :: cs => if w = c then dropWord ws cs else none

@[simp] theorem splitAll_nil (sep : Char) : splitAll sep [] = [[]] := rfl

theorem splitAll_ne_nil (sep : Char) (cs : List Char) : splitAll sep cs ≠ [] := by
  cases cs with
  | nil => simp
  | cons c cs =>
    unfold splitAll
    split
    · simp
    · split <;> simp

@[simp] theorem dropWord_nil (cs : List Char) : dropWord [] cs = some cs := by
  cases cs <;> rfl

@[simp] theorem dropWord_append (word cs : List Char) : dropWord word (word ++ cs) = some cs := by
  induction word with
  | nil => simp
  | cons w ws ih => simp [dropWord, ih]

/-- What `dropWord` leaves is the text less the word. -/
theorem eq_append_of_dropWord {word cs rest : List Char} (h : dropWord word cs = some rest) :
    cs = word ++ rest := by
  induction word generalizing cs with
  | nil => simpa using h
  | cons w ws ih =>
    cases cs with
    | nil => simp [dropWord] at h
    | cons c cs =>
      simp only [dropWord] at h
      split at h
      · next heq => simp [heq, ih h]
      · simp at h

/-- The first cut: no separator before it, and nothing is lost. -/
theorem splitFirst_eq_some_iff {sep : Char} {cs before after : List Char} :
    splitFirst sep cs = some (before, after) ↔
      cs = before ++ sep :: after ∧ sep ∉ before := by
  induction cs generalizing before with
  | nil => simp [splitFirst]
  | cons c cs ih =>
    simp only [splitFirst]
    split
    · next h =>
      subst h
      cases before with
      | nil => simp [eq_comm]
      | cons b bs => simp; intro h₁ h₂; simp [h₁]
    · next h =>
      cases before with
      | nil => simp [h]
      | cons b bs =>
        simp only [Option.map_eq_some_iff, Prod.mk.injEq, Prod.exists, List.cons.injEq,
          List.cons_append, List.mem_cons, not_or]
        constructor
        · rintro ⟨x, y, hxy, ⟨rfl, rfl⟩, rfl⟩
          obtain ⟨h₁, h₂⟩ := ih.1 hxy
          exact ⟨⟨rfl, h₁⟩, fun h' => h h'.symm, h₂⟩
        · rintro ⟨⟨rfl, h₁⟩, _, h₂⟩
          exact ⟨bs, after, ih.2 ⟨h₁, h₂⟩, ⟨rfl, rfl⟩, rfl⟩

end Provenance.Text
