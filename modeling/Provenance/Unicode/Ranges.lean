/-!
# Tables of characters

A set of characters is written down as a list of ranges of code points.

## Main definitions

* `Ranges`, `Ranges.has` — the characters of a list of ranges.
* `Ranges.hasAlternate` — every second character of a list of ranges.
-/

namespace Provenance.Unicode

/-- The first and the last code point of each range. -/
abbrev Ranges := List (Nat × Nat)

/-- Whether a character lies in one of the ranges. -/
def Ranges.has (rs : Ranges) (c : Char) : Bool :=
  rs.any fun (first, last) => first ≤ c.toNat && c.toNat ≤ last

/-- Whether a character is the first one of a range, or lies in it an even number of places behind
that one. -/
def Ranges.hasAlternate (rs : Ranges) (c : Char) : Bool :=
  rs.any fun (first, last) => first ≤ c.toNat && c.toNat ≤ last && (c.toNat - first) % 2 == 0

theorem Ranges.has_eq_true_iff {rs : Ranges} {c : Char} :
    rs.has c = true ↔ ∃ r ∈ rs, r.1 ≤ c.toNat ∧ c.toNat ≤ r.2 := by
  simp [Ranges.has]

@[simp] theorem Ranges.has_nil (c : Char) : Ranges.has [] c = false := rfl

end Provenance.Unicode
