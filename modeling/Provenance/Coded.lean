/-!
# Codes

Several kinds of things in an event are one of a few named cases, and each case has a code by which
it is stored and named in parameters.

## Main definitions

* `Coded` — a type with a list of all its cases and a code for each.
* `Coded.ofCode` — the case with a given code.
* `Coded.ofCode_code` — reading the code of a case gives the case back.
-/

namespace Provenance

/-- A type of finitely many cases with a code for each, no two alike. -/
class Coded (α : Type) where
  /-- All cases. -/
  all : List α
  /-- The code of a case. -/
  code : α → String
  mem_all : ∀ a, a ∈ all
  code_injective : ∀ a b, code a = code b → a = b

namespace Coded

variable {α : Type} [Coded α]

/-- The case with the given code. -/
def ofCode (s : String) : Option α := (all : List α).find? fun a => code a == s

/-- A code belongs to the case that has it. -/
theorem code_of_ofCode {s : String} {a : α} (h : ofCode s = some a) : code a = s := by
  have := List.find?_some h
  simpa using this

/-- Reading the code of a case gives the case back. -/
@[simp] theorem ofCode_code (a : α) : ofCode (code a) = some a := by
  unfold ofCode
  cases h : (all : List α).find? fun b => code b == code a with
  | none => simpa using List.find?_eq_none.1 h a (mem_all a)
  | some b =>
    have hb : code b = code a := by simpa using List.find?_some h
    rw [code_injective b a hb]

/-- Exactly the codes of cases are read. -/
theorem ofCode_eq_some_iff {s : String} {a : α} : ofCode s = some a ↔ s = code a :=
  ⟨fun h => (code_of_ofCode h).symm, fun h => h ▸ ofCode_code a⟩

end Coded

end Provenance
