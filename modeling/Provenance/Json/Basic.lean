import Provenance.Number.Binary64

/-!
# JSON values

A number written with digits only is a whole number, and any other number is a double.  An object
keeps its members as they were written; of several with one name the last one counts.

## Main definitions

* `Json` — values.
* `Json.members?`, `Json.member?` — looking into objects.
-/

namespace Provenance

/-- A JSON value. -/
inductive Json
  | null
  | bool (b : Bool)
  | integer (n : Int)
  | decimal (x : Binary64)
  | string (s : String)
  | array (values : List Json)
  | object (members : List (String × Json))
  deriving Inhabited

namespace Json

/-- The last member of a name. -/
def lookUp (name : String) : List (String × Json) → Option Json
  | [] => none
  | (n, v) :: ms =>
    match lookUp name ms with
    | some w => some w
    | none => if n = name then some v else none

/-- The members of an object. -/
def members? : Json → Option (List (String × Json))
  | object ms => some ms
  | _ => none

/-- The member of a name, if the value is an object that has one. -/
def member? (j : Json) (name : String) : Option Json := j.members?.bind (lookUp name)

/-- The values of an array. -/
def values? : Json → Option (List Json)
  | array vs => some vs
  | _ => none

theorem sizeOf_lt_of_lookUp {name : String} {ms : List (String × Json)} {v : Json}
    (h : lookUp name ms = some v) : sizeOf v < sizeOf ms := by
  induction ms with
  | nil => simp [lookUp] at h
  | cons m ms ih =>
    obtain ⟨n, w⟩ := m
    simp only [lookUp] at h
    split at h
    · next u hu =>
      have := ih (hu.trans h)
      simp only [List.cons.sizeOf_spec]
      omega
    · split at h
      · obtain rfl := Option.some.inj h
        simp only [List.cons.sizeOf_spec, Prod.mk.sizeOf_spec]
        omega
      · simp at h

/-- What is found by name is among the members. -/
theorem mem_of_lookUp {name : String} {ms : List (String × Json)} {v : Json}
    (h : lookUp name ms = some v) : ∃ n, (n, v) ∈ ms := by
  induction ms with
  | nil => simp [lookUp] at h
  | cons m ms ih =>
    obtain ⟨n, w⟩ := m
    simp only [lookUp] at h
    split at h
    · next u hu =>
      obtain ⟨k, hk⟩ := ih (hu.trans h)
      exact ⟨k, List.mem_cons_of_mem _ hk⟩
    · split at h
      · obtain rfl := Option.some.inj h
        exact ⟨n, List.mem_cons_self⟩
      · simp at h

/-- A member is smaller than the object that it is in. -/
theorem sizeOf_lt_of_member? {j v : Json} {name : String} (h : j.member? name = some v) :
    sizeOf v < sizeOf j := by
  cases j with
  | object ms =>
    have := sizeOf_lt_of_lookUp (show lookUp name ms = some v from h)
    simp only [object.sizeOf_spec]
    omega
  | _ => simp [member?, members?] at h

/-- A value of an array is smaller than the array. -/
theorem sizeOf_lt_of_mem_values? {j v : Json} {vs : List Json} (h : j.values? = some vs)
    (hv : v ∈ vs) : sizeOf v < sizeOf j := by
  cases j with
  | array ws =>
    obtain rfl : ws = vs := by simpa [values?] using h
    have := List.sizeOf_lt_of_mem hv
    simp only [array.sizeOf_spec]
    omega
  | _ => simp [values?] at h

end Json

end Provenance
