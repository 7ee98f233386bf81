import Provenance.Json.Basic
import Provenance.Time.Relaxed

/-!
# Values in JSON

How the values that requests and answers are made of are written in JSON, and how records are read
member by member.  A member may be required, or be optional and null, or be a list that is empty
where it is missing.  Members that nobody asks for do no harm.  Instead of an object, a record may
be written as the array of its members in their order; then only lists at its end may be missing,
and nothing may follow the last member.

## Main definitions

* `Json.text?`, `Json.flag?`, `Json.word?`, `Json.real?`, `Json.time?` — reading plain values.
* `Json.record?` — the object that a record written as an array stands for.
* `Json.required`, `Json.optional`, `Json.list` — reading members.
* `Json.ofOption`, `Json.ofList`, `Json.ofTime` — writing.
-/

namespace Provenance.Json

variable {α : Type}

/-! ### Reading plain values -/

/-- A text. -/
def text? : Json → Option String
  | string s => some s
  | _ => none

/-- A truth value. -/
def flag? : Json → Option Bool
  | bool b => some b
  | _ => none

/-- A whole number that a signed word of 64 bits holds. -/
def word? : Json → Option Int
  | integer n => if -(Nat.pow 2 63) ≤ n ∧ n < Nat.pow 2 63 then some n else none
  | _ => none

/-- A number; a whole one will do. -/
def real? : Json → Option Binary64
  | decimal x => some x
  | integer n => some (.ofInt n)
  | _ => none

/-- A timestamp. -/
def time? (j : Json) : Option Instant := j.text?.bind fun s => Instant.readRelaxed s.toList

/-- A value or null. -/
def orNull (read : Json → Option α) : Json → Option (Option α)
  | null => some none
  | j => (read j).map some

/-- The values of an array. -/
def listOf (read : Json → Option α) (j : Json) : Option (List α) := j.values?.bind (·.mapM read)

/-! ### Reading members -/

/-- A record as an object.  The values of an array are its members in the order of the names, of
which the last `lists` may be missing. -/
def record? (names : List String) (lists : Nat) : Json → Option Json
  | object ms => some (object ms)
  | array vs =>
    if names.length ≤ vs.length + lists ∧ vs.length ≤ names.length then
      some (object (names.zip vs))
    else none
  | _ => none

/-- A member that has to be there. -/
def required (j : Json) (name : String) (read : Json → Option α) : Option α :=
  (j.member? name).bind read

/-- A member that may be missing or null. -/
def optional (j : Json) (name : String) (read : Json → Option α) : Option (Option α) :=
  j.members?.bind fun ms =>
    match lookUp name ms with
    | some v => orNull read v
    | none => some none

/-- A list that is empty where it is missing. -/
def list (j : Json) (name : String) (read : Json → Option α) : Option (List α) :=
  j.members?.bind fun ms =>
    match lookUp name ms with
    | some v => listOf read v
    | none => some []

/-- The only member of an object, by name; several of one name are one. -/
def sole? (j : Json) : Option (String × Json) :=
  match j.members? with
  | some ((name, v) :: ms) =>
    if ms.all fun m => m.1 == name then some (name, (lookUp name ms).getD v) else none
  | _ => none

/-! ### Writing -/

/-- A value, or null for none. -/
def ofOption (write : α → Json) : Option α → Json
  | some a => write a
  | none => null

/-- An array. -/
def ofList (write : α → Json) (as : List α) : Json := array (as.map write)

/-- A timestamp. -/
def ofTime (t : Instant) : Json := string t.toText

@[simp] theorem text?_string (s : String) : (string s).text? = some s := rfl

@[simp] theorem flag?_bool (b : Bool) : (bool b).flag? = some b := rfl

@[simp] theorem real?_decimal (x : Binary64) : (decimal x).real? = some x := rfl

/-- A member of a record is smaller than the record. -/
theorem sizeOf_lt_of_record? {names : List String} {lists : Nat} {j r v : Json} {name : String}
    (hr : j.record? names lists = some r) (h : r.member? name = some v) : sizeOf v < sizeOf j := by
  cases j with
  | object ms =>
    obtain rfl : object ms = r := by simpa [record?] using hr
    exact sizeOf_lt_of_member? h
  | array vs =>
    simp only [record?] at hr
    split at hr
    · obtain rfl := Option.some.inj hr
      obtain ⟨n, hn⟩ := mem_of_lookUp (show lookUp name (names.zip vs) = some v from h)
      exact sizeOf_lt_of_mem_values? rfl (List.of_mem_zip hn).2
    · simp at hr
  | _ => simp [record?] at hr

@[simp] theorem record?_object (names : List String) (lists : Nat) (ms : List (String × Json)) :
    (object ms).record? names lists = some (object ms) := rfl

/-- An array is read value by value. -/
theorem listOf_ofList {read : Json → Option α} {write : α → Json} (h : ∀ a, read (write a) = some a)
    (as : List α) : listOf read (ofList write as) = some as := by
  show (as.map write).mapM read = some as
  induction as with
  | nil => rfl
  | cons a as ih => simp [h, ih]

end Provenance.Json
