import Provenance.Coded
import Provenance.Number.Decimal
import Provenance.Text.Blank
import Provenance.Time.Timestamp

/-!
# Custom fields and their texts

A custom field has a name in a space of names, a value, and fields inside of it.  Its value is
captured as a text.  Where the text, without the blanks around it, is also a number or a timestamp,
the field carries that reading beside the text, so that it can be compared by value.

## Main definitions

* `FieldOrigin` — where a field was declared, with its code.
* `FieldContent`, `CustomField` — a field, and a field with those inside of it.
* `CustomField.ofText` — the field with all readings of its text.
-/

namespace Provenance

/-- Where a custom field was declared. -/
inductive FieldOrigin
  | extension
  /-- Instance or lot master data. -/
  | ilmd
  | customField
  deriving DecidableEq, Repr

namespace FieldOrigin

/-- The stored code. -/
def code : FieldOrigin → String
  | extension => "extension"
  | ilmd => "ilmd"
  | customField => "custom_field"

instance : Coded FieldOrigin where
  all := [extension, ilmd, customField]
  code := code
  mem_all a := by cases a <;> decide
  code_injective a b := by cases a <;> cases b <;> decide

end FieldOrigin

/-- Name and values of a custom field. -/
structure FieldContent where
  origin : FieldOrigin
  space : String
  name : String
  text : Option String
  number : Option Binary64
  date : Option Instant
  deriving DecidableEq, Repr

/-- A custom field with the fields inside of it. -/
inductive CustomField
  | node (content : FieldContent) (children : List CustomField)
  deriving Repr

namespace CustomField

/-- Name and values. -/
def content : CustomField → FieldContent
  | node c _ => c

/-- The fields inside. -/
def children : CustomField → List CustomField
  | node _ cs => cs

@[simp] theorem content_node (c : FieldContent) (cs : List CustomField) :
    (node c cs).content = c := rfl

@[simp] theorem children_node (c : FieldContent) (cs : List CustomField) :
    (node c cs).children = cs := rfl

@[simp] theorem eta (f : CustomField) : node f.content f.children = f := by cases f; rfl

/-- The field with the given text as its value and with the readings that the text has. -/
def ofText (origin : FieldOrigin) (space name value : String) : CustomField :=
  let core := Text.trim value.toList
  node ⟨origin, space, name, some value, Binary64.read core, Instant.read core⟩ []

end CustomField

end Provenance
