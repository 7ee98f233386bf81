import Provenance.Unicode.Composition
import Provenance.Unicode.Direction
import Provenance.Unicode.Joining
import Provenance.Unicode.Names
import Provenance.Uri.Punycode

/-!
# International names

The labels of a name are written in ASCII.  A label beyond ASCII is encoded, behind a prefix.  Such
a label has to be in its normal form, and it has to be one that a reader can tell from others; the
name as a whole has to keep to the rules for leftward writing where it has any.

## Main definitions

* `Label.read` — the text that a label stands for.
* `isInternational` — whether all labels of a name can be read and the name keeps to the rules.
-/

namespace Provenance.Uri

open Unicode

namespace Label

/-- What an encoded label begins with. -/
def encodedPrefix : List Char := "xn--".toList

/-- The greatest length of what stands behind the prefix. -/
def maxEncoded : Nat := 2000

/-- Whether a character can stand in a label.  Those of ASCII have been looked at before. -/
def isAllowed (c : Char) : Bool := c.toNat < 128 || isNameChar c

/-- Whether a text beyond ASCII is a label in its normal form. -/
def isNormal (cs : List Char) : Bool :=
  cs.all isAllowed && !(cs.head?.any isMark) && isComposed cs && joinersFit cs &&
    !(encodedPrefix.isPrefixOf cs)

/-- The text that a label in small letters stands for.  A label of ASCII characters is never
encoded, and neither is an empty one. -/
def read (cs : List Char) : Option (List Char) :=
  match Text.dropWord encodedPrefix cs with
  | none => some cs
  | some code =>
    if code.getLast?.getD '-' == '-' || maxEncoded < code.length then none
    else (readEncoded code).filter isNormal

/-- A label without the prefix stands for itself. -/
theorem read_eq_self {cs : List Char} (h : Text.dropWord encodedPrefix cs = none) :
    read cs = some cs := by
  simp [read, h]

end Label

/-- Whether all labels of a name in small letters can be read and the name keeps to the rules for
leftward writing. -/
def isInternational (cs : List Char) : Bool :=
  match (Text.splitAll '.' cs).mapM Label.read with
  | none => false
  | some labels => !(labels.any fun l => l.any turns) || labels.all keepsDirection

end Provenance.Uri
