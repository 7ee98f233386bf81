/-!
# Master data

Places and other things that events refer to by name are described by elements of vocabularies.  An
element has attributes and names its children.

## Main definitions

* `MasterData` — an element of a vocabulary.
* `readPointVocabulary`, `businessLocationVocabulary` — the vocabularies that events refer to.
-/

namespace Provenance

/-- An attribute of an element. -/
structure Attribute where
  id : String
  value : String
  deriving DecidableEq, Repr

/-- An element of a vocabulary. -/
structure MasterData where
  vocabulary : String
  id : String
  attributes : List Attribute
  children : List String
  deriving DecidableEq, Repr

/-- The vocabulary of read points. -/
def readPointVocabulary : String := "urn:epcglobal:epcis:vtype:ReadPoint"

/-- The vocabulary of business locations. -/
def businessLocationVocabulary : String := "urn:epcglobal:epcis:vtype:BusinessLocation"

end Provenance
