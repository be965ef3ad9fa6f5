/-!
# Specs

What is written for a struct: the names that each tag key gives to its fields.
-/

namespace TagSpec

/-- A field and the name that a tag gives to it. -/
structure Entry where
  field : String
  value : String
deriving DecidableEq, Repr

/-- The fields that carry one tag key, in declaration order. -/
structure Group where
  displayName : String
  entries : List Entry
deriving DecidableEq, Repr

/-- The groups of one struct. -/
structure Spec where
  name : String
  groups : List Group
deriving DecidableEq, Repr

/-- All that is written to one file. -/
structure SpecFile where
  package : String
  specs : List Spec
deriving DecidableEq, Repr

end TagSpec
