import TagSpec.Tags

/-!
# Declarations

The struct types of a source, with the tags of their fields.
-/

namespace TagSpec

/-- A named field and its tags. -/
structure Field where
  name : String
  tags : Tags
deriving DecidableEq

/-- A struct type: its name, and its fields in declaration order. -/
structure Struct where
  name : String
  fields : List Field
deriving DecidableEq

end TagSpec
