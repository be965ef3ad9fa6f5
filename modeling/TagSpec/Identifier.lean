import TagSpec.Unicode.Categories

/-!
# Identifiers

The names that generated code may use: a letter or underscore, then letters, underscores and decimal
digits, and no keyword.
-/

namespace TagSpec

/-- The words that are no names. -/
def keywords : List String :=
  ["break", "case", "chan", "const", "continue", "default", "defer", "else", "fallthrough",
    "for", "func", "go", "goto", "if", "import", "interface", "map", "package", "range",
    "return", "select", "struct", "switch", "type", "var"]

namespace Identifier

def isStart (c : Char) : Bool := c = '_' || Unicode.isLetter c

def isTail (c : Char) : Bool := isStart c || Unicode.isDecimalDigit c

/-- Whether a text has the form of a name. -/
def isWord : List Char → Bool
  | [] => false
  | c :: cs => isStart c && cs.all isTail

def isValid (name : String) : Bool := isWord name.toList && !keywords.contains name

/-- The name that cannot be referred to. -/
def blank : String := "_"

end Identifier

end TagSpec
