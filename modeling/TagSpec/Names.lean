import TagSpec.Declaration
import TagSpec.Journal
import TagSpec.Regex.Reading

/-!
# Rules for names

Which structs are written: lists of rules for names to include and to exclude. A rule is the name
itself or a pattern for the whole of it.
-/

namespace TagSpec

/-- How rules are read. -/
inductive MatchMode where
  | regex
  | exact
deriving DecidableEq, Repr

namespace MatchMode

def word : MatchMode → String
  | regex => "regex"
  | exact => "exact"

/-- The mode that a word stands for, in upper or lower case. -/
def parse? (text : String) : Option MatchMode :=
  let lower := text.toList.map Char.toLower
  if lower = regex.word.toList then some regex
  else if lower = exact.word.toList then some exact
  else none

/-- What is said of a word that stands for no mode. -/
def unknownMessage (text : String) : String :=
  "unknown match mode '" ++ text ++ "', expected 'regex' or 'exact'"

end MatchMode

/-- A rule that is no pattern, and why. -/
structure BadRule where
  rule : String
  fault : Regex.Fault
deriving DecidableEq, Repr

/-- Rules of one mode. -/
inductive NameMatcher where
  | names (names : List String)
  | patterns (patterns : List Regex.Pattern)

namespace NameMatcher

/-- The text of a pattern for the whole of a name. -/
def anchored (rule : List Char) : List Char := "^(?:".toList ++ rule ++ ")$".toList

/-- The pattern of a rule. -/
def pattern (rule : String) : Except BadRule Regex.Pattern :=
  match Regex.parse (anchored rule.toList) with
  | .ok p => .ok p
  | .error fault => .error ⟨rule, fault⟩

/-- The matcher of rules that are patterns. -/
def ofPatterns (rules : List String) : Except BadRule NameMatcher :=
  (rules.mapM pattern).map .patterns

/-- Whether a name is matched by one of the rules. -/
def isMatch : NameMatcher → String → Bool
  | names ns, name => ns.contains name
  | patterns ps, name => ps.any fun p => p.isMatch name.toList

end NameMatcher

/-- The matcher of rules; none if there are no rules. -/
def MatchMode.compile (mode : MatchMode) (rules : List String) :
    Except BadRule (Option NameMatcher) :=
  if rules.isEmpty then .ok none
  else
    match mode with
    | .regex => (NameMatcher.ofPatterns rules).map some
    | .exact => .ok (some (.names rules))

/-- Rules for what is included and what is excluded. -/
structure NameFilter where
  included : Option NameMatcher
  excluded : Option NameMatcher

namespace NameFilter

/-- The filter of two lists of rules. -/
def compile (mode : MatchMode) (included excluded : List String) : Except BadRule NameFilter := do
  let i ← mode.compile included
  let e ← mode.compile excluded
  pure ⟨i, e⟩

/-- Whether a name passes. What is excluded does not, and without rules for inclusion all else
does. -/
def accepts (f : NameFilter) (name : String) : Bool :=
  if f.excluded.any (·.isMatch name) then false else f.included.all (·.isMatch name)

/-- The structs that pass, in order. -/
def kept (f : NameFilter) (structs : List Struct) : List Struct :=
  structs.filter fun s => f.accepts s.name

def droppedEvent (s : Struct) : Event :=
  ⟨.debug, .filter, "Struct filtered out", [("name", .text s.name)]⟩

def keptEvent (total kept : Nat) : Event :=
  ⟨.debug, .filter, "Applied struct filter", [("total", .number total), ("kept", .number kept)]⟩

def apply {ε : Type} (f : NameFilter) (structs : List Struct) : Journal ε (List Struct) :=
  let dropped := structs.filter fun s => !f.accepts s.name
  let kept := f.kept structs
  ⟨dropped.map droppedEvent ++ [keptEvent structs.length kept.length], .ok kept⟩

end NameFilter

end TagSpec
