import TagSpec.Text.Blank

/-!
# Build constraints

Whether a file takes part in no build. Constraints stand in the lines at the start of a file that
are blank or line comments.
-/

namespace TagSpec.Source

/-- What a line of the header says. -/
inductive HeaderLine where
  /-- nothing about builds -/
  | other
  /-- the constraint that settles the matter -/
  | constraint (expr : List Char)
  /-- a constraint of the older form, which counts only if the file is to be ignored -/
  | legacy (expr : List Char)
  /-- the end of the header -/
  | stop
deriving DecidableEq, Repr

def headerLine (line : List Char) : HeaderLine :=
  let line := trim line
  if line.isEmpty then .other
  else
    match dropStart? "//".toList line with
    | none => .stop
    | some comment =>
      match dropStart? "go:build".toList comment with
      | some expr => .constraint (trim expr)
      | none =>
        match dropStart? "+build".toList (trimStart comment) with
        | some expr => .legacy (trim expr)
        | none => .other

/-- Whether the lines of a header say that the file is to be ignored. -/
def ignoresBuild : List (List Char) → Bool
  | [] => false
  | line :: lines =>
    match headerLine line with
    | .other => ignoresBuild lines
    | .constraint expr => expr = "ignore".toList
    | .legacy expr => if expr = "ignore".toList then true else ignoresBuild lines
    | .stop => false

/-- Whether a file takes part in no build. -/
def isBuildIgnored (source : List Char) : Bool := ignoresBuild (textLines source)

end TagSpec.Source
