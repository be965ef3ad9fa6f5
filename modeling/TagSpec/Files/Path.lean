import TagSpec.Text.Pieces

/-!
# Paths

Paths as texts: names with slashes between them. Repeated slashes and a single dot change nothing
about where a path leads, except that a dot in front is kept.
-/

namespace TagSpec.Files.Path

/-- The texts between the slashes of a path. -/
def segments (path : String) : List String := textPieces '/' path

def isAbsolute (path : String) : Bool := path.startsWith "/"

def endsInSlash (path : String) : Bool := path.endsWith "/"

def names (path : String) : List String := (segments path).filter (· ≠ "")

/-- Whether a segment, by its place in a path, says nothing. -/
def isIdle (index : Nat) (segment : String) : Bool := segment = "" || (segment = "." && index ≠ 0)

/-- Segments without those at the end that say nothing; the list has the last segment first. -/
def dropIdle : List String → List String
  | [] => []
  | s :: ss => if isIdle ss.length s then dropIdle ss else s :: ss

/-- The segments of a path, the last first, up to the last one that says something. -/
def meaning (path : String) : List String := dropIdle (segments path).reverse

/-- The last name of a path, if it ends in one. -/
def fileName? (path : String) : Option String :=
  match meaning path with
  | s :: _ => if s = ".." || s = "." then none else some s
  | [] => none

/-- The path with slashes between segments, the last of which comes first. -/
def ofReversed (segments : List String) : String := "/".intercalate segments.reverse

/-- The path without its last name, if it has one. -/
def parent? (path : String) : Option String :=
  match meaning path with
  | [] => none
  | _ :: ss =>
    if isAbsolute path && (dropIdle ss).isEmpty then some "/" else some (ofReversed (dropIdle ss))

def join (dir name : String) : String :=
  if dir = "" || endsInSlash dir then dir ++ name else dir ++ "/" ++ name

end TagSpec.Files.Path
