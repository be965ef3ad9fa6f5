import TagSpec.Files.Tree

/-!
# Changes to file trees

Making, writing, replacing and removing what stands in a tree. Each change names the place that its
path leads to and leaves every other place as it is.
-/

namespace TagSpec.Files

namespace Tree

/-- The directory that the names of a path lead to but for the last, and that one. -/
def lastName (t : Tree) (path : String) : Except OsError (Place × String) :=
  if isBadPath path then .error .badName
  else
    match (Path.names path).reverse with
    | [] => if path = "" then .error .notFound else .ok ([], ".")
    | name :: names =>
      match walk t true linkLimit (t.start path) (names.reverse ++ ["."]) with
      | .error e => .error e
      | .ok (.here p .directory) =>
        if nameLimit < Utf8.byteLength name.toList then .error .nameTooLong else .ok (p, name)
      | .ok (.here _ _) => .error .notDirectory
      | .ok (.absent _ _) => .error .notFound

/-- Whether a name leads to a directory by itself. -/
def isDots (name : String) : Bool := name = "." || name = ".."

def makeDirectory (t : Tree) (path : String) : Except OsError Tree := do
  let (dir, name) ← t.lastName path
  if isDots name then .error .exists
  else
    match t.get? (dir ++ [name]) with
    | some _ => .error .exists
    | none => .ok (t.put (dir ++ [name]) .directory)

/-- How one directory is made. -/
abbrev DirectoryMaker := Tree → String → Except OsError Tree

/-- Makes a directory and those around it, each by `make`; on failure too, what was made stays. -/
def makeDirectories (t : Tree) (make : DirectoryMaker) : Nat → String → Tree × Except OsError Unit
  | 0, _ => (t, .error .notFound)
  | depth + 1, path =>
    if path = "" then (t, .ok ())
    else
      match make t path with
      | .ok t' => (t', .ok ())
      | .error .notFound =>
        match Path.parent? path with
        | none => (t, .error (.other "failed to create whole tree"))
        | some parent =>
          match makeDirectories t make depth parent with
          | (t', .error e) => (t', .error e)
          | (t', .ok ()) =>
            match make t' path with
            | .ok t'' => (t'', .ok ())
            | .error e => (t', if t'.isDirectory path then .ok () else .error e)
      | .error e => (t, if t.isDirectory path then .ok () else .error e)

/-- Makes a directory and all that are missing around it. -/
def makePath (t : Tree) (path : String) (make : DirectoryMaker := makeDirectory) :
    Tree × Except OsError Unit :=
  t.makeDirectories make (path.length + 2) path

def writeFile (t : Tree) (path : String) (bytes : List UInt8) : Except OsError Tree :=
  if path ≠ "" && Path.endsInSlash path then .error .isDirectory
  else
    match t.locate true path with
    | .error e => .error e
    | .ok (.here _ .directory) => .error .isDirectory
    | .ok (.here p _) => .ok (t.put p (.file bytes))
    | .ok (.absent dir name) => .ok (t.put (dir ++ [name]) (.file bytes))

def removeFile (t : Tree) (path : String) : Except OsError Tree := do
  let (dir, name) ← t.lastName path
  if isDots name then .error .isDirectory
  else
    match t.get? (dir ++ [name]) with
    | none => .error .notFound
    | some .directory => .error .isDirectory
    | some _ =>
      if Path.endsInSlash path then .error .notDirectory else .ok (t.erase (dir ++ [name]))

def makeLink (t : Tree) (path target : String) : Except OsError Tree := do
  let (dir, name) ← t.lastName path
  if isDots name || Path.endsInSlash path then .error .exists
  else
    match t.get? (dir ++ [name]) with
    | some _ => .error .exists
    | none => .ok (t.put (dir ++ [name]) (.link target))

/-- Moves what stands at a place over whatever a path names, links not followed, in one step. -/
def rename (t : Tree) (source : Place) (path : String) : Except OsError Tree := do
  let (dir, name) ← t.lastName path
  if isDots name then .error .busy
  else if Path.endsInSlash path then .error .notDirectory
  else
    match t.get? source, t.get? (dir ++ [name]) with
    | none, _ => .error .notFound
    | _, some .directory => .error .isDirectory
    | some e, _ => .ok ((t.erase source).put (dir ++ [name]) e)

end Tree

end TagSpec.Files
