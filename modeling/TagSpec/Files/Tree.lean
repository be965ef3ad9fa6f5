import TagSpec.Files.OsError
import TagSpec.Files.Path
import TagSpec.Text.Utf8

/-!
# File trees

Directories, files and symbolic links as one value, and where a path leads in it. A path begins at
the working directory unless it begins with a slash, and one that leads above the top stays there.
-/

namespace TagSpec.Files

/-- The names that lead to an entry from the top of a tree. -/
abbrev Place := List String

/-- What stands at a place. -/
inductive Entry where
  | directory
  | file (bytes : List UInt8)
  | link (target : String)
deriving DecidableEq, Repr

/-- A tree of files, and the place of the working directory. At most one thing stands at a place. -/
structure Tree where
  entries : List (Place × Entry)
  home : Place
  nodup : (entries.map Prod.fst).Nodup
deriving DecidableEq, Repr

namespace Tree

@[ext] theorem ext {t u : Tree} (he : t.entries = u.entries) (hh : t.home = u.home) : t = u := by
  cases t
  cases u
  simp_all

/-- The tree in which there is nothing, with the working directory at a place. -/
def emptyAt (home : Place) : Tree := ⟨[], home, List.nodup_nil⟩

def empty : Tree := emptyAt []

/-- What stands at a place. The top is a directory. -/
def get? (t : Tree) (p : Place) : Option Entry :=
  if p = [] then some .directory else t.entries.lookup p

/-- The tree without what stands at a place. -/
def erase (t : Tree) (p : Place) : Tree where
  entries := t.entries.filter fun e => e.1 ≠ p
  home := t.home
  nodup := t.nodup.sublist (List.filter_sublist.map Prod.fst)

/-- The tree with an entry at a place. -/
def put (t : Tree) (p : Place) (e : Entry) : Tree where
  entries := (p, e) :: (t.erase p).entries
  home := t.home
  nodup := by
    rw [List.map_cons, List.nodup_cons]
    refine ⟨?_, (t.erase p).nodup⟩
    simp [erase]

/-- The entries of a list that are kept are those whose places pass. -/
private theorem lookup_filter_place (keep : Place → Bool) (q : Place) (es : List (Place × Entry)) :
    (es.filter fun e => keep e.1).lookup q = if keep q then es.lookup q else none := by
  induction es with
  | nil => simp
  | cons e es ih =>
    obtain ⟨p, v⟩ := e
    rw [List.filter_cons]
    by_cases hq : q = p
    · subst hq
      cases hk : keep q
      · simpa [hk] using ih
      · simp
    · cases keep p <;> simp [ih, List.lookup_cons, beq_eq_false_iff_ne.2 hq]

/-- Nothing stands where an entry was erased, and every other place is as it was. -/
theorem get?_erase (t : Tree) {p : Place} (hp : p ≠ []) (q : Place) :
    (t.erase p).get? q = if q = p then none else t.get? q := by
  have h : (t.erase p).entries.lookup q = if q = p then none else t.entries.lookup q := by
    rw [erase, lookup_filter_place (fun q => decide (q ≠ p))]
    by_cases hqp : q = p <;> simp [hqp]
  by_cases hq : q = []
  · subst hq
    simp [get?, Ne.symm hp]
  · simp [get?, hq, h]

/-- The entry stands at its place, and every other place is as it was. -/
theorem get?_put (t : Tree) {p : Place} (hp : p ≠ []) (q : Place) (e : Entry) :
    (t.put p e).get? q = if q = p then some e else t.get? q := by
  have h := t.get?_erase hp q
  by_cases hq : q = []
  · subst hq
    simp [get?, Ne.symm hp]
  · by_cases hqp : q = p
    · subst hqp
      simp [get?, put, hq]
    · simpa [get?, put, hq, hqp, List.lookup_cons, beq_eq_false_iff_ne.2 hqp] using h

/-- The names in a directory and what stands under them. -/
def children (t : Tree) (dir : Place) : List (String × Entry) :=
  t.entries.filterMap fun (p, e) =>
    match p.getLast? with
    | some name => if p = dir ++ [name] then some (name, e) else none
    | none => none

def sortedChildren (t : Tree) (dir : Place) : List (String × Entry) :=
  (t.children dir).mergeSort fun a b => decide (a.1 ≤ b.1)

/-- The path of everything in the tree, in order. Those of directories end in a slash. -/
def paths (t : Tree) : List String :=
  (t.entries.map fun (p, e) =>
    "/".intercalate p ++ match e with
      | .directory => "/"
      | _ => "").mergeSort fun a b => decide (a ≤ b)


-- ---------------------------------------------------------------------------
-- Where paths lead
-- ---------------------------------------------------------------------------

/-- Where a path leads: to an entry, or to a name that is not in its directory. -/
inductive Spot where
  | here (p : Place) (e : Entry)
  | absent (dir : Place) (name : String)
deriving DecidableEq, Repr

/-- How many links one path may lead through. -/
def linkLimit : Nat := 40

/-- How many bytes a name may have. -/
def nameLimit : Nat := 255

/-- Follows names from a directory up to the first link that is to be followed; the last name is
followed through a link only if `follow`. -/
def walkNames (t : Tree) (follow : Bool)
    (through : Place → String → List String → Except OsError Spot) :
    Place → List String → Except OsError Spot
  | dir, [] => .ok (.here dir .directory)
  | dir, name :: rest =>
    if name = "." then walkNames t follow through dir rest
    else if name = ".." then walkNames t follow through dir.dropLast rest
    else if nameLimit < Utf8.byteLength name.toList then .error .nameTooLong
    else
      match t.get? (dir ++ [name]) with
      | none => if rest.isEmpty then .ok (.absent dir name) else .error .notFound
      | some .directory => walkNames t follow through (dir ++ [name]) rest
      | some (.file bytes) =>
        if rest.isEmpty then .ok (.here (dir ++ [name]) (.file bytes)) else .error .notDirectory
      | some (.link target) =>
        if rest.isEmpty && !follow then .ok (.here (dir ++ [name]) (.link target))
        else through dir target rest

/-- Follows names from a directory, and the names of links in their place. -/
def walk (t : Tree) (follow : Bool) : Nat → Place → List String → Except OsError Spot
  | 0 => walkNames t follow fun _ _ _ => .error .loop
  | links + 1 =>
    walkNames t follow fun dir target rest =>
      if target = "" then .error .notFound
      else
        walk t follow links (if Path.isAbsolute target then [] else dir)
          (Path.names target ++ (if Path.endsInSlash target then ["."] else []) ++ rest)

@[simp] theorem walk_nil (t : Tree) (follow : Bool) (links : Nat) (dir : Place) :
    t.walk follow links dir [] = .ok (.here dir .directory) := by
  cases links <;> rfl

/-- The first step of a walk. -/
theorem walk_name (t : Tree) (follow : Bool) (links : Nat) (dir : Place) (name : String)
    (rest : List String) :
    t.walk follow links dir (name :: rest) =
      if name = "." then t.walk follow links dir rest
      else if name = ".." then t.walk follow links dir.dropLast rest
      else if nameLimit < Utf8.byteLength name.toList then .error .nameTooLong
      else
        match t.get? (dir ++ [name]) with
        | none => if rest.isEmpty then .ok (.absent dir name) else .error .notFound
        | some .directory => t.walk follow links (dir ++ [name]) rest
        | some (.file bytes) =>
          if rest.isEmpty then .ok (.here (dir ++ [name]) (.file bytes)) else .error .notDirectory
        | some (.link target) =>
          if rest.isEmpty && !follow then .ok (.here (dir ++ [name]) (.link target))
          else
            match links with
            | 0 => .error .loop
            | links + 1 =>
              if target = "" then .error .notFound
              else
                t.walk follow links (if Path.isAbsolute target then [] else dir)
                  (Path.names target ++ (if Path.endsInSlash target then ["."] else []) ++ rest) := by
  cases links <;> rfl

/-- Where a path begins. -/
def start (t : Tree) (path : String) : Place := if Path.isAbsolute path then [] else t.home

/-- Whether a path holds a character that no name may hold. -/
def isBadPath (path : String) : Bool := path.toList.contains '\x00'

/-- Where a path leads. A slash at its end asks for a directory. -/
def locate (t : Tree) (follow : Bool) (path : String) : Except OsError Spot :=
  if isBadPath path then .error .badName
  else if path = "" then .error .notFound
  else
    walk t follow linkLimit (t.start path)
      (Path.names path ++ (if Path.endsInSlash path then ["."] else []))

/-- The entry that a path leads to through all links, and its place. -/
def find (t : Tree) (path : String) : Except OsError (Place × Entry) :=
  match t.locate true path with
  | .error e => .error e
  | .ok (.here p e) => .ok (p, e)
  | .ok (.absent _ _) => .error .notFound

/-- The place that a path leads to through all links. -/
def canonical? (t : Tree) (path : String) : Option Place := (t.find path).toOption.map Prod.fst

def has (t : Tree) (path : String) : Bool := (t.find path).isOk

def isDirectory (t : Tree) (path : String) : Bool :=
  match t.find path with
  | .ok (_, .directory) => true
  | _ => false

def isFile (t : Tree) (path : String) : Bool :=
  match t.find path with
  | .ok (_, .file _) => true
  | _ => false

def readBytes (t : Tree) (path : String) : Except OsError (List UInt8) :=
  match t.find path with
  | .error e => .error e
  | .ok (_, .file bytes) => .ok bytes
  | .ok _ => .error .isDirectory

def readText (t : Tree) (path : String) : Except OsError (List Char) :=
  match t.readBytes path with
  | .error e => .error e
  | .ok bytes =>
    match Utf8.decode? bytes with
    | some text => .ok text
    | none => .error .notText

end Tree

end TagSpec.Files
