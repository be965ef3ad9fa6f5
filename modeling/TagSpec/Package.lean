import TagSpec.Error
import TagSpec.Source.BuildConstraint

/-!
# Packages

The source files in one directory, read in the order of their names. Files of tests, files that take
part in no build and the file that is to be written say nothing.
-/

namespace TagSpec

open Files

/-- What a run asks for: the name of a package, and the structs declared in it. -/
structure Declarations where
  packageName : Journal Error String
  structs : Journal Error (List Struct)

/-- A directory of sources: globs for names of files, of which any counts if there are none, and the
place of the file that is passed over. -/
structure Package where
  dir : String
  files : List (List Glob.Part)
  skipped : Option Place
deriving DecidableEq, Repr

namespace Package

/-- The globs of a list of texts. -/
def globs (patterns : List String) : Except Error (List (List Glob.Part)) :=
  patterns.mapM fun p =>
    (Glob.parse p.toList).mapError fun fault => .config (.filePattern p fault)

/-- The place of a path, of whose last name there may be nothing yet. -/
def place? (t : Tree) (path : String) : Option Place :=
  match t.canonical? path with
  | some p => some p
  | none =>
    match Path.parent? path, Path.fileName? path with
    | some parent, some name =>
      (t.canonical? (if parent = "" then "." else parent)).map (· ++ [name])
    | _, _ => none

/-- A package of a directory, globs and the path of a file to pass over. -/
def ofDirectory (t : Tree) (dir : String) (patterns : List String) (skipped : Option String) :
    Except Error Package :=
  (globs patterns).map fun files => ⟨dir, files, skipped.bind (place? t)⟩


-- ---------------------------------------------------------------------------
-- Files
-- ---------------------------------------------------------------------------

/-- A source file: its name, the path that leads to it, and its bytes. -/
structure SourceFile where
  name : String
  path : String
  bytes : List UInt8
deriving DecidableEq, Repr

/-- Whether a name is that of a source file that is not for tests. -/
def isSourceName (name : String) : Bool :=
  ".go".toList.isSuffixOf name.toList && !"_test.go".toList.isSuffixOf name.toList

def skippingOutput (path : String) : Event :=
  ⟨.debug, .package, "Skipping output file", [("path", .text path)]⟩

/-- The files among the entries of a directory. -/
def filesAt (p : Package) (dir : Place) :
    List (String × Files.Entry) → Journal Error (List SourceFile)
  | [] => pure []
  | (name, .file bytes) :: rest =>
    if !isSourceName name then p.filesAt dir rest
    else if p.skipped = some (dir ++ [name]) then do
      Journal.report (skippingOutput (Path.join p.dir name))
      p.filesAt dir rest
    else do
      let files ← p.filesAt dir rest
      pure (⟨name, Path.join p.dir name, bytes⟩ :: files)
  | _ :: rest => p.filesAt dir rest

/-- The source files of a package in the order of their names. -/
def sourceFiles (p : Package) (t : Tree) : Journal Error (List SourceFile) :=
  match t.find p.dir with
  | .error e => .fail (.files .readDirectory p.dir e)
  | .ok (dir, .directory) => p.filesAt dir (t.sortedChildren dir)
  | .ok _ => .fail (.config (.notDirectory p.dir))

def isWanted (p : Package) (f : SourceFile) : Bool :=
  p.files.isEmpty || p.files.any fun g => Glob.isMatch g f.name.toList

def skippingIgnored (path : String) : Event :=
  ⟨.debug, .package, "Skipping file with ignore build constraint", [("path", .text path)]⟩

/-- The text of a file; none if the file takes part in no build. -/
def SourceFile.read (f : SourceFile) : Journal Error (Option (List Char)) :=
  match Utf8.decode? f.bytes with
  | none => .fail (.files .readFile f.path .notText)
  | some text =>
    if Source.isBuildIgnored text then do
      Journal.report (skippingIgnored f.path)
      pure none
    else pure (some text)

/-- The derivation tree of the text of a file. -/
def parseAt (path : String) (text : List Char) : Except Error Source.SyntaxTree :=
  (Source.parse text).mapError fun (fault, position) =>
    .parse (.inFile path position) (.form fault)


-- ---------------------------------------------------------------------------
-- The name of a package
-- ---------------------------------------------------------------------------

/-- The name that the package clause of a text gives. -/
def nameAt (path : String) (text : List Char) : Except Error (Option String) :=
  (parseAt path text).map Source.packageName?

theorem nameAt_of_parse {text : List Char} {tree : Source.SyntaxTree}
    (h : Source.parse text = .ok tree) (path : String) :
    nameAt path text = .ok (Source.packageName? tree) := by
  rw [nameAt, parseAt, h]
  rfl

/-- The one name that all files give; `found` is what those before gave, and by which file. -/
def nameOf (dir : String) : Option (String × String) → List SourceFile → Journal Error String
  | some (name, _), [] => pure name
  | none, [] => .fail (.parse (.whole dir) .noPackage)
  | found, f :: fs => do
    match ← f.read with
    | none => nameOf dir found fs
    | some text =>
      match ← Journal.ofExcept (nameAt f.path text) with
      | none => nameOf dir found fs
      | some name =>
        match found with
        | none => nameOf dir (some (name, f.path)) fs
        | some (first, firstPath) =>
          if first = name then nameOf dir found fs
          else
            .fail (.parse (.whole f.path) (.packages first firstPath name f.path dir))

/-- The name of a package. -/
def name (p : Package) (t : Tree) : Journal Error String := do
  let files ← p.sourceFiles t
  nameOf p.dir none files


-- ---------------------------------------------------------------------------
-- The structs of a package
-- ---------------------------------------------------------------------------

/-- The report that a tag holds bytes that are no text. -/
def damagedTag (literal : String) : Event :=
  ⟨.warn, .tags, "Struct tag holds bytes that are not UTF-8; replaced with U+FFFD",
    [("literal", .text literal)]⟩

/-- The structs of a text, with reports of damaged tags. -/
def structsAt (path : String) (text : List Char) : Journal Error (List Source.Located) := do
  let tree ← Journal.ofExcept (parseAt path text)
  ⟨(Source.damagedTags tree).map damagedTag,
    (Source.structs tree).mapError fun b => .parse (.inFile path b.position) (.tag b)⟩

/-- A text that can be read, with tags that can, gives the structs that it declares. -/
theorem result_structsAt_of_parse {text : List Char} {tree : Source.SyntaxTree}
    {located : List Source.Located} (h : Source.parse text = .ok tree)
    (hstructs : Source.structs tree = .ok located) (path : String) :
    (structsAt path text).result = .ok located :=
  Journal.result_bind_eq_ok_iff.2
    ⟨tree, mapError_eq_ok_iff.2 h, mapError_eq_ok_iff.2 hstructs⟩

def parsedFile (path : String) (structs : Nat) : Event :=
  ⟨.debug, .package, "Parsed Go file", [("path", .text path), ("structs", .number structs)]⟩

/-- Structs by name, and where they are declared. -/
abbrev Declared := List (String × Location)

/-- Adds structs of a file to those that are declared, unless a name is there already. -/
def declare (path : String) (declared : Declared) :
    List Source.Located → Except Error Declared
  | [] => .ok declared
  | l :: ls =>
    let place := Location.inFile path l.position
    match declared.lookup l.struct.name with
    | some first => .error (.parse place (.redeclared l.struct.name first))
    | none => declare path ((l.struct.name, place) :: declared) ls

/-- The structs of files, whose names are all different; `declared` are those of the files before. -/
def structsOf (declared : Declared) : List SourceFile → Journal Error (List Struct)
  | [] => pure []
  | f :: fs => do
    match ← f.read with
    | none => structsOf declared fs
    | some text =>
      let located ← structsAt f.path text
      Journal.report (parsedFile f.path located.length)
      let declared ← Journal.ofExcept (declare f.path declared located)
      let rest ← structsOf declared fs
      pure (located.map Source.Located.struct ++ rest)

def nothingMatched (dir : String) : Event :=
  ⟨.warn, .package, "No Go files matched in source directory", [("dir", .text dir)]⟩

def extracted (dir : String) (files structs : Nat) : Event :=
  ⟨.info, .package, "Extracted struct declarations",
    [("dir", .text dir), ("files", .number files), ("structs", .number structs)]⟩

/-- The structs of a package in the order of files and of declarations. -/
def structs (p : Package) (t : Tree) : Journal Error (List Struct) := do
  let files := (← p.sourceFiles t).filter p.isWanted
  if files.isEmpty then Journal.report (nothingMatched p.dir)
  let structs ← structsOf [] files
  Journal.report (extracted p.dir files.length structs.length)
  pure structs

/-- What a package declares. -/
def declarations (p : Package) (t : Tree) : Declarations := ⟨p.name t, p.structs t⟩

end Package

end TagSpec
