import TagSpec.CommandLine.Session

/-!
# The program

Copies what a session can look at from the file system into a tree, runs the session on it, and
copies what the session changed back.
-/

namespace TagSpec.Program

open Files CommandLine

-- ---------------------------------------------------------------------------
-- From the file system
-- ---------------------------------------------------------------------------

/-- Puts the directories around a place into a tree. -/
def putAround (t : Tree) (p : Place) : Tree :=
  (List.range p.length).foldl (fun t n => if n = 0 then t else t.put (p.take n) .directory) t

/-- What kind of thing stands at a path, links not followed. -/
def kindAt (path : String) : IO IO.FS.FileType := do
  pure (← ((← IO.currentDir) / path).symlinkMetadata).type

/-- Copies what stands at a path from the top, where no name but the last is a link. -/
def copyReal (t : Tree) (path : String) : IO Tree := do
  let place := Path.names path
  let around := putAround t place
  match ← kindAt path with
  | .dir => pure (around.put place .directory)
  | .file =>
    let bytes ← IO.FS.readBinFile path
    pure (around.put place (.file bytes.toList))
  | _ => pure around

/-- Copies one more name behind a directory, and what it leads to if it is a link. -/
def copyName (t : Tree) (dir name : String) : IO Tree := do
  try
    let real := (← IO.FS.realPath dir).toString
    let path := Path.join real name
    match ← kindAt path with
    | .symlink =>
      let place := Path.names path
      try
        let target := (← IO.FS.realPath path).toString
        copyReal ((putAround t place).put place (.link target)) target
      catch _ => pure ((putAround t place).put place (.link ""))
    | _ => copyReal t path
  catch _ => pure t

/-- Copies everything on the way of a path. -/
def copyPath (t : Tree) (path : String) : IO Tree := do
  let names := Path.names ((← IO.currentDir) / path).toString
  let mut t := t
  for n in List.range names.length do
    t ← copyName t ("/" ++ "/".intercalate (names.take n)) (names.getD n "")
  pure t

/-- Copies a directory and the source files in it. -/
def copyDirectory (t : Tree) (path : String) : IO Tree := do
  let mut t ← copyPath t path
  try
    let dir ← IO.FS.realPath path
    for entry in ← dir.readDir do
      if Package.isSourceName entry.fileName then
        t ← copyName t dir.toString entry.fileName
    pure t
  catch _ => pure t

/-- Copies what a session with flags can look at. -/
def copyAll (environment : List (String × String)) (flags : Flags) : IO Tree := do
  let home := Path.names (← IO.currentDir).toString
  let t := (putAround (Tree.emptyAt home) home).put home .directory
  let t ← copyPath t (flags.config.getD Settings.defaultFile)
  match Settings.load t flags.config environment with
  | .error _ => pure t
  | .ok config =>
    let g := flags.apply config.generation
    let t ← match g.outFile with
      | some path => copyPath t path
      | none => pure t
    match g.source with
    | some dir => copyDirectory t dir
    | none => pure t

def readEnvironment : IO (List (String × String)) := do
  let bytes ← IO.FS.readBinFile "/proc/self/environ"
  pure ((textPieces '\x00' (String.ofList (Utf8.decodeLossy bytes.toList))).filterMap fun item =>
    match pieces '=' item.toList with
    | name :: value :: rest =>
      some (String.ofList name, String.ofList (joinPieces ['='] (value :: rest)))
    | _ => none)


-- ---------------------------------------------------------------------------
-- To the file system
-- ---------------------------------------------------------------------------

/-- Makes what stands at a place in a tree stand there in the file system. -/
def store (place : Place) (e : Files.Entry) : IO Unit := do
  let path := "/" ++ "/".intercalate place
  match e with
  | .directory => IO.FS.createDirAll path
  | .file bytes =>
    let temporary := path ++ ".tmp"
    IO.FS.writeBinFile temporary ⟨bytes.toArray⟩
    IO.FS.rename temporary path
  | .link _ => pure ()

/-- Stores what is not the same in two trees, directories before what is in them. -/
def storeChanges (before after : Tree) : IO Unit := do
  let changed := after.entries.filter fun (p, e) => before.get? p ≠ some e
  for (p, e) in changed.mergeSort fun a b => decide (a.1.length ≤ b.1.length) do
    store p e


-- ---------------------------------------------------------------------------
-- Sessions
-- ---------------------------------------------------------------------------

/-- Says how a session went, and gives its exit code. -/
def finish (s : Session) : IO UInt32 := do
  let output ← IO.getStdout
  output.write ⟨s.printed.toArray⟩
  output.flush
  for e in s.events do
    IO.eprintln (Logging.line s.format e)
  match s.result with
  | .ok _ => pure ()
  | .error f =>
    match f.complaint? with
    | some text => IO.eprintln text
    | none => if f.answer = "" then IO.eprint helpText
  pure s.exitCode.toUInt32

end TagSpec.Program

open TagSpec CommandLine Program in
/-- Runs the command line. -/
def main (arguments : List String) : IO UInt32 := do
  match CommandLine.parse ("structspec" :: arguments) with
  | .error r => finish (Session.failed Files.Tree.empty (.refused r))
  | .ok flags =>
    let environment ← readEnvironment
    let before ← copyAll environment flags
    let session := Session.ofFlags before environment flags
    try
      storeChanges before session.tree
      finish session
    catch e =>
      IO.eprintln ("Error: write output: " ++ toString e)
      pure 1
