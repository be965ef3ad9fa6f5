import TagSpec.Error
import TagSpec.Files.Change

/-!
# Output

Where text is sent: it is printed, or it takes the place of a file in one step. What an output does
to files is a new tree, so it can be compared with the one before.
-/

namespace TagSpec

open Files

/-- Where text is sent. -/
inductive Target where
  | print
  | file (path : String)
deriving DecidableEq, Repr

namespace Target

def ofPath : Option String → Target
  | none => print
  | some path => file path

def path? : Target → Option String
  | print => none
  | file path => some path

end Target

/-- What the files themselves do not settle about writing: the name that a temporary file gets, which
nothing in its directory has, and which operations on which paths are refused, with the cause. -/
structure Surroundings where
  temporaryName : Tree → Place → String
  unused : ∀ (t : Tree) (dir : Place), t.get? (dir ++ [temporaryName t dir]) = none
  refusal : Operation → String → Option OsError

namespace Surroundings

/-- Nothing but a refusal. -/
def permit (s : Surroundings) (operation : Operation) (path : String) : Except OsError Unit :=
  match s.refusal operation path with
  | none => .ok ()
  | some cause => .error cause

/-- A length above that of the last name of every place. -/
def nameBound : List (Place × Files.Entry) → Nat
  | [] => 1
  | e :: es => max ((e.1.getLastD "").length + 1) (nameBound es)

theorem lt_nameBound {es : List (Place × Files.Entry)} {e : Place × Files.Entry} (h : e ∈ es) :
    (e.1.getLastD "").length < nameBound es := by
  induction es with
  | nil => cases h
  | cons f es ih =>
    rw [nameBound]
    rcases List.mem_cons.1 h with rfl | h
    · omega
    · have := ih h
      omega

def longName (t : Tree) : String := String.ofList (List.replicate (nameBound t.entries) 't')

/-- A name longer than all in a tree is that of nothing in it. -/
theorem get?_longName (t : Tree) (dir : Place) : t.get? (dir ++ [longName t]) = none := by
  rw [Tree.get?, if_neg (by simp), List.lookup_eq_none_iff]
  rintro ⟨p, e⟩ hmem
  rw [bne_iff_ne]
  rintro rfl
  have hlt := lt_nameBound hmem
  simp [longName] at hlt

/-- Nothing is refused. -/
def plain : Surroundings := ⟨fun t _ => longName t, get?_longName, fun _ _ => none⟩

end Surroundings

/-- What an output did: the files after it, what was printed, and how it went. -/
structure Emission where
  tree : Tree
  printed : List UInt8
  journal : Journal Error Unit

namespace Output

/-- Stands for a path where text is printed. -/
def printedPath : String := "<stdout>"

/-- What a printer that takes at most `limit` bytes has taken of a text, and how it went. -/
def write (limit : Option Nat) (bytes : List UInt8) : List UInt8 × Except Error Unit :=
  match limit with
  | none => (bytes, .ok ())
  | some n =>
    if bytes.length ≤ n then (bytes, .ok ())
    else (bytes.take n, .error (.files .write printedPath (.other "disk full")))

/-- The directory that a path names a file in. -/
def directoryOf (path : String) : String :=
  match Path.parent? path with
  | some parent => if parent = "" then "." else parent
  | none => "."

def creatingDirectory (dir : String) : Event :=
  ⟨.debug, .output, "Creating output directory", [("dir", .text dir)]⟩

def wroteFile (path : String) (bytes : Nat) : Event :=
  ⟨.info, .output, "Wrote generated file", [("path", .text path), ("bytes", .number bytes)]⟩

/-- Makes the directory for a file, with those around it, if there is nothing at its path. -/
def prepareDirectory (s : Surroundings) (t : Tree) (dir : String) : Emission :=
  if t.has dir then ⟨t, [], pure ()⟩
  else
    let (t', result) := t.makePath dir fun t path => do
      s.permit .createDirectory path
      t.makeDirectory path
    ⟨t', [], do
      Journal.report (creatingDirectory dir)
      Journal.ofExcept (result.mapError (Error.files .createDirectory dir))⟩

/-- Makes an empty file by a new name in the directory that a path leads to, and gives its place. -/
def createTemporary (s : Surroundings) (t : Tree) (dir : String) : Except OsError (Tree × Place) := do
  match ← t.find dir with
  | (place, .directory) =>
    s.permit .createTemporary dir
    let temporary := place ++ [s.temporaryName t place]
    .ok (t.put temporary (.file []), temporary)
  | _ => .error .notDirectory

/-- Writes to the temporary file that is to take the place of a path. -/
def fillTemporary (s : Surroundings) (t : Tree) (temporary : Place) (path : String)
    (bytes : List UInt8) : Except OsError Tree := do
  s.permit .writeTemporary path
  .ok (t.put temporary (.file bytes))

/-- Moves the temporary file over a path. -/
def persist (s : Surroundings) (t : Tree) (temporary : Place) (path : String) :
    Except OsError Tree := do
  s.permit .writeFile path
  t.rename temporary path

/-- Puts a text in place of a file by way of a temporary one in the same directory, which is removed
where a later step fails. -/
def replace (s : Surroundings) (t : Tree) (path : String) (bytes : List UInt8) : Emission :=
  let dir := directoryOf path
  match createTemporary s t dir with
  | .error e => ⟨t, [], .fail (.files .createTemporary dir e)⟩
  | .ok (created, temporary) =>
    match fillTemporary s created temporary path bytes with
    | .error e => ⟨created.erase temporary, [], .fail (.files .writeTemporary path e)⟩
    | .ok filled =>
      match persist s filled temporary path with
      | .error e => ⟨filled.erase temporary, [], .fail (.files .writeFile path e)⟩
      | .ok t' => ⟨t', [], .report (wroteFile path bytes.length)⟩

/-- Writes a file, and makes the directories around it. -/
def writeFile (t : Tree) (path : String) (bytes : List UInt8) (s : Surroundings := .plain) :
    Emission :=
  let prepared := prepareDirectory s t (directoryOf path)
  match prepared.journal.result with
  | .error _ => prepared
  | .ok () =>
    let replaced := replace s prepared.tree path bytes
    ⟨replaced.tree, [], do
      prepared.journal
      replaced.journal⟩

/-- Sends a text to a target. -/
def emit (t : Tree) (text : String) (target : Target) (s : Surroundings := .plain) : Emission :=
  match target with
  | .print => ⟨t, Utf8.encode text.toList, pure ()⟩
  | .file path => writeFile t path (Utf8.encode text.toList) s

end Output

end TagSpec
