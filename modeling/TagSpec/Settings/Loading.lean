import TagSpec.Files.Tree
import TagSpec.Settings.Decode
import TagSpec.Settings.Toml

/-!
# Loading settings

Settings come from the environment, from a file and from defaults, of which an earlier one counts
more than a later one, key by key.
-/

namespace TagSpec.Settings

open Files

def defaultFile : String := "structspec.toml"

/-- Why settings cannot be loaded. -/
inductive LoadFault where
  | noFile (path : String)
  | unreadable (path : String) (cause : OsError)
  /-- the file is not TOML -/
  | malformed (path : String)
  | mismatch (m : Mismatch) (origin : Origin)
  | invalid (f : Config.Fault)
deriving Repr

def LoadFault.message : LoadFault → String
  | .noFile path => "config file '" ++ path ++ "' does not exist"
  | .unreadable path cause =>
    "Failed to load configuration: " ++ cause.message ++ "\n in " ++ (Origin.file path).describe
  | .malformed _ => "Failed to load configuration: TOML parse error"
  | .mismatch m origin => "Failed to load configuration: " ++ m.message origin
  | .invalid f => f.message

/-- A path as messages show it: one from the working directory is without dots that change
nothing. -/
def shownPath (path : String) : String :=
  if Path.isAbsolute path then path else "/".intercalate ((Path.names path).filter (· ≠ "."))

def readSettings (t : Tree) (path : String) : Except LoadFault (String × Value) :=
  let shown := shownPath path
  match t.readText path with
  | .error e => .error (.unreadable shown e)
  | .ok text =>
    match Toml.parse text with
    | some v => .ok (shown, v)
    | none => .error (.malformed shown)

/-- The settings file: the one that is asked for, else that of the working directory if there is
one. -/
def settingsFile (t : Tree) (path : Option String) : Except LoadFault (Option String) :=
  match path with
  | some p => if t.isFile p then .ok (some p) else .error (.noFile p)
  | none => .ok (if t.isFile defaultFile then some defaultFile else none)

/-- What the settings file and the environment say. -/
def readLayers (t : Tree) (path : Option String) (environment : List (String × String)) :
    Except LoadFault Layers := do
  let file ← settingsFile t path
  match file with
  | none => .ok ⟨none, Environment.settings environment⟩
  | some p => do
    let settings ← readSettings t p
    .ok ⟨some settings, Environment.settings environment⟩

/-- The settings that file, environment and defaults make, whether they make sense or not. -/
def extract (t : Tree) (path : Option String) (environment : List (String × String)) :
    Except LoadFault Config := do
  let layers ← readLayers t path environment
  layers.decode.mapError fun m => LoadFault.mismatch m (layers.origin m.path)

/-- The settings that make sense. -/
def load (t : Tree) (path : Option String) (environment : List (String × String)) :
    Except LoadFault Config := do
  let config ← extract t path environment
  let _ ← config.validate.mapError LoadFault.invalid
  pure config

end TagSpec.Settings
