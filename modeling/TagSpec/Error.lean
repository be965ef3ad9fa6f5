import TagSpec.Files.Tree
import TagSpec.Glob
import TagSpec.Names
import TagSpec.Settings.Loading
import TagSpec.Source.Declarations
import TagSpec.Spec.Rendering

/-!
# Errors

Everything that can go wrong, by cause. `Error.message` puts a cause into words.
-/

namespace TagSpec

open Files

-- ---------------------------------------------------------------------------
-- Places in files
-- ---------------------------------------------------------------------------

/-- A file or directory, or a position in a file. -/
structure Location where
  path : String
  position : Option Source.Position
deriving DecidableEq, Repr

namespace Location

/-- A whole file or directory. -/
def whole (path : String) : Location := ⟨path, none⟩

def inFile (path : String) (position : Source.Position) : Location := ⟨path, some position⟩

def message (l : Location) : String :=
  match l.position with
  | none => l.path
  | some p => l.path ++ ":" ++ toString p.line ++ ":" ++ toString p.column

end Location


-- ---------------------------------------------------------------------------
-- Causes
-- ---------------------------------------------------------------------------

/-- What is wrong with what a run is told. -/
inductive ConfigFault where
  | namePattern (r : BadRule)
  | filePattern (pattern : String) (fault : Glob.Fault)
  | notDirectory (path : String)
  | noSource
  | settings (f : Settings.LoadFault)
  | other (text : String)
deriving Repr

def ConfigFault.message : ConfigFault → String
  | .namePattern r => "invalid struct name pattern '" ++ r.rule ++ "': " ++ r.fault.message
  | .filePattern pattern fault =>
    "invalid files pattern '" ++ pattern ++ "': " ++ fault.message
  | .notDirectory path => "source path '" ++ path ++ "' is not a directory"
  | .noSource => "source directory is required (--src)"
  | .settings f => f.message
  | .other text => text

/-- What is wrong with what is read. -/
inductive SourceFault where
  | form (f : Source.SyntaxFault)
  | tag (b : Source.BadTag)
  | redeclared (struct : String) (first : Location)
  | packages (first firstPath second secondPath dir : String)
  | noPackage
  | other (text : String)
deriving DecidableEq, Repr

def SourceFault.message : SourceFault → String
  | .form f => f.message
  | .tag b => b.message
  | .redeclared struct first =>
    "struct '" ++ struct ++ "' is also declared at " ++ first.message
  | .packages first firstPath second secondPath dir =>
    "found packages " ++ first ++ " (" ++ firstPath ++ ") and " ++ second ++ " (" ++ secondPath ++
      ") in " ++ dir
  | .noPackage => "has no Go packages in source directory"
  | .other text => text

/-- What is done with files. -/
inductive Operation where
  | readDirectory
  | readFile
  | createDirectory
  | createTemporary
  | writeTemporary
  | writeFile
  | write
  | other (text : String)
deriving DecidableEq, Repr

def Operation.describe : Operation → String
  | .readDirectory => "read source directory"
  | .readFile => "read file"
  | .createDirectory => "create directory"
  | .createTemporary => "create temporary file in"
  | .writeTemporary => "write temporary file for"
  | .writeFile => "write output file"
  | .write => "write"
  | .other text => text

/-- Something that went wrong. -/
inductive Error where
  | config (fault : ConfigFault)
  | parse (location : Location) (fault : SourceFault)
  | tag (text : String)
  | render (fault : RenderFault)
  | files (operation : Operation) (path : String) (cause : OsError)
deriving Repr

def Error.message : Error → String
  | .config fault => "Configuration error: " ++ fault.message
  | .parse location fault => "Parse error at " ++ location.message ++ ": " ++ fault.message
  | .tag text => "Invalid struct tag: " ++ text
  | .render fault => "Render error: " ++ fault.message
  | .files operation path cause =>
    "I/O error: cannot " ++ operation.describe ++ " '" ++ path ++ "': " ++ cause.message

end TagSpec
