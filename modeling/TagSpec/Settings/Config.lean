import TagSpec.Names
import TagSpec.Text.Blank

/-!
# Settings

What a run is told: what to read, what to select, where to write, and what to log. `Config.validate`
says which settings make no sense.
-/

namespace TagSpec.Settings

/-- What one run reads, selects and writes. Without an output file it prints. -/
structure Generation where
  source : Option String
  files : List String
  structs : List String
  ignore : List String
  tags : List String
  outFile : Option String
  outPackage : Option String
  mode : MatchMode
deriving DecidableEq, Repr

/-- Every file, every struct and every key. -/
def Generation.default : Generation :=
  ⟨none, ["*"], [], [], [], none, none, .regex⟩

/-- How events are logged. -/
inductive LogFormat where
  | pretty
  | json
deriving DecidableEq, Repr

def LogFormat.word : LogFormat → String
  | pretty => "pretty"
  | json => "json"

/-- Which events are logged, and how. -/
structure Logging where
  level : String
  format : LogFormat
deriving DecidableEq, Repr

/-- Warnings and errors only. -/
def Logging.default : Logging := ⟨"warn", .pretty⟩

/-- All settings. -/
structure Config where
  generation : Generation
  logging : Logging
deriving DecidableEq, Repr

namespace Config

def default : Config := ⟨Generation.default, Logging.default⟩

/-- Why settings make no sense. -/
inductive Fault where
  | blankLevel
  | unknownLevel (level : String)
  | blankFilePattern
deriving DecidableEq, Repr

/-- The words for levels, from the least to the most important. -/
def levelWords : List String := Level.all.reverse.map Level.word

def Fault.message : Fault → String
  | .blankLevel => "Log level cannot be empty"
  | .unknownLevel level =>
    "Invalid log level '" ++ level ++ "', must be one of: " ++ ", ".intercalate levelWords
  | .blankFilePattern => "File patterns cannot be empty"

def isBlankText (s : String) : Bool := s.toList.all isBlank

/-- Whether a text is the word for a level, in upper or lower case and with blanks around it. -/
def isLevelWord (s : String) : Bool :=
  levelWords.any fun w => w.toList == (trim s.toList).map Char.toLower

/-- The first fault of settings. -/
def validate (c : Config) : Except Fault Unit :=
  if isBlankText c.logging.level then .error .blankLevel
  else if !isLevelWord c.logging.level then .error (.unknownLevel c.logging.level)
  else if c.generation.files.any isBlankText then .error .blankFilePattern
  else .ok ()

end Config

end TagSpec.Settings
