import TagSpec.Settings.Config
import TagSpec.Text.Pieces

/-!
# Command lines

The words of a command line, and the settings that its flags replace. A flag and its value are two
words or one word with an equals sign; a word that begins with a dash is never the value of the flag
in front of it.
-/

namespace TagSpec.CommandLine

-- ---------------------------------------------------------------------------
-- Flags
-- ---------------------------------------------------------------------------

/-- A flag of the command. -/
inductive Flag where
  | source
  | files
  | structs
  | ignore
  | tags
  | outFile
  | outPackage
  | mode
  | config
deriving DecidableEq, Repr

namespace Flag

def all : List Flag :=
  [source, files, structs, ignore, tags, outFile, outPackage, mode, config]

def name : Flag → String
  | source => "src"
  | files => "files"
  | structs => "structs"
  | ignore => "ignore"
  | tags => "tag"
  | outFile => "out-file"
  | outPackage => "out-pkg"
  | mode => "match-mode"
  | config => "config"

/-- What stands for the value of a flag in messages. -/
def placeholder : Flag → String
  | source => "SRC"
  | files => "FILES"
  | structs => "STRUCTS"
  | ignore => "IGNORE"
  | tags => "TAGS"
  | outFile => "OUT_FILE"
  | outPackage => "OUT_PKG"
  | mode => "MATCH_MODE"
  | config => "CONFIG"

/-- What a flag is for. -/
def purpose : Flag → String
  | source => "Directory containing the Go files to read"
  | files => "File name globs inside the source directory (default: \"*\")"
  | structs => "Struct names to include (repeatable; all structs when omitted)"
  | ignore => "Struct names to exclude, wins over --structs (repeatable)"
  | tags => "Tag keys to emit (repeatable or comma separated; all keys when omitted)"
  | outFile => "Output file; generated code goes to stdout when omitted"
  | outPackage => "Package name of the generated file (default: package of the sources)"
  | mode => "How --structs and --ignore are matched: full-name regexes or exact names"
  | config => "Config file (default: structspec.toml in the working directory, if present)"

def describe (f : Flag) : String := "--" ++ f.name ++ " <" ++ f.placeholder ++ ">"

/-- The flag of a name. -/
def ofName? (s : String) : Option Flag := all.find? fun f => f.name = s

end Flag

/-- The values that flags were given. -/
structure Flags where
  source : Option String
  files : List String
  structs : List String
  ignore : List String
  tags : List String
  outFile : Option String
  outPackage : Option String
  mode : Option MatchMode
  config : Option String
deriving DecidableEq, Repr

namespace Flags

def none : Flags := ⟨.none, [], [], [], [], .none, .none, .none, .none⟩

/-- Some items, or those of another list if there are none. -/
def orElse (given default : List String) : List String :=
  if given.isEmpty then default else given

/-- Settings in which what flags say replaces what was there. -/
def apply (f : Flags) (g : Settings.Generation) : Settings.Generation :=
  { source := f.source.or g.source
    files := orElse f.files g.files
    structs := orElse f.structs g.structs
    ignore := orElse f.ignore g.ignore
    tags := orElse f.tags g.tags
    outFile := f.outFile.or g.outFile
    outPackage := f.outPackage.or g.outPackage
    mode := f.mode.getD g.mode }

end Flags


-- ---------------------------------------------------------------------------
-- Refusals
-- ---------------------------------------------------------------------------

/-- Why a command line is answered by a text instead of a run. -/
inductive Refusal where
  | help
  | version
  | missingCommand
  | unknownCommand (word : String)
  | unexpected (word : String)
  | missingValue (flag : Flag)
  | badMode (text : String)
  | repeated (flag : Flag)
  | unwantedValue (flag value : String)
deriving DecidableEq, Repr

namespace Refusal

/-- Whether a text was asked for. -/
def isAsked : Refusal → Bool
  | help => true
  | version => true
  | _ => false

def exitCode (r : Refusal) : Nat := if r.isAsked then 0 else 2

def complaint? : Refusal → Option String
  | help => .none
  | version => .none
  | missingCommand => .none
  | unknownCommand word => some ("unrecognized subcommand '" ++ word ++ "'")
  | unexpected word => some ("unexpected argument '" ++ word ++ "' found")
  | missingValue flag =>
    some ("a value is required for '" ++ flag.describe ++ "' but none was supplied")
  | badMode text =>
    some ("invalid value '" ++ text ++ "' for '" ++ Flag.mode.describe ++ "': " ++
      MatchMode.unknownMessage text)
  | repeated flag => some ("the argument '" ++ flag.describe ++ "' cannot be used multiple times")
  | unwantedValue flag value =>
    some ("unexpected value '" ++ value ++ "' for '" ++ flag ++ "' found; no more were expected")

end Refusal


-- ---------------------------------------------------------------------------
-- Words
-- ---------------------------------------------------------------------------

/-- What a word of a command line looks like. -/
inductive Word where
  /-- two dashes, behind which nothing is a flag -/
  | escape
  | long (name : String) (value : Option String)
  | short (letter : Char)
  | plain (text : String)
deriving DecidableEq, Repr

/-- The look of a word. One dash alone is plain. -/
def Word.ofString (s : String) : Word :=
  match s.toList with
  | ['-', '-'] => escape
  | '-' :: '-' :: cs =>
    let name := cs.takeWhile (· != '=')
    let value := match cs.drop name.length with
      | [] => Option.none
      | _ :: v => some (String.ofList v)
    long (String.ofList name) value
  | '-' :: c :: _ => short c
  | _ => plain s


-- ---------------------------------------------------------------------------
-- Reading
-- ---------------------------------------------------------------------------

/-- Gives a flag a value. -/
def give (f : Flags) (flag : Flag) (value : String) : Except Refusal Flags :=
  let single := fun {α : Type} (old : Option α) (r : Except Refusal Flags) =>
    if old.isSome then .error (.repeated flag) else r
  let path := fun (f : Flags) => if value = "" then .error (.missingValue flag) else .ok f
  match flag with
  | .source => single f.source (path { f with source := some value })
  | .files => .ok { f with files := f.files ++ textPieces ',' value }
  | .structs => .ok { f with structs := f.structs ++ [value] }
  | .ignore => .ok { f with ignore := f.ignore ++ [value] }
  | .tags => .ok { f with tags := f.tags ++ textPieces ',' value }
  | .outFile => single f.outFile (path { f with outFile := some value })
  | .outPackage => single f.outPackage (.ok { f with outPackage := some value })
  | .mode =>
    single f.mode
      (match MatchMode.parse? value with
      | some mode => .ok { f with mode := some mode }
      | none => .error (.badMode value))
  | .config => single f.config (path { f with config := some value })

/-- A flag that waits for its value, or has it but not been given it. -/
abbrev Pending := Option (Flag × Option String)

/-- Gives the pending flag its value. -/
def settle (f : Flags) : Pending → Except Refusal Flags
  | .none => .ok f
  | some (flag, .none) => .error (.missingValue flag)
  | some (flag, some value) => give f flag value

/-- Fails for a reason that counts less than a fault of the pending flag. -/
def settleThen (f : Flags) (p : Pending) (r : Refusal) : Except Refusal Flags :=
  match settle f p with
  | .error e => .error e
  | .ok _ => .error r

/-- Reads the words behind the command. -/
def readFlags (f : Flags) (p : Pending) : List String → Except Refusal Flags
  | [] => settle f p
  | word :: rest =>
    match Word.ofString word with
    | .escape =>
      match rest with
      | [] => settle f p
      | next :: _ => .error (.unexpected next)
    | .short c =>
      if c = 'h' then settleThen f p .help
      else .error (.unexpected (String.ofList ['-', c]))
    | .plain text =>
      match p with
      | some (flag, .none) => readFlags f (some (flag, some text)) rest
      | _ => .error (.unexpected text)
    | .long name value =>
      match Flag.ofName? name, value with
      | some flag, some v =>
        match settle f p with
        | .error e => .error e
        | .ok f =>
          match give f flag v with
          | .error e => .error e
          | .ok f => readFlags f .none rest
      | some flag, .none =>
        match settle f p with
        | .error e => .error e
        | .ok f => readFlags f (some (flag, .none)) rest
      | .none, value =>
        if name = "help" then
          match value with
          | some v => .error (.unwantedValue "--help" v)
          | .none => settleThen f p .help
        else .error (.unexpected ("--" ++ name))

def commandWord : String := "gen"

def helpWord : String := "help"

/-- What the words behind the help command are answered with. -/
def explain : List String → Refusal
  | [] => .help
  | word :: rest =>
    if word = commandWord || word = helpWord then
      match rest with
      | [] => .help
      | next :: _ => .unknownCommand next
    else .unknownCommand word

/-- Reads the words behind the name of the program. -/
def readCommand : List String → Except Refusal Flags
  | [] => .error .missingCommand
  | word :: rest =>
    match Word.ofString word with
    | .escape =>
      match rest with
      | [] => .error .missingCommand
      | next :: _ =>
        if next = commandWord || next = helpWord then .error (.unexpected next)
        else .error (.unknownCommand next)
    | .short c =>
      if c = 'h' then .error .help
      else if c = 'V' then .error .version
      else .error (.unexpected (String.ofList ['-', c]))
    | .long name value =>
      if name = "help" || name = "version" then
        match value with
        | some v => .error (.unwantedValue ("--" ++ name) v)
        | .none => .error (if name = "help" then .help else .version)
      else .error (.unexpected ("--" ++ name))
    | .plain text =>
      if text = commandWord then readFlags Flags.none .none rest
      else if text = helpWord then .error (explain rest)
      else .error (.unknownCommand text)

/-- The flags of a command line, of which the first word is the name of the program. -/
def parse : List String → Except Refusal Flags
  | [] => .error .missingCommand
  | _ :: words => readCommand words

end TagSpec.CommandLine
