import TagSpec.Settings.Config
import TagSpec.Settings.Value
import TagSpec.Text.Digits

/-!
# Decoding settings

From the value that all layers of settings make to the settings themselves. Keys that mean nothing
are passed over, and a key that is missing leaves its default. Keys are decoded in alphabetical
order, so that of several faults the one that comes first in it is reported.
-/

namespace TagSpec.Settings

-- ---------------------------------------------------------------------------
-- Layers
-- ---------------------------------------------------------------------------

/-- Where a value was set. -/
inductive Origin where
  | file (path : String)
  | environment
deriving DecidableEq, Repr

namespace Origin

def describe : Origin → String
  | file path => path ++ " TOML file"
  | environment => "\x60STRUCTSPEC__\x60 environment variable(s)"

/-- A path of keys as it is written at the place. -/
def keyText (path : List String) : Origin → String
  | file _ => ".".intercalate ("default" :: path)
  | environment => ".".intercalate (path.map fun k => String.ofList (k.toList.map Char.toUpper))

end Origin

/-- What a settings file and the environment say. -/
structure Layers where
  file : Option (String × Value)
  environment : Value

namespace Layers

/-- The value that both make together. -/
def merged (l : Layers) : Value :=
  match l.file with
  | some (_, v) => Value.overlay v l.environment
  | none => l.environment

/-- What stands under a key of a table or at a place of a list. -/
def step? (key : String) : Value → Option Value
  | .list vs => (natural? key.toList).bind fun place => vs[place]?
  | v => v.get? key

/-- Whether a path of keys leads to a value. -/
def reaches (v : Value) : List String → Bool
  | [] => true
  | k :: ks =>
    match step? k v with
    | some inner => reaches inner ks
    | none => false

/-- Where the value was set that a path of keys leads to. -/
def origin (l : Layers) (path : List String) : Origin :=
  match l.file with
  | some (name, _) => if reaches l.environment path then .environment else .file name
  | none => .environment

end Layers


-- ---------------------------------------------------------------------------
-- Mismatches
-- ---------------------------------------------------------------------------

/-- What a value should have been. -/
inductive Wanted where
  | string
  | path
  | sequence
  | generation
  | logging
  | mode
  | format
  /-- one word instead of a table of words -/
  | word
  | nothing
deriving DecidableEq, Repr

def Wanted.describe : Wanted → String
  | .string => "a string"
  | .path => "path string"
  | .sequence => "a sequence"
  | .generation => "struct GenerateConfig"
  | .logging => "struct LoggingConfig"
  | .mode => "enum MatchMode"
  | .format => "enum LogFormat"
  | .word => "enum"
  | .nothing => "unit"

/-- How a value is not what it should have been. -/
inductive MismatchKind where
  | type (found : Value) (wanted : Wanted)
  | word (found : String) (words : List String)
deriving Repr

/-- A value that is not what it should have been, and the keys that lead to it. -/
structure Mismatch where
  kind : MismatchKind
  path : List String
deriving Repr

namespace Mismatch

/-- A text between back quotes. -/
def ticked (s : String) : String := "\x60" ++ s ++ "\x60"

def message (m : Mismatch) (origin : Origin) : String :=
  let what := match m.kind with
    | .type found wanted =>
      "invalid type: found " ++ found.describe ++ ", expected " ++ wanted.describe
    | .word found words =>
      "unknown variant: found " ++ ticked found ++ ", expected " ++
        ticked (" or ".intercalate (words.map ticked))
  what ++ " for key \"" ++ origin.keyText m.path ++ "\" in " ++ origin.describe

end Mismatch


-- ---------------------------------------------------------------------------
-- Decoding
-- ---------------------------------------------------------------------------

/-- A function from the value that a path leads to. -/
abbrev Decoder (α : Type) := List String → Value → Except Mismatch α

namespace Decoder

/-- Fails because of the type of a value. -/
def refuse {α : Type} (wanted : Wanted) : Decoder α := fun path v =>
  .error ⟨.type v wanted, path⟩

def text (wanted : Wanted) : Decoder String := fun path v =>
  match v with
  | .string s => .ok s
  | v => refuse wanted path v

/-- A text that may be missing. -/
def optional (wanted : Wanted) : Decoder (Option String) := fun path v =>
  (text wanted path v).map some

def texts : Decoder (List String) := fun path v =>
  match v with
  | .list vs => vs.zipIdx.mapM fun (v, i) => text .string (path ++ [toString i]) v
  | v => refuse .sequence path v

/-- The entry of a table whose key comes first in alphabetical order. -/
def firstEntry? : List (String × Value) → Option (String × Value)
  | [] => none
  | e :: es =>
    match firstEntry? es with
    | some f => if f.1 < e.1 then some f else some e
    | none => some e

def word {α : Type} (wanted : Wanted) (all : List (String × α)) : Decoder α := fun path v =>
  let named := fun (s : String) =>
    match all.lookup s with
    | some a => .ok a
    | none => .error ⟨.word s (all.map Prod.fst), path⟩
  match v with
  | .string s => named s
  | .table es =>
    match firstEntry? es with
    | none => refuse .word path v
    | some (k, inner) => (named k).bind fun _ => refuse .nothing (path ++ [k]) inner
  | v => refuse wanted path v

def mode : Decoder MatchMode :=
  word .mode [(MatchMode.regex.word, .regex), (MatchMode.exact.word, .exact)]

def format : Decoder LogFormat :=
  word .format [(LogFormat.pretty.word, .pretty), (LogFormat.json.word, .json)]

/-- The entry under a key of a table, or a default if there is none. -/
def entry {α : Type} (key : String) (d : Decoder α) (default : α) (path : List String)
    (es : List (String × Value)) : Except Mismatch α :=
  match es.lookup key with
  | some v => d (path ++ [key]) v
  | none => .ok default

/-- The item at a place of a list, or a default if there is none. -/
def item {α : Type} (place : Nat) (d : Decoder α) (default : α) (path : List String)
    (vs : List Value) : Except Mismatch α :=
  match vs[place]? with
  | some v => d (path ++ [toString place]) v
  | none => .ok default

/-- Settings of a run: a table, or a list of its values in order. -/
def generation : Decoder Generation := fun path v =>
  let d := Generation.default
  match v with
  | .table es => do
    let files ← entry "files" texts d.files path es
    let ignore ← entry "ignore" texts d.ignore path es
    let mode ← entry "match_mode" mode d.mode path es
    let outFile ← entry "out_file" (optional .path) d.outFile path es
    let outPackage ← entry "out_pkg" (optional .string) d.outPackage path es
    let source ← entry "src" (optional .path) d.source path es
    let structs ← entry "structs" texts d.structs path es
    let tags ← entry "tags" texts d.tags path es
    pure ⟨source, files, structs, ignore, tags, outFile, outPackage, mode⟩
  | .list vs => do
    let source ← item 0 (optional .path) d.source path vs
    let files ← item 1 texts d.files path vs
    let structs ← item 2 texts d.structs path vs
    let ignore ← item 3 texts d.ignore path vs
    let tags ← item 4 texts d.tags path vs
    let outFile ← item 5 (optional .path) d.outFile path vs
    let outPackage ← item 6 (optional .string) d.outPackage path vs
    let mode ← item 7 mode d.mode path vs
    pure ⟨source, files, structs, ignore, tags, outFile, outPackage, mode⟩
  | v => refuse .generation path v

/-- Settings for logging: a table, or a list of its values in order. -/
def logging : Decoder Logging := fun path v =>
  let d := Logging.default
  match v with
  | .table es => do
    let format ← entry "format" format d.format path es
    let level ← entry "level" (text .string) d.level path es
    pure ⟨level, format⟩
  | .list vs => do
    let level ← item 0 (text .string) d.level path vs
    let format ← item 1 format d.format path vs
    pure ⟨level, format⟩
  | v => refuse .logging path v

/-- All settings. -/
def config : Decoder Config := fun path v =>
  let es := match v with
    | .table es => es
    | _ => []
  do
    let generation ← entry "generate" generation Generation.default path es
    let logging ← entry "logging" logging Logging.default path es
    pure ⟨generation, logging⟩

end Decoder

def Layers.decode (l : Layers) : Except Mismatch Config := Decoder.config [] l.merged

end TagSpec.Settings
