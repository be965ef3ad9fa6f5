import TagSpec.Journal
import TagSpec.Settings.Config
import TagSpec.Text.Blank
import TagSpec.Text.Digits
import TagSpec.Text.Pieces

/-!
# Logging

Which events of a journal are logged, and in which form. Variables of the environment count more than
settings: `LOG_FORMAT` for the form, `LOG_LEVEL` for how much is logged, and `RUST_LOG` for how much
of each topic.
-/

namespace TagSpec

-- ---------------------------------------------------------------------------
-- Levels and topics
-- ---------------------------------------------------------------------------

namespace Level

/-- How many levels are at least as important. -/
def rank : Level → Nat
  | error => 1
  | warn => 2
  | info => 3
  | debug => 4
  | trace => 5

/-- The level that a word, in upper or lower case, or the number of its rank stands for. -/
def parse? (text : String) : Option Level :=
  match unsigned? text.toList with
  | some n => all.find? fun l => l.rank = n
  | none => all.find? fun l => l.word.toList = text.toList.map Char.toLower

end Level

/-- The name by which filters know a topic. -/
def Topic.target : Topic → String
  | .command => "structspec::cli"
  | .package => "structspec_lang_go"
  | .tags => "structspec_lang_go::tags"
  | .filter => "structspec_codegen::filter"
  | .generation => "structspec_codegen::generator"
  | .rendering => "structspec_codegen::render"
  | .output => "structspec_codegen::output"

namespace Logging

-- ---------------------------------------------------------------------------
-- Directives
-- ---------------------------------------------------------------------------

/-- What is logged of the topics whose names begin with a text: everything down to a level, or
nothing. -/
structure Directive where
  target : String
  level : Option Level
deriving DecidableEq, Repr

/-- The level that a directive names: `some none` is none at all. -/
def limit? (text : String) : Option (Option Level) :=
  let lower := text.toList.map Char.toLower
  if lower = "off".toList || unsigned? text.toList = some 0 then some none
  else if text = "" then some (some .error)
  else (Level.parse? text).map some

/-- Whether a character may begin a directive. -/
def isDirectiveStart (c : Char) : Bool := c.isAlphanum || c = '-' || c = ':' || c = '_'

/-- Reads a directive: a level, the name of a topic, or both with an equals sign between them. -/
def Directive.parse? (text : String) : Option Directive :=
  let cs := trim text.toList
  if cs.isEmpty || !cs.head?.all isDirectiveStart || cs.contains '[' then none
  else
    let name := cs.takeWhile (· != '=')
    match cs.drop name.length with
    | [] =>
      match limit? (String.ofList cs) with
      | some level => some ⟨"", level⟩
      | none => some ⟨String.ofList cs, some .trace⟩
    | _ :: [] => some ⟨String.ofList name, some .trace⟩
    | _ :: level => (limit? (String.ofList level)).map fun l => ⟨String.ofList name, l⟩

/-- The directives of a text between commas, without those that cannot be read. -/
def directives (text : String) : List Directive :=
  (textPieces ',' text).filterMap Directive.parse?

/-- Of two directives, the one with the longer name, or the second. -/
def closer (a b : Directive) : Directive := if b.target.length < a.target.length then a else b

/-- Whether an event is logged: the directive with the longest name that its topic begins with
decides. -/
def logs (ds : List Directive) (e : Event) : Bool :=
  match ds.filter fun d => d.target.toList.isPrefixOf e.topic.target.toList with
  | [] => false
  | d :: rest =>
    match (rest.foldl closer d).level with
    | some l => e.level.rank ≤ l.rank
    | none => false


-- ---------------------------------------------------------------------------
-- The environment
-- ---------------------------------------------------------------------------

/-- The format for events: that of the environment if it is known, else that of the settings. -/
def format (wish : Option String) (configured : Settings.LogFormat) : Settings.LogFormat :=
  match wish.map fun v => String.ofList (v.toList.map Char.toLower) with
  | some "json" => .json
  | some "pretty" => .pretty
  | some "human" => .pretty
  | _ => configured

/-- The level down to which events are logged: that of the environment if it is one, else that of
the settings, else that of warnings. -/
def level (wish : Option String) (configured : String) : Level :=
  match wish.bind Level.parse? with
  | some l => l
  | none => (Level.parse? configured).getD .warn

/-- How events are logged. -/
structure Plan where
  format : Settings.LogFormat
  directives : List Directive
deriving DecidableEq, Repr

/-- The plan that the environment and settings make. -/
def plan (environment : List (String × String)) (settings : Settings.Logging) : Plan :=
  let wish := fun (name : String) => environment.lookup name
  let asked := directives ((wish "RUST_LOG").getD "")
  let default : Directive := ⟨"", some (level (wish "LOG_LEVEL") settings.level)⟩
  ⟨format (wish "LOG_FORMAT") settings.format, if asked.isEmpty then [default] else asked⟩

def Plan.logged (p : Plan) (events : List Event) : List Event := events.filter (logs p.directives)


-- ---------------------------------------------------------------------------
-- Lines
-- ---------------------------------------------------------------------------

def jsonItem (c : Char) : List Char :=
  if c = '"' || c = '\\' then ['\\', c]
  else if c.toNat < 0x20 then '\\' :: 'u' :: hexDigits 4 c.toNat
  else [c]

def jsonString (s : String) : String :=
  String.ofList ('"' :: (s.toList.flatMap jsonItem ++ ['"']))

def datumText (quote : String → String) : Datum → String
  | .text s => quote s
  | .number n => toString n

/-- The line that logs an event. -/
def line (f : Settings.LogFormat) (e : Event) : String :=
  let level := String.ofList (e.level.word.toList.map Char.toUpper)
  match f with
  | .json =>
    let fields := (("message", Datum.text e.message) :: e.data).map fun (k, d) =>
      jsonString k ++ ":" ++ datumText jsonString d
    "\x7b\"level\":" ++ jsonString level ++ ",\"fields\":\x7b" ++ ",".intercalate fields ++
      "\x7d,\"target\":" ++ jsonString e.topic.target ++ "\x7d"
  | .pretty =>
    let fields := e.data.map fun (k, d) => ", " ++ k ++ ": " ++ datumText id d
    "  " ++ level ++ " " ++ e.topic.target ++ ": " ++ e.message ++ String.join fields

end Logging

end TagSpec
