import TagSpec.CommandLine.Flags
import TagSpec.Generation
import TagSpec.Logging
import TagSpec.Text.Quoted

/-!
# Command line sessions

What one call of the program does: it reads flags and settings, generates, and ends with an exit
code, printed text and what it complains of.
-/

namespace TagSpec

open Files

def Settings.Generation.options (g : Settings.Generation) : Options :=
  ⟨g.structs, g.ignore, g.tags, g.mode, g.outPackage⟩

def Settings.Generation.target (g : Settings.Generation) : Target := Target.ofPath g.outFile

/-- The source directory of settings. -/
def Settings.Generation.requireSource (g : Settings.Generation) : Except Error String :=
  match g.source with
  | some dir => .ok dir
  | none => .error (.config .noSource)

namespace CommandLine

def versionText : String := "structspec 0.3.0\n"

def helpText : String :=
  "Generate Go struct tag spec variables from struct declarations\n\n" ++
  "Usage: structspec gen [OPTIONS]\n\nOptions:\n" ++
  String.join (Flag.all.map fun f => "  " ++ f.describe ++ "\n          " ++ f.purpose ++ "\n") ++
  "  -h, --help\n          Print help\n"

/-- What a session was doing when it failed. -/
inductive Activity where
  | configuring
  | parsing
  | rendering
  | writing
deriving DecidableEq, Repr

def Activity.describe : Activity → String
  | configuring => "bad configuration"
  | parsing => "parse files"
  | rendering => "render output"
  | writing => "write output"

/-- The activity of a stage. -/
def Activity.ofStage : Stage → Activity
  | .configure => configuring
  | .extract => parsing
  | .render => rendering
  | .write => writing

/-- Why a session failed. -/
inductive Failure where
  | refused (r : Refusal)
  | failed (activity : Activity) (e : Error)
deriving Repr

/-- What follows the message of an error: the cause of an error with files once more. -/
def causeText : Error → String
  | .files _ _ cause => ": " ++ cause.message
  | _ => ""

namespace Failure

def exitCode : Failure → Nat
  | refused r => r.exitCode
  | failed _ _ => 1

def complaint? : Failure → Option String
  | refused r => r.complaint?.map fun text => "error: " ++ text
  | failed activity e =>
    some ("Error: " ++ activity.describe ++ ": " ++ e.message ++ causeText e)

def answer : Failure → String
  | refused .version => versionText
  | refused .help => helpText
  | _ => ""

end Failure

/-- What a session did: the files after it, what it printed, the events that it logs and the form of
the log, and how it ended. -/
structure Session where
  tree : Tree
  printed : List UInt8
  events : List Event
  format : Settings.LogFormat
  result : Except Failure Report

namespace Session

def exitCode (s : Session) : Nat :=
  match s.result with
  | .ok _ => 0
  | .error f => f.exitCode

/-- A session that ends before anything is logged. -/
def failed (t : Tree) (f : Failure) : Session :=
  ⟨t, Utf8.encode f.answer.toList, [], .pretty, .error f⟩

/-- An optional path as it is logged. -/
def optionText : Option String → String
  | none => "None"
  | some path => "Some(" ++ Quoted.encodePath path ++ ")"

def loadedEvent (config : Option String) (g : Settings.Generation) : Event :=
  ⟨.debug, .command, "Configuration loaded",
    [("config", .text (optionText config)), ("src", .text (optionText g.source)),
      ("match_mode", .text g.mode.word)]⟩

/-- The package that settings name. -/
def package (t : Tree) (g : Settings.Generation) : Except Error Package := do
  let dir ← g.requireSource
  Package.ofDirectory t dir g.files g.outFile

/-- Generates as settings say. -/
def generate (t : Tree) (g : Settings.Generation) : Except Error Run :=
  (package t g).map fun p => Run.generate t (p.declarations t) g.options g.target

/-- A session with flags. -/
def ofFlags (t : Tree) (environment : List (String × String)) (flags : Flags) : Session :=
  match Settings.load t flags.config environment with
  | .error e => failed t (.failed .configuring (.config (.settings e)))
  | .ok config =>
    let g := flags.apply config.generation
    let plan := Logging.plan environment config.logging
    let loaded := loadedEvent flags.config g
    match generate t g with
    | .error e =>
      ⟨t, [], plan.logged [loaded], plan.format, .error (.failed .configuring e)⟩
    | .ok run =>
      ⟨run.tree, run.printed, plan.logged (loaded :: run.journal.events), plan.format,
        run.journal.result.mapError fun e => .failed (Activity.ofStage e.stage) e.error⟩

/-- The session of a command line. -/
def ofArguments (t : Tree) (environment : List (String × String)) (arguments : List String) :
    Session :=
  match parse arguments with
  | .error r => failed t (.refused r)
  | .ok flags => ofFlags t environment flags

end Session

end CommandLine

end TagSpec
