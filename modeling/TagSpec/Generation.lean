import TagSpec.Output
import TagSpec.Package
import TagSpec.Spec.Grouping

/-!
# Generation

From declarations to the text of a spec file and to where it is sent. Rules for names are read before
anything is asked of the declarations, and nothing is written unless everything before succeeded.
-/

namespace TagSpec

open Files

/-- What is selected and how it is named. -/
structure Options where
  included : List String
  excluded : List String
  tags : List String
  mode : MatchMode
  outPackage : Option String
deriving DecidableEq, Repr

/-- What is to be written, and how many structs there were to choose from. -/
structure Model where
  file : SpecFile
  found : Nat
deriving DecidableEq, Repr

namespace Model

/-- The name for the package that is written: the one asked for, else that of the declarations. -/
def packageName (d : Declarations) (o : Options) : Journal Error String :=
  match o.outPackage with
  | some name => if name = "" then d.packageName else pure name
  | none => d.packageName

/-- The report of that name. -/
def resolvedPackage (name : String) : Event :=
  ⟨.debug, .generation, "Resolved output package", [("package", .text name)]⟩

def nameFilter (o : Options) : Except Error NameFilter :=
  (NameFilter.compile o.mode o.included o.excluded).mapError fun r => .config (.namePattern r)

/-- The model of declarations. -/
def build (d : Declarations) (o : Options) : Journal Error Model := do
  let filter ← Journal.ofExcept (nameFilter o)
  let package ← packageName d o
  Journal.report (resolvedPackage package)
  let structs ← d.structs
  let kept ← filter.apply structs
  pure ⟨⟨package, kept.map (Struct.spec o.tags)⟩, structs.length⟩

def render (m : Model) : Journal Error String := m.file.render.mapError Error.render

end Model


-- ---------------------------------------------------------------------------
-- Stages
-- ---------------------------------------------------------------------------

/-- A stage of a run. -/
inductive Stage where
  | configure
  | extract
  | render
  | write
deriving DecidableEq, Repr

def Stage.word : Stage → String
  | configure => "configure"
  | extract => "extract"
  | render => "render"
  | write => "write"

/-- An error and the stage that failed with it. -/
structure StageError where
  stage : Stage
  error : Error
deriving Repr

def StageError.message (e : StageError) : String :=
  e.stage.word ++ " stage failed: " ++ e.error.message

/-- The stage that an error on the way to a model belongs to. -/
def StageError.ofBuild (e : Error) : StageError :=
  match e with
  | .config _ => ⟨.configure, e⟩
  | _ => ⟨.extract, e⟩


-- ---------------------------------------------------------------------------
-- Runs
-- ---------------------------------------------------------------------------

/-- What a run found and wrote. -/
structure Report where
  found : Nat
  rendered : Nat
  package : String
deriving DecidableEq, Repr

def Report.event (r : Report) : Event :=
  ⟨.info, .generation, "Generation finished",
    [("found", .number r.found), ("rendered", .number r.rendered), ("package", .text r.package)]⟩

/-- What a run did: the files after it, what was printed, and how it went. -/
structure Run where
  tree : Tree
  printed : List UInt8
  journal : Journal StageError Report

namespace Run

/-- All of a run up to writing: a model and its text. -/
def prepare (d : Declarations) (o : Options) : Journal StageError (Model × String) := do
  let model ← (Model.build d o).mapError StageError.ofBuild
  let text ← model.render.mapError fun e => ⟨.render, e⟩
  pure (model, text)

/-- The report of a model. -/
def report (m : Model) : Report := ⟨m.found, m.file.specs.length, m.file.package⟩

/-- Writes the spec file of declarations. -/
def generate (t : Tree) (d : Declarations) (o : Options) (target : Target)
    (s : Surroundings := .plain) : Run :=
  let prepared := prepare d o
  match prepared.result with
  | .error e => ⟨t, [], ⟨prepared.events, .error e⟩⟩
  | .ok (model, text) =>
    let emission := Output.emit t text target s
    ⟨emission.tree, emission.printed, do
      let _ ← prepared
      emission.journal.mapError fun e => ⟨.write, e⟩
      Journal.report (report model).event
      pure (report model)⟩

end Run

end TagSpec
