import TagSpec.Identifier
import TagSpec.Journal
import TagSpec.Spec
import TagSpec.StringLiteral

/-!
# Rendering specs

The text of a spec file: one variable per struct, a struct of structs that holds the name of each
field under each tag key. Before anything is written, `SpecFile.check` makes sure that the text can
be compiled; it leaves out fields that cannot be referred to.
-/

namespace TagSpec

-- ---------------------------------------------------------------------------
-- What cannot be rendered
-- ---------------------------------------------------------------------------

/-- What a name that should be an identifier names. -/
inductive NameRole where
  | package
  | struct
  | group (struct : String)
  | field (struct : String)
deriving DecidableEq, Repr

def NameRole.describe : NameRole → String
  | .package => "package name"
  | .struct => "struct name"
  | .group s => "tag group of struct '" ++ s ++ "'"
  | .field s => "field of struct '" ++ s ++ "'"

/-- Why a spec file cannot be rendered. -/
inductive RenderFault where
  | notIdentifier (role : NameRole) (name : String)
  | repeatedGroup (struct group : String)
  | repeatedField (field group struct : String)
  | other (text : String)
deriving DecidableEq, Repr

def RenderFault.message : RenderFault → String
  | .notIdentifier role name => role.describe ++ " '" ++ name ++ "' is not a valid Go identifier"
  | .repeatedGroup struct group =>
    "struct '" ++ struct ++ "' has several tag keys named '" ++ group ++ "' once capitalized"
  | .repeatedField field group struct =>
    "field '" ++ field ++ "' appears twice in tag group '" ++ group ++ "' of struct '" ++
      struct ++ "'"
  | .other text => text


-- ---------------------------------------------------------------------------
-- Checking
-- ---------------------------------------------------------------------------

/-- Fails unless a name is an identifier. -/
def checkName (role : NameRole) (name : String) : Journal RenderFault Unit :=
  if Identifier.isValid name then pure () else .fail (.notIdentifier role name)

/-- The report that a field cannot be referred to. -/
def blankFieldSkipped (struct group : String) : Event :=
  ⟨.debug, .rendering, "Skipping blank field",
    [("struct_name", .text struct), ("group", .text group)]⟩

/-- The entries of a group that can be referred to; `seen` are the fields of those before. -/
def checkEntries (struct group : String) :
    List String → List Entry → Journal RenderFault (List Entry)
  | _, [] => pure []
  | seen, e :: es =>
    if e.field = Identifier.blank then do
      Journal.report (blankFieldSkipped struct group)
      checkEntries struct group seen es
    else do
      checkName (.field struct) e.field
      if seen.contains e.field then .fail (.repeatedField e.field group struct)
      let kept ← checkEntries struct group (e.field :: seen) es
      pure (e :: kept)

/-- The groups with their entries that can be referred to, without groups that have none; `seen` are
the names of those before. -/
def checkGroups (struct : String) : List String → List Group → Journal RenderFault (List Group)
  | _, [] => pure []
  | seen, g :: gs => do
    checkName (.group struct) g.displayName
    if seen.contains g.displayName then .fail (.repeatedGroup struct g.displayName)
    let entries ← checkEntries struct g.displayName [] g.entries
    let kept ← checkGroups struct (g.displayName :: seen) gs
    pure (if entries.isEmpty then kept else ⟨g.displayName, entries⟩ :: kept)

/-- A spec as it can be written. -/
def Spec.check (s : Spec) : Journal RenderFault Spec := do
  checkName .struct s.name
  let groups ← checkGroups s.name [] s.groups
  pure ⟨s.name, groups⟩

/-- Specs as they can be written, or the first fault in the order of the document. -/
def checkSpecs : List Spec → Journal RenderFault (List Spec)
  | [] => pure []
  | s :: ss => do
    let checked ← s.check
    let rest ← checkSpecs ss
    pure (checked :: rest)

/-- A spec file as it can be written. -/
def SpecFile.check (f : SpecFile) : Journal RenderFault SpecFile := do
  checkName .package f.package
  let specs ← checkSpecs f.specs
  pure ⟨f.package, specs⟩


-- ---------------------------------------------------------------------------
-- Writing
-- ---------------------------------------------------------------------------

def padRight (width : Nat) (cs : List Char) : List Char :=
  cs ++ List.replicate (width - cs.length) ' '

def widest (texts : List (List Char)) : Nat := (texts.map List.length).foldl max 0

def lineOf (cs : List Char) : List Char := cs ++ ['\n']

namespace Group

def fieldNames (g : Group) : List (List Char) := g.entries.map fun e => e.field.toList

/-- The types of the fields, names filled up to one width. -/
def typeText (g : Group) : List Char :=
  g.entries.flatMap fun e =>
    lineOf ("\t\t".toList ++ padRight (widest g.fieldNames) e.field.toList ++ " string".toList)

/-- The values of the fields, names filled up to one width. -/
def valueText (g : Group) : List Char :=
  g.entries.flatMap fun e =>
    lineOf ("\t\t".toList ++ padRight (widest g.fieldNames + 1) (e.field.toList ++ [':']) ++
      ' ' :: StringLiteral.encode e.value.toList ++ [','])

/-- The part of the type that holds a group. -/
def declarationText (g : Group) : List Char :=
  lineOf ('\t' :: g.displayName.toList ++ " struct \x7b".toList) ++ g.typeText ++
    lineOf "\t\x7d".toList

/-- The part of the value that holds a group. -/
def literalText (g : Group) : List Char :=
  lineOf ('\t' :: g.displayName.toList ++ ": struct \x7b".toList) ++ g.typeText ++
    lineOf "\t\x7d\x7b".toList ++ g.valueText ++ lineOf "\t\x7d,".toList

end Group

/-- The variable of a spec. -/
def Spec.text (s : Spec) : List Char :=
  let name := s.name.toList
  lineOf ("// ".toList ++ name ++ "Spec lists struct tag names of ".toList ++ name ++
    " fields.".toList) ++
  if s.groups.isEmpty then
    lineOf ("var ".toList ++ name ++ "Spec = struct\x7b\x7d\x7b\x7d".toList)
  else
    lineOf ("var ".toList ++ name ++ "Spec = struct \x7b".toList) ++
      s.groups.flatMap Group.declarationText ++ lineOf "\x7d\x7b".toList ++
      s.groups.flatMap Group.literalText ++ lineOf "\x7d".toList

/-- The first line of every file. -/
def generatedHeader : String := "// Code generated by structspec. DO NOT EDIT."

/-- The text of a spec file. -/
def SpecFile.text (f : SpecFile) : List Char :=
  lineOf generatedHeader.toList ++ lineOf [] ++
    lineOf ("package ".toList ++ f.package.toList) ++
    f.specs.flatMap fun s => lineOf [] ++ s.text

/-- The text of a spec file, if it can be written. -/
def SpecFile.render (f : SpecFile) : Journal RenderFault String := do
  let checked ← f.check
  pure (String.ofList checked.text)

end TagSpec
