import TagSpec.Declaration
import TagSpec.Source.SyntaxTree
import TagSpec.Tags.Reading

/-!
# Declarations in a source

The struct types that a source declares and the package that it belongs to, read off its derivation
tree. A declaration counts wherever it stands; a struct type that is not itself given a name, inside
another type or behind an alias, is none.
-/

namespace TagSpec.Source

-- ---------------------------------------------------------------------------
-- Nodes of a tree
-- ---------------------------------------------------------------------------

mutual

/-- The children of every node of a symbol, a node before those inside it. -/
def Tree.select (s : Symbol) : SyntaxTree → List (List SyntaxTree)
  | .leaf _ => []
  | .node r children =>
    (if r = s then [children] else []) ++ Tree.selectAll s children

/-- The children of every node of a symbol in a list of trees. -/
def Tree.selectAll (s : Symbol) : List SyntaxTree → List (List SyntaxTree)
  | [] => []
  | t :: ts => Tree.select s t ++ Tree.selectAll s ts

end

def Tree.token? : SyntaxTree → Option Token
  | .leaf t => some t
  | .node _ _ => none

/-- The children of a tree, if it is a node of the symbol. -/
def Tree.children? (s : Symbol) : SyntaxTree → Option (List SyntaxTree)
  | .leaf _ => none
  | .node r children => if r = s then some children else none

/-- The tokens of a kind that stand in a list of trees by themselves. -/
def tokensOf (kind : TokenKind) (ts : List SyntaxTree) : List Token :=
  ts.filterMap fun t => t.token?.filter fun u => u.kind = kind

def Token.string (t : Token) : String := String.ofList t.text


-- ---------------------------------------------------------------------------
-- Fields
-- ---------------------------------------------------------------------------

/-- The fields that one declaration names, and its tag as written. -/
structure FieldDeclaration where
  names : List String
  tag : Option Token
deriving DecidableEq, Repr

/-- The name by which a struct embeds a type: that of the type itself. -/
def embeddedName (typeName : List SyntaxTree) : String :=
  match (tokensOf .name typeName).getLast? with
  | some t => t.string
  | none => ""

/-- The fields that a member of a struct declares. -/
def fieldDeclaration? (t : SyntaxTree) : Option FieldDeclaration :=
  match t.children? .namedField, t.children? .embeddedField with
  | some children, _ =>
    some ⟨(tokensOf .name children).map Token.string, (tokensOf .string children).head?⟩
  | none, some children =>
    (children.findSome? (·.children? .typeName)).map fun typeName =>
      ⟨[embeddedName typeName], (tokensOf .string children).head?⟩
  | none, none => none


-- ---------------------------------------------------------------------------
-- Structs
-- ---------------------------------------------------------------------------

/-- A struct type as declared: the token that names it, and its fields. -/
structure StructDeclaration where
  name : Token
  fields : List FieldDeclaration
deriving DecidableEq, Repr

/-- The struct type that a type spec declares, if the type is a struct. -/
def structDeclaration? (spec : List SyntaxTree) : Option StructDeclaration := do
  let name ← (tokensOf .name spec).head?
  let type ← spec.findSome? (·.children? .type)
  let body ← match type with
    | [t] => t.children? .structType
    | _ => none
  some ⟨name, body.filterMap fieldDeclaration?⟩

/-- The struct types that a source declares, in the order in which they are named. -/
def structDeclarations (tree : SyntaxTree) : List StructDeclaration :=
  (tree.select .typeSpec).filterMap structDeclaration?

/-- A struct and the place of its name. -/
structure Located where
  struct : Struct
  position : Position
deriving DecidableEq

/-- A tag that cannot be read: the fields and the struct that carry it, and its place. -/
structure BadTag where
  fields : List String
  struct : String
  fault : TagFault
  position : Position
deriving DecidableEq, Repr

def BadTag.message (b : BadTag) : String :=
  "parse field '" ++ ", ".intercalate b.fields ++ "' of struct '" ++ b.struct ++ "': " ++
    b.fault.message

/-- The fields of a declaration, each with the tags of all. -/
def FieldDeclaration.fields (struct : String) (d : FieldDeclaration) :
    Except BadTag (List Field) :=
  match d.tag with
  | none => .ok (d.names.map fun name => ⟨name, Tags.empty⟩)
  | some t =>
    match Tags.ofLiteral t.string with
    | .ok tags => .ok (d.names.map fun name => ⟨name, tags⟩)
    | .error fault => .error ⟨d.names, struct, fault, t.position⟩

/-- The struct that is declared, if all its tags can be read. -/
def StructDeclaration.struct (d : StructDeclaration) : Except BadTag Located := do
  let fields ← d.fields.mapM (FieldDeclaration.fields d.name.string)
  pure ⟨⟨d.name.string, fields.flatten⟩, d.name.position⟩

/-- The structs that a source declares, or the first tag that cannot be read. -/
def structs (tree : SyntaxTree) : Except BadTag (List Located) :=
  (structDeclarations tree).mapM StructDeclaration.struct


-- ---------------------------------------------------------------------------
-- Packages
-- ---------------------------------------------------------------------------

/-- The package that the first package clause names. A comment in front of the name is taken for
it. -/
def packageName? (tree : SyntaxTree) : Option String :=
  (tree.select .packageClause).head?.bind fun clause =>
    (tokensOf .name clause).head?.map fun t => String.ofList (t.comment.getD t.text)


-- ---------------------------------------------------------------------------
-- Damaged tags
-- ---------------------------------------------------------------------------

/-- The tag literals that are read on the way to the structs of a source: all up to the first that
cannot be read. -/
def tagLiterals (tree : SyntaxTree) : List String :=
  let literals := (structDeclarations tree).flatMap fun d =>
    d.fields.filterMap fun f => f.tag.map Token.string
  let readable := fun (l : String) => (Tags.ofLiteral l).isOk
  literals.takeWhile readable ++ (literals.dropWhile readable).take 1

/-- The string literals in those tags whose bytes are not all text, in order. -/
def damagedTags (tree : SyntaxTree) : List String := (tagLiterals tree).flatMap Tags.damagedLiterals

end TagSpec.Source
