import TagSpec.Proofs.Source.Places
import TagSpec.Proofs.Source.Structs

/-!
# Declarations in trees

What is read off the trees of struct types and package clauses.
-/

namespace TagSpec.Source

/-! ## Selecting -/

theorem selectAll_append (s : Symbol) (ts us : List SyntaxTree) :
    Tree.selectAll s (ts ++ us) = Tree.selectAll s ts ++ Tree.selectAll s us := by
  induction ts with
  | nil => rfl
  | cons t ts ih => rw [List.cons_append, Tree.selectAll, Tree.selectAll, ih, List.append_assoc]

/-- The children of the type specs in a list of trees. -/
def typeSpecs (ts : List SyntaxTree) : List (List SyntaxTree) := Tree.selectAll .typeSpec ts

theorem typeSpecs_append (ts us : List SyntaxTree) :
    typeSpecs (ts ++ us) = typeSpecs ts ++ typeSpecs us :=
  selectAll_append .typeSpec ts us

theorem typeSpecs_flatMap {α : Type} (as : List α) (trees : α → List SyntaxTree) :
    typeSpecs (as.flatMap trees) = as.flatMap fun a => typeSpecs (trees a) := by
  induction as with
  | nil => rfl
  | cons a as ih => rw [List.flatMap_cons, List.flatMap_cons, typeSpecs_append, ih]

/-- The type specs in a node that is none itself are those in its children. -/
theorem typeSpecs_node {s : Symbol} (hs : s ≠ .typeSpec) (ts : List SyntaxTree) :
    typeSpecs [.node s ts] = typeSpecs ts := by
  simp [typeSpecs, Tree.selectAll, Tree.select, hs]

theorem typeSpecs_typeSpec (ts : List SyntaxTree) :
    typeSpecs [.node .typeSpec ts] = ts :: typeSpecs ts := by
  simp [typeSpecs, Tree.selectAll, Tree.select]

/-! ## Trees that name no type -/

/-- No type is named in these trees. -/
def NamesNoType (ts : List SyntaxTree) : Prop := typeSpecs ts = []

theorem NamesNoType.append {ts us : List SyntaxTree} (ht : NamesNoType ts) (hu : NamesNoType us) :
    NamesNoType (ts ++ us) := by
  unfold NamesNoType at ht hu ⊢
  rw [typeSpecs_append, ht, hu, List.append_nil]

theorem NamesNoType.flatMap {α : Type} {as : List α} {trees : α → List SyntaxTree}
    (h : ∀ a ∈ as, NamesNoType (trees a)) : NamesNoType (as.flatMap trees) := by
  unfold NamesNoType at h ⊢
  rw [typeSpecs_flatMap]
  exact List.flatMap_eq_nil_iff.2 h

theorem NamesNoType.node {s : Symbol} {ts : List SyntaxTree} (hs : s ≠ .typeSpec)
    (h : NamesNoType ts) : NamesNoType [.node s ts] :=
  (typeSpecs_node hs ts).trans h

theorem NamesNoType.cons {t : SyntaxTree} {ts : List SyntaxTree} (ht : NamesNoType [t])
    (hts : NamesNoType ts) : NamesNoType (t :: ts) :=
  ht.append hts

theorem NamesNoType.leaf (t : Token) : NamesNoType [.leaf t] := rfl

theorem namesNoType_structTree {members : List SyntaxTree} (h : NamesNoType members) :
    NamesNoType [structTree members] :=
  .node (by decide) (.cons (.leaf _) (.cons (.leaf _) (h.append (.leaf _))))

/-! ## Fields -/

/-- A field declares its name, with the literal behind its type for its tag. -/
theorem fieldDeclaration?_fieldTree (name : List Char) (tag : Option (List Char)) :
    fieldDeclaration? (fieldTree name tag) =
      some ⟨[String.ofList name], tag.map (Token.plain .string)⟩ := by
  cases tag <;> rfl

theorem namesNoType_fieldTree (name : List Char) (tag : Option (List Char)) :
    NamesNoType [fieldTree name tag] := by
  cases tag <;> rfl

/-- A type spec of a struct type declares its name, with the fields that its members declare. -/
theorem structDeclaration?_structTree (name : List Char) (members : List SyntaxTree) :
    structDeclaration? [.leaf (Token.name name), .node .type [structTree members]] =
      some ⟨Token.name name, members.filterMap fieldDeclaration?⟩ := by
  have hbody : (.leaf (Token.keyword "struct") :: .leaf (Token.sign "\x7b") ::
      (members ++ [.leaf (Token.sign "\x7d")])).filterMap fieldDeclaration? =
      members.filterMap fieldDeclaration? := by
    have hbrace : [Tree.leaf (Token.sign "\x7d")].filterMap fieldDeclaration? = [] := rfl
    rw [← List.append_nil (members.filterMap fieldDeclaration?), ← hbrace, ← List.filterMap_append]
    rfl
  rw [← hbody]
  rfl

/-! ## Files -/

/-- The structs of a file are those that the type specs in its parts declare. -/
theorem structDeclarations_fileTree (afterName : Bool) (trees : List SyntaxTree) :
    structDeclarations (fileTree afterName trees) =
      (typeSpecs trees).filterMap structDeclaration? := by
  have hfinish : typeSpecs [.leaf { Token.finish afterName with fresh := false }] = [] := rfl
  have hparts : (fileTree afterName trees).select .typeSpec = typeSpecs trees := by
    rw [← List.append_nil (typeSpecs trees), ← hfinish, ← typeSpecs_append]
    rfl
  rw [structDeclarations, hparts]

/-- The name of a file is that of the package clause in front. -/
theorem packageName?_fileTree (comment : Option (List Char)) (name : List Char) (afterName : Bool)
    (trees : List SyntaxTree) :
    packageName? (fileTree afterName (packageTree comment name :: trees)) =
      some (String.ofList name) := rfl

end TagSpec.Source
