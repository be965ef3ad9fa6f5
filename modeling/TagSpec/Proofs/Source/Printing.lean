import TagSpec.Package
import TagSpec.Proofs.Outcomes
import TagSpec.Proofs.Source.Declarations
import TagSpec.Proofs.Source.Lines
import TagSpec.Proofs.Tags.Printing
import TagSpec.Spec.Rendering

/-!
# Declarations written and read back

The text of a source that declares structs whose fields are all strings, each with its tags. Reading
gives the structs that were written.
-/

namespace TagSpec

open Source

/-! ## Writing -/

/-- The literal that the tags of a field are written to, if it has any. -/
def Field.literal? (f : Field) : Option (List Char) :=
  if f.tags.entries.isEmpty then none else some f.tags.literal

/-- The line of a field. -/
def Field.source (f : Field) : List Char :=
  lineOf ('\t' :: f.name.toList ++ " string".toList ++ (f.literal?.map (' ' :: ·)).getD [])

/-- The declaration of a struct. -/
def Struct.source (s : Struct) : List Char :=
  lineOf ("type ".toList ++ s.name.toList ++ " struct \x7b".toList) ++
    s.fields.flatMap Field.source ++ lineOf "\x7d".toList

/-- A source of a package that declares structs. -/
def sourceOf (package : String) (ss : List Struct) : List Char :=
  lineOf ("package ".toList ++ package.toList) ++ ss.flatMap Struct.source

/-- A field that can be written. -/
structure Field.Writable (f : Field) : Prop where
  name : IsName f.name.toList
  tags : ∀ e ∈ f.tags.entries, Tags.Writable e

/-- A struct that can be written. -/
structure Struct.Writable (s : Struct) : Prop where
  name : IsName s.name.toList
  fields : ∀ f ∈ s.fields, f.Writable

/-! ## Fields -/

namespace Field

def line (f : Field) : List Item := fieldLine 1 0 f.name.toList f.literal?

def tokens (f : Field) : List Token := fieldTokens f.name.toList f.literal?

def trees (f : Field) : List SyntaxTree := [fieldTree f.name.toList f.literal?]

theorem layout_line (f : Field) : layout f.line = f.source := by
  unfold line fieldLine source
  cases f.literal? with
  | none => simp [Item.text, lineOf, blanks]
  | some text => simp [Item.text, lineOf, blanks]

theorem Writable.lines {f : Field} (h : f.Writable) : Lines true true f.line f.tokens := by
  refine lines_fieldLine 1 0 h.name ?_
  intro text htext rest
  unfold literal? at htext
  split at htext
  · cases htext
  · cases htext
    exact Item.cut_rawString (Tags.notMem_text (.inr rfl) h.tags)

/-- The lines of fields are read as members, one by one. -/
theorem readsLines (fs : List Field) : ReadsLines 3 member tokens trees fs :=
  fun _ _ => ⟨Token.startsFresh _ _, fun _ hts => gives_field _ _ hts⟩

/-- What the line of a field declares. -/
def declaration (f : Field) : FieldDeclaration := ⟨[f.name], f.literal?.map (Token.plain .string)⟩

theorem fieldDeclaration?_trees (fs : List Field) :
    (fs.flatMap trees).filterMap fieldDeclaration? = fs.map declaration := by
  induction fs with
  | nil => rfl
  | cons f fs ih =>
    rw [List.flatMap_cons, List.filterMap_append, ih, List.map_cons]
    simp [trees, fieldDeclaration?_fieldTree, declaration]

/-- The field that was written is read, with its tags. -/
theorem Writable.fields_declaration {f : Field} (h : f.Writable) (struct : String) :
    f.declaration.fields struct = .ok [f] := by
  unfold FieldDeclaration.fields declaration literal?
  split
  · next hnone =>
    have hempty : f.tags.entries = [] := by
      by_contra hne
      simp [hne] at hnone
    have htags : f.tags = Tags.empty := Tags.ext hempty
    rw [List.map_singleton, ← htags]
  · next t hsome =>
    have ht : t.string = String.ofList f.tags.literal := by
      split at hsome
      · cases hsome
      · cases hsome
        rfl
    rw [ht, Tags.ofLiteral_literal h.tags]
    rfl

end Field

/-! ## Structs -/

namespace Struct

def lines (s : Struct) : List Item :=
  [.token .keyword "type".toList, .blank ' ', .token .name s.name.toList, .blank ' ',
    .token .keyword "struct".toList, .blank ' ', .token .sign "\x7b".toList, .blank '\n'] ++
    (s.fields.flatMap Field.line ++ closeLine 0 [])

def tokens (s : Struct) : List Token :=
  (Token.keyword "type").onNewLine :: Token.name s.name.toList ::
    structTokens (s.fields.flatMap Field.tokens) []

/-- The tree of the spec in the declaration of a struct. -/
def specTrees (s : Struct) : List SyntaxTree :=
  [.leaf (Token.name s.name.toList), .node .type [structTree (s.fields.flatMap Field.trees)]]

def tree (s : Struct) : SyntaxTree :=
  .node .statement [.node .typeDeclaration
    [.leaf (Token.keyword "type"), .node .typeSpec s.specTrees]]

theorem layout_lines (s : Struct) : layout s.lines = s.source := by
  have hfields : layout (s.fields.flatMap Field.line) = s.fields.flatMap Field.source := by
    rw [layout_flatMap]
    congr 1
    funext f
    exact f.layout_line
  simp [lines, source, closeLine, Item.text, lineOf, hfields]

theorem Writable.lines {s : Struct} (h : s.Writable) : Lines true true s.lines s.tokens := by
  have htype : ∀ rest, (Item.token .keyword "type".toList).Cut (' ' :: rest) := fun rest =>
    Item.cut_keyword (by rfl) (by rfl) (by simp [endsWord, isNameTail_space])
  refine Lines.structType [(Token.keyword "type").onNewLine, Token.name s.name.toList] ?_
    (Lines.flatMap fun f hf => (h.fields f hf).lines) (lines_closeLine 0 [] (by decide))
  refine ⟨fun rest => ?_, fun afterName => by cases afterName <;> exact ⟨rfl, _, rfl⟩⟩
  exact ⟨htype _, Item.cut_blank (by decide), h.name.cut isNameTail_space,
    Item.cut_blank (by decide), cut_struct isNameTail_space, Item.cut_blank (by decide),
    Item.cut_brace (by decide), Item.cut_blank (by decide), trivial⟩

/-- A declaration of a struct is read as one part of a file. -/
theorem gives_part (s : Struct) {ts : List Token} (h : StartsFresh ts) :
    Gives 8 part (settle (s.tokens ++ ts)) (some ([s.tree], settle ts)) := by
  have htype := gives_type_struct (Field.readsLines s.fields) ts
  have hspec : Gives 6 (.ref .typeSpec)
      (Token.name s.name.toList :: structTokens (s.fields.flatMap Field.tokens) ts)
      (some ([.node .typeSpec s.specTrees], ts)) :=
    Gives.ref (Gives.alt_left (Gives.seq (gives_name _ _) (Gives.seq (Gives.joined_settled rfl) htype)))
  have halias : Gives 6 (.ref .typeAlias)
      (Token.name s.name.toList :: structTokens (s.fields.flatMap Field.tokens) ts) none :=
    Gives.ref_none (Gives.seq_some_none (gives_name _ _)
      ((Gives.of_refuses (by rfl) _).mono (Nat.zero_le 5)))
  have hdeclaration := Gives.ref (s := .typeDeclaration)
    (Gives.seq (gives_word "type" _) (Gives.alt_right halias (Gives.alt_left hspec)))
  have hstatement := Gives.ref (s := .statement) (Gives.alt_refused rfl (Gives.alt_left hdeclaration))
  have htokens : settle (s.tokens ++ ts) = Token.keyword "type" :: Token.name s.name.toList ::
      structTokens (s.fields.flatMap Field.tokens) ts := by
    rw [tokens, List.cons_append, List.cons_append, structTokens_append, List.nil_append]
    rfl
  rw [htokens]
  exact Gives.alt_refused rfl (Gives.alt_left
    (Gives.seq hstatement ((h.terminator false).mono (Nat.zero_le 8))))

theorem namesNoType_specTrees (s : Struct) : NamesNoType s.specTrees := by
  have hfields : NamesNoType (s.fields.flatMap Field.trees) :=
    .flatMap fun f _ => namesNoType_fieldTree _ _
  exact .cons (.leaf _) (.node (by decide) (namesNoType_structTree hfields))

theorem typeSpecs_tree (s : Struct) : typeSpecs [s.tree] = [s.specTrees] := by
  have hspec : typeSpecs [.leaf (Token.keyword "type"), .node .typeSpec s.specTrees] =
      [s.specTrees] := by
    show typeSpecs [.node .typeSpec s.specTrees] = _
    rw [typeSpecs_typeSpec, s.namesNoType_specTrees]
  rw [tree, typeSpecs_node (by decide), typeSpecs_node (by decide), hspec]

/-- What the lines of a struct declare. -/
def declaration (s : Struct) : StructDeclaration :=
  ⟨Token.name s.name.toList, s.fields.map Field.declaration⟩

/-- What is read of the lines of a struct is what they declare. -/
theorem structDeclaration?_specTrees (s : Struct) :
    structDeclaration? s.specTrees = some s.declaration := by
  rw [specTrees, structDeclaration?_structTree, Field.fieldDeclaration?_trees]
  rfl

theorem structDeclaration?_trees (ss : List Struct) :
    (typeSpecs (ss.flatMap fun s => [s.tree])).filterMap structDeclaration? =
      ss.map declaration := by
  induction ss with
  | nil => rfl
  | cons s ss ih =>
    rw [List.flatMap_cons, typeSpecs_append, List.filterMap_append, ih, typeSpecs_tree,
      List.map_cons]
    simp [structDeclaration?_specTrees]

/-- The struct that was written is read. -/
theorem Writable.struct_declaration {s : Struct} (h : s.Writable) :
    s.declaration.struct = .ok ⟨s, Position.start⟩ := by
  have hname : s.declaration.name.string = s.name := String.ofList_toList
  have hfields : s.declaration.fields.mapM (FieldDeclaration.fields s.name) =
      .ok (s.fields.map fun f => [f]) := by
    rw [mapM_eq_ok_iff, declaration, List.forall₂_map_left_iff, List.forall₂_map_right_iff]
    exact List.forall₂_same.2 fun f hf => (h.fields f hf).fields_declaration s.name
  have hflat : (s.fields.map fun f => [f]).flatten = s.fields := by
    rw [← List.flatMap_def, List.flatMap_singleton']
  rw [StructDeclaration.struct, hname, hfields]
  show Except.ok (⟨⟨s.name, _⟩, Position.start⟩ : Located) = _
  rw [hflat]

end Struct

/-! ## Sources -/

section

variable {package : String} {ss : List Struct}

def linesOf (package : String) (ss : List Struct) : List Item :=
  packageLine package.toList ++ ss.flatMap Struct.lines

def partsOf (package : String) (ss : List Struct) : List (List Token × List SyntaxTree) :=
  (packageTokens none package.toList, [packageTree none package.toList]) ::
    ss.map fun s => (s.tokens, [s.tree])

theorem layout_linesOf (package : String) (ss : List Struct) :
    layout (linesOf package ss) = sourceOf package ss := by
  have hstructs : layout (ss.flatMap Struct.lines) = ss.flatMap Struct.source := by
    rw [layout_flatMap]
    congr 1
    funext s
    exact s.layout_lines
  simp [linesOf, sourceOf, packageLine, Item.text, lineOf, hstructs]

/-- The parts of a source that declares structs are read one by one. -/
theorem readsParts_partsOf (package : String) (ss : List Struct) :
    ReadsParts 8 (partsOf package ss) := by
  intro p hp
  rcases List.mem_cons.1 hp with rfl | hp
  · exact ⟨⟨_, _, rfl, rfl⟩, fun ts hts => (gives_package _ _ hts).mono (by decide)⟩
  · obtain ⟨s, -, rfl⟩ := List.mem_map.1 hp
    exact ⟨⟨_, _, rfl, rfl⟩, fun ts hts => s.gives_part hts⟩

/-- A source that declares structs has the tokens of its parts. -/
theorem lines_linesOf (hp : IsName package.toList) (hs : ∀ s ∈ ss, s.Writable) :
    Lines true true (linesOf package ss) ((partsOf package ss).flatMap Prod.fst) := by
  have hhead : Lines true true (packageLine package.toList) (packageTokens none package.toList) :=
    ⟨closed_packageLine hp, fun afterName => by cases afterName <;> exact ⟨rfl, _, rfl⟩⟩
  have hstructs : Lines true true (ss.flatMap Struct.lines) (ss.flatMap Struct.tokens) :=
    Lines.flatMap fun s hmem => (hs s hmem).lines
  rw [partsOf, List.flatMap_cons, List.flatMap_map]
  exact hhead.append hstructs

/-- The structs that were written are read, and the package too. -/
theorem exists_structs_sourceOf (hp : IsName package.toList) (hs : ∀ s ∈ ss, s.Writable) :
    ∃ tree located, parse (sourceOf package ss) = .ok tree ∧ packageName? tree = some package ∧
      structs tree = .ok located ∧ located.map Located.struct = ss := by
  have hmark : (layout (linesOf package ss)).head? ≠ some byteOrderMark := by
    rw [layout_linesOf, show (sourceOf package ss).head? = some 'p' by rfl]
    decide
  obtain ⟨tree, afterName, hparse, htree⟩ := exists_parse_layout (lines_linesOf hp hs)
    (readsParts_partsOf package ss) (by decide) (List.cons_ne_nil _ _) hmark
  rw [layout_linesOf] at hparse
  have htrees : (partsOf package ss).flatMap Prod.snd =
      packageTree none package.toList :: ss.flatMap fun s => [s.tree] := by
    rw [partsOf, List.flatMap_cons, List.flatMap_map]
    rfl
  have hpackage : packageName? tree = some package := by
    rw [← packageName?_bare, htree, htrees, packageName?_fileTree, String.ofList_toList]
  have hspecs : structDeclarations tree.bare = ss.map Struct.declaration := by
    have hclause : typeSpecs [packageTree none package.toList] = [] := rfl
    rw [htree, htrees, structDeclarations_fileTree, ← List.singleton_append, typeSpecs_append,
      hclause, List.nil_append, Struct.structDeclaration?_trees]
  have hstructs : structs tree.bare = .ok (ss.map fun s => ⟨s, Position.start⟩) := by
    rw [structs, hspecs, mapM_eq_ok_iff, List.forall₂_map_left_iff, List.forall₂_map_right_iff]
    exact List.forall₂_same.2 fun s hmem => (hs s hmem).struct_declaration
  obtain ⟨located, hlocated, hsame⟩ := exists_structs_of_bare hstructs
  refine ⟨tree, located, hparse, hpackage, hlocated, ?_⟩
  rw [hsame, List.map_map]
  exact List.map_id _

/-- Reading a source gives the structs that it was written for, with their fields and the tags of
these, and the package that it was written for. -/
theorem structsAt_sourceOf (hp : IsName package.toList) (hs : ∀ s ∈ ss, s.Writable)
    (path : String) :
    (∃ located, (Package.structsAt path (sourceOf package ss)).result = .ok located ∧
      located.map Located.struct = ss) ∧
      Package.nameAt path (sourceOf package ss) = .ok (some package) := by
  obtain ⟨tree, located, hparse, hpackage, hlocated, hsame⟩ := exists_structs_sourceOf hp hs
  refine ⟨⟨located, Package.result_structsAt_of_parse hparse hlocated path, hsame⟩, ?_⟩
  rw [Package.nameAt_of_parse hparse, hpackage]

end

/-- A struct whose tags hold a quote, a line feed, an option and an empty name. -/
theorem structsAt_sourceOf_sample :
    let json : String × TagValue := ("json", ⟨"näme", ["omitempty", "a\"\n\x60\\b"]⟩)
    let xml : String × TagValue := ("xml", ⟨"", []⟩)
    let s : Struct := ⟨"User", [⟨"Name", Tags.ofList [json, xml]⟩, ⟨"_", Tags.empty⟩]⟩
    IsName "model".toList ∧ s.Writable ∧
      (∃ located, (Package.structsAt "a.go" (sourceOf "model" [s, s])).result = .ok located ∧
        located.map Located.struct = [s, s]) ∧
      Package.nameAt "a.go" (sourceOf "model" [s, s]) = .ok (some "model") := by
  intro json xml s
  have hmodel : IsName "model".toList := ⟨by rfl, by rfl⟩
  have huser : IsName "User".toList := ⟨by rfl, by rfl⟩
  have hname : IsName "Name".toList := ⟨by rfl, by rfl⟩
  have hblank : IsName "_".toList := ⟨by rfl, by rfl⟩
  have hjson : Tags.Writable json := ⟨by decide, by simp [json], by simp [json]⟩
  have hxml : Tags.Writable xml := ⟨by decide, by simp [xml], by simp [xml]⟩
  have hs : s.Writable := by
    refine ⟨huser, ?_⟩
    intro f hf
    rcases List.mem_cons.1 hf with rfl | hf
    · refine ⟨hname, ?_⟩
      intro e he
      have hentries : (Tags.ofList [json, xml]).entries = [json, xml] := by decide
      rw [hentries] at he
      rcases List.mem_cons.1 he with rfl | he
      · exact hjson
      · exact List.mem_singleton.1 he ▸ hxml
    · obtain rfl := List.mem_singleton.1 hf
      exact ⟨hblank, fun e he => nomatch he⟩
  have hall : ∀ r ∈ [s, s], r.Writable := by
    intro r hr
    rcases List.mem_cons.1 hr with rfl | hr
    · exact hs
    · exact List.mem_singleton.1 hr ▸ hs
  exact ⟨hmodel, hs, structsAt_sourceOf hmodel hall "a.go"⟩

end TagSpec
