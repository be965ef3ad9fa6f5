import TagSpec.Package
import TagSpec.Proofs.Source.Declarations
import TagSpec.Proofs.Spec.Layout
import TagSpec.Proofs.Text.Trimming

/-!
# Rendered text read back

A rendered spec file is a source of its package that declares no structs and that takes part in
builds, so that it may lie among the sources that it was made from.
-/

namespace TagSpec

open Source

/-! ## The header -/

theorem cutLine_append {line : List Char} (h : '\n' ∉ line) (rest : List Char) :
    cutLine (line ++ '\n' :: rest) = (line, some rest) := by
  induction line with
  | nil => rfl
  | cons c cs ih =>
    have hc : ¬ c = '\n' := fun hc => h (hc ▸ List.mem_cons_self)
    rw [List.cons_append, cutLine, if_neg hc, ih fun hmem => h (List.mem_cons_of_mem c hmem)]

theorem dropReturn_eq {line : List Char} (h : '\r' ∉ line) : dropReturn line = line := by
  have hsuffix : ¬ ['\r'].isSuffixOf line = true := by
    rw [List.isSuffixOf_iff_suffix]
    exact fun hs => h (hs.subset (List.mem_singleton_self _))
  rw [dropReturn, dropTail?, if_neg hsuffix]
  rfl

theorem textLines_append (line : List Char) (hn : '\n' ∉ line) (hr : '\r' ∉ line)
    (rest : List Char) : textLines (line ++ '\n' :: rest) = line :: textLines rest := by
  have hcut := cutLine_append hn rest
  rw [textLines]
  split
  · next hnone =>
    rw [hcut] at hnone
    cases hnone
  · next rest' hsome =>
    rw [hcut] at hsome
    cases hsome
    rw [hcut, dropReturn_eq hr]

/-- A line that begins with a letter of the package clause ends the header. -/
theorem headerLine_package (cs : List Char) : headerLine ('p' :: cs) = .stop := by
  rw [headerLine, trim_cons (by decide)]
  rfl

/-! ## Values -/

theorem namesNoType_valueTree {elements : List SyntaxTree} (h : NamesNoType elements) :
    NamesNoType [valueTree elements] :=
  .node (by decide) (.cons (.leaf _) (h.append (.leaf _)))

/-- A value of a struct type names no type if nothing in it does. -/
theorem namesNoType_structValueTree {members elements : List SyntaxTree}
    (hm : NamesNoType members) (he : NamesNoType elements) :
    NamesNoType [structValueTree members elements] := by
  have hoperand := (namesNoType_structTree hm).append (namesNoType_valueTree he)
  exact .node (by decide) (.node (by decide) (.node (by decide) (.node (by decide) hoperand)))

theorem namesNoType_elementTrees {α : Type} {as : List α} {trees : α → List SyntaxTree}
    (comma : Token) (h : ∀ a ∈ as, NamesNoType (trees a)) :
    NamesNoType (elementTrees trees comma as) :=
  .flatMap fun a ha => (h a ha).append (.leaf comma)

/-! ## Specs -/

theorem Entry.namesNoType_typeTrees (es : List Entry) :
    NamesNoType (es.flatMap Entry.typeTrees) :=
  .flatMap fun _ _ => rfl

theorem Entry.namesNoType_valueTrees (e : Entry) : NamesNoType e.valueTrees := rfl

theorem Group.namesNoType_declarationTrees (g : Group) : NamesNoType g.declarationTrees := by
  have htype := namesNoType_structTree (Entry.namesNoType_typeTrees g.entries)
  exact .node (by decide) (.cons (.leaf _) (.node (by decide) htype))

theorem Group.namesNoType_literalTrees (g : Group) : NamesNoType g.literalTrees := by
  have hvalue := namesNoType_structValueTree (Entry.namesNoType_typeTrees g.entries)
    (namesNoType_elementTrees (Token.sign ",") fun e (_ : e ∈ g.entries) => e.namesNoType_valueTrees)
  exact .node (by decide) (.cons rfl (.cons (.leaf _) hvalue))

/-- The variable of a spec names no type. -/
theorem Spec.namesNoType_tree (comment : List Char) (s : Spec) :
    NamesNoType [s.tree comment] := by
  have hvalue := namesNoType_structValueTree
    (.flatMap fun g (_ : g ∈ s.groups) => g.namesNoType_declarationTrees)
    (namesNoType_elementTrees (Token.sign ",") fun g (_ : g ∈ s.groups) => g.namesNoType_literalTrees)
  have hspec : NamesNoType [.node .varSpec [.leaf (Token.name s.variableName),
      .leaf (Token.sign "="), _]] := .node (by decide) (.cons (.leaf _) (.cons (.leaf _) hvalue))
  exact .node (by decide) (.node (by decide) (.node (by decide) (.cons (.leaf _) hspec)))

namespace SpecFile

/-- No part of a spec file names a type. -/
theorem namesNoType_parts (f : SpecFile) : NamesNoType (f.parts.flatMap Prod.snd) := by
  rw [parts, List.flatMap_cons, List.flatMap_map]
  exact .append rfl (.flatMap fun s _ => s.namesNoType_tree s.comment)

/-! ## Reading back -/

/-- The text of a spec file is read as its parts. -/
theorem exists_parse_text {f : SpecFile} (h : ∀ n ∈ f.names, IsName n.toList) :
    ∃ tree, parse f.text = .ok tree ∧ packageName? tree = some f.package ∧
      structDeclarations tree = [] := by
  have hmark : (layout f.lines).head? ≠ some byteOrderMark := by
    rw [layout_lines, show f.text.head? = some '/' by rfl]
    decide
  obtain ⟨tree, afterName, hparse, htree⟩ := exists_parse_layout (lines_lines h) (readsParts f)
    (by decide) (List.cons_ne_nil _ _) hmark
  rw [layout_lines] at hparse
  refine ⟨tree, hparse, ?_, ?_⟩
  · rw [← packageName?_bare, htree, parts, List.flatMap_cons, List.singleton_append,
      packageName?_fileTree, String.ofList_toList]
  · have hbare : structDeclarations tree.bare = [] := by
      rw [htree, structDeclarations_fileTree, f.namesNoType_parts]
      rfl
    rw [structDeclarations_bare] at hbare
    exact List.map_eq_nil_iff.1 hbare

/-- The package clause ends the header, in which no line says anything about builds. -/
theorem isBuildIgnored_text {f : SpecFile} (h : IsName f.package.toList) :
    isBuildIgnored f.text = false := by
  have hnewline : '\n' ∉ "package ".toList ++ f.package.toList :=
    List.not_mem_append (by decide) (h.notMem (by rfl) (by rfl))
  have hreturn : '\r' ∉ "package ".toList ++ f.package.toList :=
    List.not_mem_append (by decide) (h.notMem (by rfl) (by rfl))
  have hlines : textLines f.text = generatedHeader.toList :: [] ::
      ("package ".toList ++ f.package.toList) ::
        textLines (f.specs.flatMap fun s => lineOf [] ++ s.text) := by
    rw [← textLines_append _ hnewline hreturn, ← textLines_append [] (by simp) (by simp),
      ← textLines_append generatedHeader.toList (by decide) (by decide)]
    simp [text, lineOf]
  have hheader : headerLine generatedHeader.toList = .other := by rfl
  have hempty : headerLine [] = .other := rfl
  have hclause : headerLine ("package ".toList ++ f.package.toList) = .stop := headerLine_package _
  rw [isBuildIgnored, hlines, ignoresBuild, hheader, ignoresBuild, hempty, ignoresBuild, hclause]

/-- What is rendered can be read back: it is a source of the same package, it declares no structs,
and it takes part in builds. -/
theorem render_readable {f : SpecFile} {t : String} (hrender : f.render.result = .ok t)
    (hwords : ∀ n ∈ f.names, isWord n.toList = true) (path : String) :
    (parse t.toList).isOk = true ∧
      Package.nameAt path t.toList = .ok (some f.package) ∧
      (Package.structsAt path t.toList).result = .ok [] ∧
      isBuildIgnored t.toList = false := by
  obtain ⟨written, htext, hpackage, hkept⟩ := render_eq_ok hrender
  have hnames : ∀ n ∈ written.names, IsName n.toList := by
    intro n hn
    obtain ⟨hmem, hvalid⟩ := hkept n hn
    refine ⟨hwords n hmem, ?_⟩
    rw [String.ofList_toList]
    simp only [Identifier.isValid, Bool.and_eq_true, Bool.not_eq_true'] at hvalid
    exact hvalid.2
  obtain ⟨tree, hparse, hname, hstructs⟩ := exists_parse_text hnames
  rw [htext]
  refine ⟨?_, ?_, ?_, isBuildIgnored_text (hnames _ List.mem_cons_self)⟩
  · rw [hparse]
    rfl
  · rw [Package.nameAt_of_parse hparse, hname, hpackage]
  · have hnone : structs tree = .ok [] := by
      rw [structs, hstructs]
      rfl
    exact Package.result_structsAt_of_parse hparse hnone path

/-- A spec with a group in which a field is left out, and with a value that has to be escaped. -/
theorem render_readable_sample :
    let f : SpecFile := ⟨"model", [⟨"User", [⟨"Json", [⟨"ID", "id"⟩, ⟨"_", "-"⟩, ⟨"Näme", "a\"\\\n"⟩]⟩]⟩,
      ⟨"Empty", []⟩]⟩
    ∃ t, f.render.result = .ok t ∧ (∀ n ∈ f.names, isWord n.toList = true) ∧
      (parse t.toList).isOk = true ∧
      Package.nameAt "spec.go" t.toList = .ok (some "model") ∧
      (Package.structsAt "spec.go" t.toList).result = .ok [] ∧
      isBuildIgnored t.toList = false := by
  intro f
  have hwords : ∀ n ∈ f.names, isWord n.toList = true :=
    List.all_eq_true.1 (by decide +kernel : f.names.all (fun n => isWord n.toList) = true)
  cases hrender : f.render.result with
  | error e =>
    have hok : f.render.result.isOk = true := by decide +kernel
    rw [hrender] at hok
    cases hok
  | ok t => exact ⟨t, rfl, hwords, render_readable hrender hwords "spec.go"⟩

end SpecFile

end TagSpec
