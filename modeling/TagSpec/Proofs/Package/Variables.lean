import TagSpec.Proofs.Outcomes
import TagSpec.Proofs.Package.Structs
import TagSpec.Proofs.Source.Finding
import TagSpec.Proofs.Source.Places
import TagSpec.Proofs.Spec.Compilable
import TagSpec.Proofs.Writing

/-!
# Variables beside the structs

A run that names no other package writes its variables to the package that declares the structs. No
two variables have one name, since no two structs have; but a variable has the name of its struct with
`Spec` behind it, and nothing keeps another struct from having that name. Main statement:
`generate_variables_iff`.
-/

namespace TagSpec

namespace Source

/-! ## The top level of a source -/

/-- The children of the nodes of a symbol among trees, and not of those further inside. -/
def childrenOf (s : Symbol) (ts : List SyntaxTree) : List SyntaxTree :=
  (ts.filterMap (Tree.children? s)).flatten

/-- The struct types that a source declares at its top level. -/
def topLevelStructs (tree : SyntaxTree) : List StructDeclaration :=
  ((childrenOf .typeDeclaration (childrenOf .statement (childrenOf .file [tree]))).filterMap
    (Tree.children? .typeSpec)).filterMap structDeclaration?

/-- What is found among the children of some trees is found in the trees. -/
theorem mem_selectAll_of_childrenOf {r s : Symbol} {ts c : List SyntaxTree}
    (h : c ∈ Tree.selectAll s (childrenOf r ts)) : c ∈ Tree.selectAll s ts := by
  obtain ⟨u, hu, hc⟩ := mem_selectAll_iff.1 h
  obtain ⟨us, hus, hu⟩ := List.mem_flatten.1 hu
  obtain ⟨t, ht, hchildren⟩ := List.mem_filterMap.1 hus
  obtain rfl := children?_eq_some_iff.1 hchildren
  refine mem_selectAll_iff.2 ⟨_, ht, ?_⟩
  rw [Tree.select]
  exact List.mem_append_right _ (mem_selectAll_iff.2 ⟨u, hu, hc⟩)

/-- What is declared at the top level is among all that is declared. -/
theorem mem_structDeclarations_of_topLevel {tree : SyntaxTree} {d : StructDeclaration}
    (h : d ∈ topLevelStructs tree) : d ∈ structDeclarations tree := by
  obtain ⟨spec, hspec, hd⟩ := List.mem_filterMap.1 h
  refine List.mem_filterMap.2 ⟨spec, ?_, hd⟩
  obtain ⟨t, ht, hchildren⟩ := List.mem_filterMap.1 hspec
  obtain rfl := children?_eq_some_iff.1 hchildren
  have hhere : spec ∈ Tree.selectAll .typeSpec
      (childrenOf .typeDeclaration (childrenOf .statement (childrenOf .file [tree]))) :=
    mem_selectAll_iff.2 ⟨_, ht, by simp [Tree.select]⟩
  -- out of the declaration, the statement and the file
  have hfile := mem_selectAll_of_childrenOf (mem_selectAll_of_childrenOf
    (mem_selectAll_of_childrenOf hhere))
  simpa [Tree.selectAll] using hfile

/-- Structs have the names of their declarations. -/
theorem names_structs {tree : SyntaxTree} {located : List Located}
    (h : structs tree = .ok located) :
    (structDeclarations tree).map (fun d => d.name.string) = located.map fun l => l.struct.name := by
  have hname : ∀ (d : StructDeclaration) (l : Located), d.struct = .ok l →
      d.name.string = l.struct.name := by
    intro d l hl
    obtain ⟨fields, -, hl⟩ := bind_eq_ok_iff.1 hl
    cases hl
    rfl
  rw [← List.forall₂_eq_eq_eq, List.forall₂_map_left_iff, List.forall₂_map_right_iff]
  exact (mapM_eq_ok_iff.1 h).imp hname

end Source

namespace Package

open Files

/-! ## The top level of a package -/

/-- The names that a file gives to struct types at its top level. -/
def SourceFile.topLevelNames (f : SourceFile) : List String :=
  match Utf8.decode? f.bytes with
  | none => []
  | some text =>
    if Source.isBuildIgnored text then []
    else
      match Source.parse text with
      | .error _ => []
      | .ok tree => (Source.topLevelStructs tree).map fun d => d.name.string

/-- A name that is given to a struct type at the top level of a file whose structs are asked for. -/
def IsTopLevel (p : Package) (t : Tree) (name : String) : Prop :=
  ∃ dir f, t.find p.dir = .ok (dir, .directory) ∧ IsConsidered p t dir f ∧ name ∈ f.topLevelNames

theorem isTopLevel_iff {p : Package} {t : Tree} {dir : Place} {name : String}
    (h : t.find p.dir = .ok (dir, .directory)) :
    p.IsTopLevel t name ↔ name ∈ (p.consideredIn t dir).flatMap SourceFile.topLevelNames := by
  rw [List.mem_flatMap]
  constructor
  · rintro ⟨_, f, hfind, hf, hname⟩
    rw [h] at hfind
    cases hfind
    exact ⟨f, mem_consideredIn_iff.2 hf, hname⟩
  · rintro ⟨f, hf, hname⟩
    exact ⟨dir, f, h, mem_consideredIn_iff.1 hf, hname⟩

theorem exists_declares {fs : List SourceFile} {found : List (List Declaration)}
    (h : List.Forall₂ Declares fs found) {f : SourceFile} (hf : f ∈ fs) :
    ∃ ds ∈ found, Declares f ds := by
  induction h with
  | nil => cases hf
  | cons hfirst _ ih =>
    rcases List.mem_cons.1 hf with rfl | hf
    · exact ⟨_, List.mem_cons_self, hfirst⟩
    · obtain ⟨ds, hds, hdeclares⟩ := ih hf
      exact ⟨ds, List.mem_cons_of_mem _ hds, hdeclares⟩

/-- What a file declares has all the names at its top level. -/
theorem Declares.topLevelNames {f : SourceFile} {ds : List Declaration} (h : Declares f ds) :
    f.topLevelNames ⊆ namesOf ds := by
  intro name hname
  unfold SourceFile.topLevelNames at hname
  cases h with
  | ignored htext hignored => simp [htext, hignored] at hname
  | parsed htext hbuilt hstructs =>
    obtain ⟨tree, htree, hlocated⟩ := Journal.result_bind_eq_ok_iff.1 hstructs
    have hparse := mapError_eq_ok_iff.1 htree
    have hnames := Source.names_structs (mapError_eq_ok_iff.1 hlocated)
    simp only [htext, hbuilt, hparse, Bool.false_eq_true, if_false] at hname
    obtain ⟨d, hd, rfl⟩ := List.mem_map.1 hname
    have hmem := List.mem_map_of_mem (f := fun d : Source.StructDeclaration => d.name.string)
      (Source.mem_structDeclarations_of_topLevel hd)
    rw [hnames] at hmem
    simpa [namesOf, placed] using hmem

/-- The structs of a package are those that its files declare. -/
theorem exists_declared {p : Package} {t : Tree} {list : List Struct}
    (h : (p.structs t).result = .ok list) :
    ∃ dir found, t.find p.dir = .ok (dir, .directory) ∧
      List.Forall₂ Declares (p.consideredIn t dir) found ∧ (namesOf found.flatten).Nodup ∧
        list = found.flatten.map Prod.snd := by
  obtain ⟨files, hfiles⟩ := exists_sourceFiles h
  obtain ⟨dir, hfind⟩ := find_of_sourceFiles hfiles
  have hnone : (namesOf []).Nodup := List.nodup_nil
  rw [result_structs p hfind] at h
  obtain ⟨found, hfound, hnodup, hlist⟩ := (structsOf_eq_ok_iff hnone).1 h
  exact ⟨dir, found, hfind, hfound, hnodup, hlist⟩

/-- The structs of a package have different names. -/
theorem nodup_names_structs {p : Package} {t : Tree} {list : List Struct}
    (h : (p.structs t).result = .ok list) : (list.map Struct.name).Nodup := by
  obtain ⟨-, found, -, -, hnodup, rfl⟩ := exists_declared h
  rw [List.map_map]
  exact hnodup

/-- The structs of a package have all the names at the top level of its files. -/
theorem IsTopLevel.mem_names {p : Package} {t : Tree} {list : List Struct} {name : String}
    (hname : p.IsTopLevel t name) (h : (p.structs t).result = .ok list) :
    name ∈ list.map Struct.name := by
  obtain ⟨dir, found, hfind, hfound, -, rfl⟩ := exists_declared h
  obtain ⟨f, hf, hname⟩ := List.mem_flatMap.1 ((isTopLevel_iff hfind).1 hname)
  obtain ⟨ds, hds, hdeclares⟩ := exists_declares hfound hf
  obtain ⟨d, hd, rfl⟩ := List.mem_map.1 (hdeclares.topLevelNames hname)
  rw [List.map_map]
  exact List.mem_map_of_mem (List.mem_flatten.2 ⟨ds, hds, hd⟩)

end Package

namespace Run

open Files

/-! ## What is written beside the structs -/

/-- The text of a spec file was sent to the target of a run. -/
structure Sent (run : Run) (t : Tree) (target : Target) (s : Surroundings) (f : SpecFile) :
    Prop where
  tree : run.tree = (Output.emit t (String.ofList f.text) target s).tree
  printed : run.printed = (Output.emit t (String.ofList f.text) target s).printed

/-- A variable of a spec file has the name of a struct type at the top level of a package. -/
def Collides (p : Package) (t : Tree) (f : SpecFile) : Prop :=
  ∃ spec ∈ f.specs, ∃ name, p.IsTopLevel t name ∧ spec.variableName = name.toList

/-- A run that succeeds sends a spec file with one variable for each struct that passes the rules for
names. -/
theorem exists_sent {t : Tree} {d : Declarations} {o : Options} {target : Target} {s : Surroundings}
    {r : Report} (h : (generate t d o target s).journal.result = .ok r) :
    ∃ written filter structs, Model.nameFilter o = .ok filter ∧ d.structs.result = .ok structs ∧
      (generate t d o target s).Sent t target s written ∧
      (Model.packageName d o).result = .ok written.package ∧
      written.specs.map Spec.name = (filter.kept structs).map Struct.name := by
  obtain ⟨m, text, hprepare, -, -⟩ := result_generate_iff.1 h
  obtain ⟨hbuild, hrender⟩ := prepare_eq_ok_iff.1 hprepare
  obtain ⟨filter, package, structs, hfilter, hpackage, hstructs, rfl⟩ :=
    Model.build_eq_ok_iff.1 hbuild
  obtain ⟨-, htext⟩ := SpecFile.render_eq_ok_iff.1 (mapError_eq_ok_iff.1 hrender)
  have hcleaned := SpecFile.names_cleaned ⟨package, (filter.kept structs).map (Struct.spec o.tags)⟩
  refine ⟨_, filter, structs, hfilter, hstructs, ⟨?_, ?_⟩, hpackage, hcleaned.trans List.map_map⟩
  · rw [← htext, String.ofList_toList]
    exact tree_generate hprepare
  · rw [← htext, String.ofList_toList]
    exact printed_generate_of_ok hprepare

/-- A variable has the name of its struct with `Spec` behind it. -/
theorem variableName_eq_iff {spec : Spec} {name : String} :
    spec.variableName = name.toList ↔ name = spec.name ++ "Spec" := by
  rw [Spec.variableName, ← String.toList_append, String.toList_inj, eq_comm]

/-- Which structs the names of the variables in a spec file come from. -/
theorem collides_iff {p : Package} {t : Tree} {written : SpecFile} {kept : List Struct}
    (h : written.specs.map Spec.name = kept.map Struct.name) :
    Collides p t written ↔ ∃ a ∈ kept, p.IsTopLevel t (a.name ++ "Spec") := by
  have hnames (n : String) : (∃ spec ∈ written.specs, spec.name = n) ↔ ∃ a ∈ kept, a.name = n := by
    rw [← List.mem_map, ← List.mem_map, h]
  constructor
  · rintro ⟨spec, hspec, name, htop, hname⟩
    obtain ⟨a, ha, hsame⟩ := (hnames spec.name).1 ⟨spec, hspec, rfl⟩
    refine ⟨a, ha, ?_⟩
    rw [hsame, ← variableName_eq_iff.1 hname]
    exact htop
  · rintro ⟨a, ha, htop⟩
    obtain ⟨spec, hspec, hsame⟩ := (hnames a.name).2 ⟨a, ha, rfl⟩
    exact ⟨spec, hspec, _, htop, variableName_eq_iff.2 (by rw [hsame])⟩

/-- The variables that are written for a package have different names. One of them has the name of a
struct type at the top level of the package exactly if this is the name of a struct that passes the
rules, with `Spec` behind it. -/
theorem generate_variables_iff {p : Package} {t : Tree} {o : Options} {target : Target}
    {s : Surroundings} {r : Report}
    (h : (generate t (p.declarations t) o target s).journal.result = .ok r) :
    ∃ written filter structs,
      (generate t (p.declarations t) o target s).Sent t target s written ∧
      (o.outPackage = none ∨ o.outPackage = some "" → (p.name t).result = .ok written.package) ∧
      Model.nameFilter o = .ok filter ∧ (p.structs t).result = .ok structs ∧
      (written.specs.map Spec.variableName).Nodup ∧
      (Collides p t written ↔
        ∃ a ∈ structs, ∃ b ∈ structs, filter.accepts a.name = true ∧ p.IsTopLevel t b.name ∧
          b.name = a.name ++ "Spec") := by
  obtain ⟨written, filter, structs, hfilter, hstructs, hsent, hpackage, hnames⟩ := exists_sent h
  refine ⟨written, filter, structs, hsent, fun hown => ?_, hfilter, hstructs, ?_, ?_⟩
  · rw [← hpackage]
    rcases hown with hnone | hempty
    · simp [Model.packageName, hnone, Package.declarations]
    · simp [Model.packageName, hempty, Package.declarations]
  · rw [Spec.nodup_variableNames_iff, hnames]
    exact (Package.nodup_names_structs hstructs).sublist (List.filter_sublist.map _)
  · rw [collides_iff hnames]
    constructor
    · rintro ⟨a, ha, htop⟩
      obtain ⟨ha, haccepts⟩ := List.mem_filter.1 ha
      obtain ⟨b, hb, hname⟩ := List.mem_map.1 (htop.mem_names hstructs)
      exact ⟨a, ha, b, hb, haccepts, hname ▸ htop, hname⟩
    · rintro ⟨a, ha, b, -, haccepts, htop, hname⟩
      exact ⟨a, List.mem_filter.2 ⟨ha, haccepts⟩, hname ▸ htop⟩

/-- A directory with one source file. -/
def oneFile (text : String) : Tree :=
  (Tree.empty.put ["src"] .directory).put ["src", "a.go"] (.file (Utf8.encode text.toList))

/-- A struct may have the name of a variable if it is declared inside a function. -/
theorem generate_variables_local :
    let t := oneFile
      "package a\nfunc f() \x7b type ASpec struct \x7b\x7d \x7d\ntype A struct \x7b\x7d\n"
    let p : Package := ⟨"src", [], none⟩
    (generate t (p.declarations t) everything .print).journal.result = .ok ⟨2, 2, "a"⟩ ∧
      ∃ written, (generate t (p.declarations t) everything .print).Sent t .print .plain written ∧
        (p.name t).result = .ok written.package ∧ ¬Collides p t written := by
  intro t p
  have hreport : (generate t (p.declarations t) everything .print).journal.result.toOption =
      some ⟨2, 2, "a"⟩ := by decide +kernel
  have hok := eq_ok_of_toOption hreport
  have hfind : t.find p.dir = .ok (["src"], .directory) := by decide +kernel
  have htop : (p.consideredIn t ["src"]).flatMap Package.SourceFile.topLevelNames = ["A"] := by
    decide +kernel
  obtain ⟨written, filter, structs, hsent, hname, -, -, -, hcollides⟩ := generate_variables_iff hok
  refine ⟨hok, written, hsent, hname (.inl rfl), fun hcollision => ?_⟩
  obtain ⟨a, -, b, -, -, hb, hlong⟩ := hcollides.1 hcollision
  rw [Package.isTopLevel_iff hfind, htop, List.mem_singleton] at hb
  -- the one name at the top level is too short to end in `Spec`
  rw [hb] at hlong
  have hlength := congrArg String.length hlong
  rw [String.length_append] at hlength
  have hshort : "A".length < "Spec".length := by decide
  omega

/-- A variable is written beside a struct of the same name. -/
theorem generate_collides :
    let t := oneFile "package a\ntype A struct \x7b\x7d\ntype ASpec struct \x7b\x7d\n"
    let p : Package := ⟨"src", [], none⟩
    (generate t (p.declarations t) everything .print).journal.result = .ok ⟨2, 2, "a"⟩ ∧
      ∃ written, (generate t (p.declarations t) everything .print).Sent t .print .plain written ∧
        (p.name t).result = .ok written.package ∧ Collides p t written := by
  intro t p
  have hreport : (generate t (p.declarations t) everything .print).journal.result.toOption =
      some ⟨2, 2, "a"⟩ := by decide +kernel
  have hok := eq_ok_of_toOption hreport
  have hfind : t.find p.dir = .ok (["src"], .directory) := by decide +kernel
  have htop : p.IsTopLevel t ("A" ++ "Spec") := (Package.isTopLevel_iff hfind).2 (by decide +kernel)
  have hdeclared : (p.structs t).result.toOption = some [⟨"A", []⟩, ⟨"ASpec", []⟩] := by
    decide +kernel
  obtain ⟨written, filter, structs, hfilter, hstructs, hsent, hname, hnames⟩ := exists_sent hok
  refine ⟨hok, written, hsent, hname, (collides_iff hnames).2 ⟨⟨"A", []⟩, ?_, htop⟩⟩
  obtain rfl : structs = _ := Except.ok.inj (hstructs.symm.trans (eq_ok_of_toOption hdeclared))
  cases hfilter
  exact List.mem_cons_self

end Run

end TagSpec
