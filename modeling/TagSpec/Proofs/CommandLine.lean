import TagSpec.CommandLine.Session
import TagSpec.Proofs.Generation
import TagSpec.Proofs.Package.Skipping

/-!
# Generating twice

Generating with the same settings right after a run that succeeded reads the same sources, reports
the same and leaves all files as they are, unless the output got in the way of its own sources:
`generate_again_iff` says exactly when.
-/

namespace TagSpec.CommandLine.Session

open Files Files.Tree Output

/-- The source files that are read for settings. -/
def reads (t : Tree) (g : Settings.Generation) : Except Error (List Package.SourceFile) := do
  let p ← package t g
  (p.sourceFiles t).result

/-- The output has not got in the way of the sources: `t` is the tree before it was written and `u`
the tree after. -/
structure Settled (t u : Tree) (source out : String) : Prop where
  reachable : u.isDirectory source = true
  directory : u.isDirectory (directoryOf out) = true
  /-- the output did not replace a link to a source file -/
  link : ∀ p target q, t.locate false out = .ok (.here p (.link target)) →
    t.canonical? out = some q → ¬ Package.IsSource t source q
  /-- the output whose directory had to be made did not turn out to be a source file -/
  unmade : t.has (directoryOf out) = false →
    ∀ q, u.canonical? out = some q → ¬ Package.IsSource t source q

section Again

variable {t : Tree} {g : Settings.Generation} {source out : String}

theorem package_eq (hsource : g.source = some source) (hout : g.outFile = some out) (t : Tree) :
    package t g =
      (Package.globs g.files).map fun files => ⟨source, files, Package.place? t out⟩ := by
  unfold package Settings.Generation.requireSource Package.ofDirectory
  rw [hsource, hout]
  rfl

theorem generate_eq (hsource : g.source = some source) (hout : g.outFile = some out)
    {files : List (List Glob.Part)} (hfiles : Package.globs g.files = .ok files) (t : Tree) :
    generate t g = .ok (Run.generate t
      (Package.declarations ⟨source, files, Package.place? t out⟩ t) g.options (.file out)) := by
  unfold generate
  rw [package_eq hsource hout, hfiles, Settings.Generation.target, hout]
  rfl

/-- The files that are read for settings are those of the package that they name. -/
theorem reads_eq (hsource : g.source = some source) (hout : g.outFile = some out)
    {files : List (List Glob.Part)} (hfiles : Package.globs g.files = .ok files) (t : Tree) :
    reads t g = (Package.sourceFiles ⟨source, files, Package.place? t out⟩ t).result := by
  unfold reads
  rw [package_eq hsource hout, hfiles]
  rfl

/-- What a run that succeeded has done: the sources in the directory `sources` were read, a text was
made of them, and it landed somewhere. -/
structure Success (t : Tree) (g : Settings.Generation) (source out : String) (run : Run) where
  files : List (List Glob.Part)
  model : Model
  text : String
  sources : Place
  made : Tree
  dir : Place
  name : String
  before : List String
  globs : Package.globs g.files = .ok files
  prepared : (Run.prepare (Package.declarations ⟨source, files, Package.place? t out⟩ t)
    g.options).result = .ok (model, text)
  found : t.find source = .ok (sources, .directory)
  landed : Landed t out made dir name before
  tree : run.tree = made.put (dir ++ [name]) (.file (Utf8.encode text.toList))

/-- A run that succeeds has read the sources and has written the text that is made of them. -/
theorem exists_success (hsource : g.source = some source) (hout : g.outFile = some out)
    {run : Run} {report : Report} (hrun : generate t g = .ok run)
    (hok : run.journal.result = .ok report) :
    ∃ S : Success t g source out run, report = Run.report S.model := by
  cases hfiles : Package.globs g.files with
  | error e =>
    unfold generate at hrun
    rw [package_eq hsource hout, hfiles] at hrun
    cases hrun
  | ok files =>
    rw [generate_eq hsource hout hfiles] at hrun
    cases hrun
    obtain ⟨m, text, hprep, hreport, hemit⟩ := Run.result_generate_iff.1 hok
    obtain ⟨structs, hstructs⟩ := Model.exists_structs (Run.exists_build hprep)
    obtain ⟨read, hread⟩ := Package.exists_sourceFiles hstructs
    obtain ⟨sources, hfound⟩ := Package.find_of_sourceFiles hread
    rw [emit_file] at hemit
    obtain ⟨u, dir, name, ss, L, htree⟩ := exists_landed _ hemit
    refine ⟨⟨files, m, text, sources, u, dir, name, ss, hfiles, hprep, hfound, L, ?_⟩, hreport⟩
    rw [Run.tree_generate hprep, emit_file]
    exact htree

namespace Success

variable {run : Run} (S : Success t g source out run)
include S

/-- After the run, its output is what is passed over. -/
theorem place?_tree (hdir : run.tree.isDirectory (directoryOf out) = true) :
    Package.place? run.tree out = some (S.dir ++ [S.name]) := by
  rw [S.tree] at hdir ⊢
  obtain ⟨l, hl⟩ := S.landed.arrives_put hdir
  rw [Package.place?_of_arrives S.landed.named S.landed.good hl,
    Package.canonical?_of_file S.landed.named S.landed.good S.landed.open_end S.landed.short hl
      (get?_put_self S.made (by simp) _)]
  rfl

/-- The sources that are read after the run are those that were read before exactly if nothing that
was passed over is a source. -/
theorem sourceFiles_tree_iff (hreach : run.tree.isDirectory source = true)
    (hdir : run.tree.isDirectory (directoryOf out) = true) :
    (Package.sourceFiles ⟨source, S.files, Package.place? run.tree out⟩ run.tree).result =
        (Package.sourceFiles ⟨source, S.files, Package.place? t out⟩ t).result ↔
      ∀ q, Package.IsSource t source q →
        (Package.place? t out = some q ↔ some (S.dir ++ [S.name]) = some q) := by
  have hfound : run.tree.find source = .ok (S.sources, .directory) := by
    rw [S.tree] at hreach ⊢
    exact find_put_file S.landed.makes.adds.grows (by simp) _ S.found hreach
  rw [Package.result_sourceFiles ⟨source, S.files, Package.place? run.tree out⟩ run.tree hfound,
    Package.result_sourceFiles ⟨source, S.files, Package.place? t out⟩ t S.found,
    S.place?_tree hdir]
  have hsame : Package.sourcesBut run.tree source S.sources (some (S.dir ++ [S.name])) =
      Package.sourcesBut t source S.sources (some (S.dir ++ [S.name])) := by
    rw [S.tree, Package.sourcesBut_put, Package.sourcesBut_of_addsDirectories S.landed.makes.adds]
  simp only [hsame, Except.ok.injEq]
  rw [eq_comm]
  exact Package.sourcesBut_eq_iff S.found

/-- If the same sources are read after the run, the same text is made of them. -/
theorem prepare_tree
    (h : (Package.sourceFiles ⟨source, S.files, Package.place? run.tree out⟩ run.tree).result =
      (Package.sourceFiles ⟨source, S.files, Package.place? t out⟩ t).result) :
    (Run.prepare (Package.declarations ⟨source, S.files, Package.place? run.tree out⟩ run.tree)
      g.options).result = .ok (S.model, S.text) := by
  rw [← S.prepared]
  refine Run.result_prepare_congr g.options ?_ ?_
  · exact Package.result_name_congr rfl h
  · exact Package.result_structs_congr rfl rfl h

end Success

/-- Generating again reads the same sources, succeeds with the same report and changes no file
exactly if the output has not got in the way of the sources. -/
theorem generate_again_iff (hsource : g.source = some source) (hout : g.outFile = some out)
    {run : Run} {report : Report} (hrun : generate t g = .ok run)
    (hok : run.journal.result = .ok report) :
    (reads run.tree g = reads t g ∧
      ∃ again, generate run.tree g = .ok again ∧ again.journal.result = .ok report ∧
        again.tree = run.tree) ↔ Settled t run.tree source out := by
  obtain ⟨S, rfl⟩ := exists_success hsource hout hrun hok
  rw [reads_eq hsource hout S.globs, reads_eq hsource hout S.globs]
  constructor
  · rintro ⟨hreads, again, hagain, hresult, htree⟩
    obtain ⟨S', -⟩ := exists_success hsource hout hagain hresult
    have hreach : run.tree.isDirectory source = true := by rw [isDirectory, S'.found]
    have hdir : run.tree.isDirectory (directoryOf out) = true := by
      have hmade := S'.landed.eq_of_put (S'.tree.symm.trans htree)
      rw [isDirectory, ← hmade, S'.landed.find_directoryOf]
    obtain ⟨hlink, hunmade⟩ := (Package.place?_iff_landed S.landed (S.tree ▸ hdir) source).1
      ((S.sourceFiles_tree_iff hreach hdir).1 hreads)
    exact ⟨hreach, hdir, hlink, S.tree ▸ hunmade⟩
  · rintro ⟨hreach, hdir, hlink, hunmade⟩
    have hreads := (S.sourceFiles_tree_iff hreach hdir).2
      ((Package.place?_iff_landed S.landed (S.tree ▸ hdir) source).2 ⟨hlink, S.tree ▸ hunmade⟩)
    have hprep := S.prepare_tree hreads
    have hwrite := S.landed.writeFile_put (S.tree ▸ hdir)
    rw [← S.tree] at hwrite
    refine ⟨hreads, _, generate_eq hsource hout S.globs run.tree, ?_, ?_⟩
    · refine Run.result_generate_iff.2 ⟨S.model, S.text, hprep, rfl, ?_⟩
      rw [emit_file]
      exact hwrite.1
    · rw [Run.tree_generate hprep, emit_file]
      exact hwrite.2

end Again

/-- A directory with one source file in it. -/
def sampleTree (name : String) : Tree :=
  (Tree.empty.put ["src"] .directory).put ["src", name]
    (.file (Utf8.encode "package a\ntype A struct \x7b\x7d\n".toList))

/-- Settings that name an output for that directory. -/
def sampleSettings (out : String) : Settings.Generation :=
  { Settings.Generation.default with source := some "src", outFile := some out }

/-- What a run reported, if it succeeded. -/
def reported (r : Except Error Run) : Option Report :=
  r.toOption.bind fun run => run.journal.result.toOption

/-- An output beside its sources is written again as it was. -/
theorem generate_again_beside :
    ∃ run again, generate (sampleTree "a.go") (sampleSettings "src/out.go") = .ok run ∧
      run.journal.result = .ok ⟨1, 1, "a"⟩ ∧
      generate run.tree (sampleSettings "src/out.go") = .ok again ∧
      again.journal.result = .ok ⟨1, 1, "a"⟩ ∧ again.tree = run.tree := by
  have hrun : reported (generate (sampleTree "a.go") (sampleSettings "src/out.go")) =
      some ⟨1, 1, "a"⟩ := by decide +kernel
  have hsource : (generate (sampleTree "a.go") (sampleSettings "src/out.go")).toOption.any
      (fun run => run.tree.isDirectory "src") = true := by decide +kernel
  cases hgenerate : generate (sampleTree "a.go") (sampleSettings "src/out.go") with
  | error e =>
    rw [hgenerate] at hrun
    cases hrun
  | ok run =>
    rw [hgenerate] at hrun hsource
    replace hsource : run.tree.isDirectory "src" = true := hsource
    have hok : run.journal.result = .ok ⟨1, 1, "a"⟩ := by
      cases hresult : run.journal.result with
      | error e => simp [reported, Except.toOption, hresult] at hrun
      | ok r => simpa [reported, Except.toOption, hresult] using hrun
    have hdir : directoryOf "src/out.go" = "src" := by decide +kernel
    have hsettled : Settled (sampleTree "a.go") run.tree "src" "src/out.go" := by
      refine ⟨hsource, hdir ▸ hsource, ?_, ?_⟩
      · intro p target q hlocate
        rw [show (sampleTree "a.go").locate false "src/out.go" = .ok (.absent ["src"] "out.go") by
          decide +kernel] at hlocate
        cases hlocate
      · rw [show (sampleTree "a.go").has (directoryOf "src/out.go") = true by decide +kernel]
        intro hfalse
        cases hfalse
    obtain ⟨-, again, hagain, hresult, htree⟩ :=
      (generate_again_iff rfl rfl hgenerate hok).2 hsettled
    exact ⟨run, again, rfl, hok, hagain, hresult, htree⟩

/-- The path of an output may lead to a source file only once the directories on its way have been
made. That file is read before it is replaced and passed over afterwards, so that the same run does
not succeed again. -/
theorem generate_again_fails :
    reported (generate (sampleTree "out.go") (sampleSettings "gen/../src/out.go")) =
        some ⟨1, 1, "a"⟩ ∧
      reported ((generate (sampleTree "out.go") (sampleSettings "gen/../src/out.go")).bind
        fun run => generate run.tree (sampleSettings "gen/../src/out.go")) = none := by
  decide +kernel

end TagSpec.CommandLine.Session
