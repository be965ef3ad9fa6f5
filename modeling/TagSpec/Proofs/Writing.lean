import TagSpec.Proofs.Generation
import TagSpec.Proofs.Output

/-!
# All or nothing

What a run leaves behind whose target is a file. Main statement: `generate_all_or_nothing`, by which
a run that fails leaves every entry as it was and adds at most directories, and a run that succeeds
changes nothing else but what its target names.
-/

namespace TagSpec.Run

open Files Files.Tree Output

variable {t : Tree}

/-! ## Files that are replaced -/

/-- What became of the files where `bytes` were written to a path. Directories that were missing were
made, which led to the tree `made`; in it, the path names `name` in the directory `dir`, and what had
that name was replaced. The path leads to it, unless the way there went through the very link that was
replaced. -/
structure Replaced (t made u : Tree) (path : String) (dir : Place) (name : String)
    (bytes : List UInt8) : Prop where
  makes : OnlyMakes t made (directoryOf path)
  directory : made.find (directoryOf path) = .ok (dir, .directory)
  named : Path.fileName? path = some name
  free : made.get? (dir ++ [name]) ≠ some .directory
  home : u.home = made.home
  written : u.get? (dir ++ [name]) = some (.file bytes)
  others {p : Place} : p ≠ dir ++ [name] → u.get? p = made.get? p
  read : u.readBytes path = .ok bytes ∨
    (∃ target, t.get? (dir ++ [name]) = some (.link target)) ∧ u.isDirectory (directoryOf path) = false

/-- A file that landed somewhere was put in place of what had its name. -/
theorem Replaced.of_landed (h : Rooted t) {made : Tree} {path name : String} {dir : Place}
    {ss : List String} (L : Landed t path made dir name ss) (bytes : List UInt8) :
    Replaced t made (made.put (dir ++ [name]) (.file bytes)) path dir name bytes where
  makes := .of_makesPath h L.makes
  directory := L.find_directoryOf
  named := L.named.fileName?
  free := L.free
  home := rfl
  written := get?_put_self made (by simp) _
  others := fun hp => by rw [get?_put made (by simp), if_neg hp]
  read := by
    have hne : dir ++ [name] ≠ [] := by simp
    rcases find_put_file_cases hne bytes L.find_directoryOf with hfound | ⟨hgone, hwas⟩
    · exact .inl (L.readBytes_put (isDirectory_iff.2 ⟨_, hfound⟩))
    · rcases hwas with hdir | ⟨target, hlink⟩
      · exact absurd hdir L.free
      · exact .inr ⟨⟨target, L.makes.adds.get?_of_ne_directory hlink (by simp)⟩, hgone⟩

/-! ## Runs -/

variable (d : Declarations) (o : Options) (path : String) (s : Surroundings)

/-- What failed on the way to a text had no part in writing. -/
theorem generate_of_error {e : StageError} (h : (prepare d o).result = .error e) (target : Target) :
    generate t d o target s = ⟨t, [], ⟨(prepare d o).events, .error e⟩⟩ := by
  unfold generate
  simp only [h]

theorem printed_generate : (generate t d o (.file path) s).printed = [] := by
  cases hprep : (prepare d o).result with
  | error e => rw [generate_of_error d o s hprep]
  | ok r =>
    obtain ⟨m, text⟩ := r
    unfold generate
    simp only [hprep]
    exact printed_writeFile s _

/-- A run that fails leaves the files as they were, but for directories if it was about to write. -/
theorem tree_generate_of_error {e : StageError}
    (h : (generate t d o (.file path) s).journal.result = .error e) :
    (e.stage ≠ .write → (generate t d o (.file path) s).tree = t) ∧
      MakesPath t (generate t d o (.file path) s).tree (directoryOf path) := by
  cases hprep : (prepare d o).result with
  | error e' =>
    rw [generate_of_error d o s hprep]
    exact ⟨fun _ => rfl, .refl t _⟩
  | ok r =>
    obtain ⟨m, text⟩ := r
    unfold generate at h ⊢
    simp only [hprep, Journal.result_bind, Except.bind, Journal.result_mapError] at h ⊢
    cases hemit : (emit t text (.file path) s).journal.result with
    | error e' =>
      rw [hemit] at h
      cases h
      exact ⟨fun hstage => absurd rfl hstage, makesPath_of_error s hemit⟩
    | ok _ =>
      rw [hemit] at h
      cases h

/-- A run whose target is a file prints nothing. If it fails, all entries are as they were and there
are at most more directories around the target, with nothing but directories in them, and none at all
if it failed before it was about to write. If it succeeds, the text of the model was written to the
target. All of this holds whichever steps of writing are refused. -/
theorem generate_all_or_nothing (h : Rooted t) :
    (generate t d o (.file path) s).printed = [] ∧
    (∀ e, (generate t d o (.file path) s).journal.result = .error e →
      (e.stage ≠ .write → (generate t d o (.file path) s).tree = t) ∧
      OnlyMakes t (generate t d o (.file path) s).tree (directoryOf path)) ∧
    ∀ r, (generate t d o (.file path) s).journal.result = .ok r →
      ∃ m text made dir name, (prepare d o).result = .ok (m, text) ∧ r = report m ∧
        Replaced t made (generate t d o (.file path) s).tree path dir name
          (Utf8.encode text.toList) := by
  refine ⟨printed_generate d o path s, fun e herror => ?_, fun r hok => ?_⟩
  · obtain ⟨hsame, hmakes⟩ := tree_generate_of_error d o path s herror
    exact ⟨hsame, .of_makesPath h hmakes⟩
  · obtain ⟨m, text, hprep, hr, hemit⟩ := result_generate_iff.1 hok
    obtain ⟨made, dir, name, ss, hlanded, htree⟩ := exists_landed s hemit
    refine ⟨m, text, made, dir, name, hprep, hr, ?_⟩
    rw [tree_generate hprep, emit_file, htree]
    exact .of_landed h hlanded _

/-- A directory with a source file, another directory, and a link to the latter. -/
def linked : Tree :=
  (((Tree.empty.put ["src"] .directory).put ["src", "a.go"]
      (.file (Utf8.encode "package a\ntype A struct \x7b\x7d\n".toList))).put ["d"] .directory).put
    ["lnk"] (.link "d")

/-- What the source file there declares. -/
def linkedDeclarations : Declarations := Package.declarations ⟨"src", [], none⟩ linked

/-- Every struct and every tag. -/
def everything : Options := ⟨[], [], [], .regex, none⟩

/-- The text is read where it was written, also in directories that were missing. -/
theorem generate_all_or_nothing_deep :
    Rooted linked ∧
      (generate linked linkedDeclarations everything (.file "gen/deep/out.go")).journal.result =
        .ok ⟨1, 1, "a"⟩ ∧
      ∃ made dir name bytes, Replaced linked made
        (generate linked linkedDeclarations everything (.file "gen/deep/out.go")).tree
        "gen/deep/out.go" dir name bytes := by
  have hrooted : Rooted linked := by decide +kernel
  have hreport : (generate linked linkedDeclarations everything
      (.file "gen/deep/out.go")).journal.result.toOption = some ⟨1, 1, "a"⟩ := by decide +kernel
  have hok := eq_ok_of_toOption hreport
  obtain ⟨-, -, hwritten⟩ :=
    generate_all_or_nothing linkedDeclarations everything "gen/deep/out.go" .plain hrooted
  obtain ⟨m, text, made, dir, name, -, -, hreplaced⟩ := hwritten _ hok
  exact ⟨hrooted, hok, made, dir, name, _, hreplaced⟩

/-- A path that goes through the link it replaces does not lead to the text that was written. -/
theorem generate_through_link :
    (generate linked linkedDeclarations everything (.file "lnk/../lnk")).journal.result.toOption =
        some ⟨1, 1, "a"⟩ ∧
      (generate linked linkedDeclarations everything (.file "lnk/../lnk")).tree.readBytes
        "lnk/../lnk" = .error .notDirectory := by
  decide +kernel

end TagSpec.Run
