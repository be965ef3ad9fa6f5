import TagSpec.CommandLine.Session
import TagSpec.Proofs.Outcomes
import TagSpec.Proofs.Package.Sources
import TagSpec.Proofs.Settings.Validation
import TagSpec.Proofs.Stages

/-!
# Which sessions are refused

A session is refused because of settings that make no sense before its flags are laid over them. So
the settings that it would run with are not what is judged: a blank pattern for files is not seen in a
flag, and it is seen in settings even if a flag replaces them. Main statement: `refused_iff`.
-/

namespace TagSpec

open Files

/-! ## What is no fault of settings -/

/-- A fault that was found in settings when they were loaded. -/
def Error.IsOfSettings : Error → Prop
  | .config (.settings _) => True
  | _ => False

namespace Journal

variable {ε α β : Type} {P : ε → Prop}

/-- Whatever a computation fails with has a property. -/
def FailsWith (P : ε → Prop) (x : Journal ε α) : Prop := ∀ e, x.result = .error e → P e

theorem FailsWith.pure (a : α) : FailsWith P (Pure.pure a) := nofun

theorem FailsWith.fail {e : ε} (h : P e) : FailsWith P (fail e : Journal ε α) := by
  rintro _ ⟨⟩
  exact h

theorem FailsWith.report (event : Event) : FailsWith P (report event) := nofun

/-- Steps that fail with nothing but errors of a kind do so in a row. -/
theorem FailsWith.bind {x : Journal ε α} {f : α → Journal ε β} (hx : FailsWith P x)
    (hf : ∀ a, FailsWith P (f a)) : FailsWith P (x >>= f) := by
  intro e h
  rcases result_bind_eq_error_iff.1 h with hfirst | ⟨a, -, hsecond⟩
  · exact hx e hfirst
  · exact hf a e hsecond

/-- Fails with no fault of settings, if at all. -/
abbrev SparesSettings (x : Journal Error α) : Prop := FailsWith (¬ ·.IsOfSettings) x

end Journal

namespace Package

open Journal

theorem sparesSettings_sourceFiles (p : Package) (t : Tree) : SparesSettings (p.sourceFiles t) := by
  unfold sourceFiles
  split
  · exact .fail id
  · intro e h
    rw [result_filesAt] at h
    cases h
  · exact .fail id

theorem sparesSettings_read (f : SourceFile) : SparesSettings f.read := by
  unfold SourceFile.read
  split
  · exact .fail id
  · split
    · exact .bind (.report _) fun _ => .pure _
    · exact .pure _

theorem sparesSettings_parseAt (path : String) (text : List Char) :
    SparesSettings (ofExcept (parseAt path text)) := by
  intro e h
  obtain ⟨_, -, rfl⟩ := mapError_eq_error_iff.1 h
  exact id

theorem sparesSettings_nameAt (path : String) (text : List Char) :
    SparesSettings (ofExcept (nameAt path text)) := fun e h =>
  sparesSettings_parseAt path text e (map_eq_error_iff.1 h)

theorem sparesSettings_nameOf (dir : String) (found : Option (String × String))
    (fs : List SourceFile) : SparesSettings (nameOf dir found fs) := by
  induction fs generalizing found with
  | nil =>
    cases found with
    | none => exact .fail id
    | some first => exact .pure _
  | cons f fs ih =>
    rw [nameOf]
    refine .bind (sparesSettings_read f) fun text => ?_
    cases text with
    | none => exact ih _
    | some text =>
      refine .bind (sparesSettings_nameAt f.path text) fun name => ?_
      cases name with
      | none => exact ih _
      | some name =>
        cases found with
        | none => exact ih _
        | some first =>
          dsimp only
          split
          · exact ih _
          · exact .fail id

theorem sparesSettings_structsAt (path : String) (text : List Char) :
    SparesSettings (structsAt path text) := by
  refine .bind (sparesSettings_parseAt path text) fun tree e h => ?_
  obtain ⟨_, -, rfl⟩ := mapError_eq_error_iff.1 h
  exact id

theorem sparesSettings_declare (path : String) (declared : Declared) (ls : List Source.Located) :
    SparesSettings (ofExcept (declare path declared ls)) := by
  induction ls generalizing declared with
  | nil => exact nofun
  | cons l ls ih =>
    unfold declare
    dsimp only
    split
    · exact .fail id
    · exact ih _

/-- The structs of files are read without a fault of settings. -/
theorem sparesSettings_structsOf (declared : Declared) (fs : List SourceFile) :
    SparesSettings (structsOf declared fs) := by
  induction fs generalizing declared with
  | nil => exact .pure _
  | cons f fs ih =>
    rw [structsOf]
    refine .bind (sparesSettings_read f) fun text => ?_
    cases text with
    | none => exact ih _
    | some text =>
      exact .bind (sparesSettings_structsAt f.path text) fun located =>
        .bind (.report _) fun _ =>
          .bind (sparesSettings_declare f.path declared located) fun declared =>
            .bind (ih declared) fun _ => .pure _

/-- The name of a package is found without a fault of settings. -/
theorem sparesSettings_name (p : Package) (t : Tree) : SparesSettings (p.name t) :=
  .bind (sparesSettings_sourceFiles p t) fun _ => sparesSettings_nameOf _ _ _

theorem sparesSettings_structs (p : Package) (t : Tree) : SparesSettings (p.structs t) := by
  refine .bind (sparesSettings_sourceFiles p t) fun files => ?_
  have hrest : SparesSettings (do
      let structs ← structsOf [] (files.filter p.isWanted)
      report (extracted p.dir (files.filter p.isWanted).length structs.length)
      pure structs) :=
    .bind (sparesSettings_structsOf _ _) fun _ => .bind (.report _) fun _ => .pure _
  dsimp only
  split
  · exact .bind (.report _) fun _ => hrest
  · exact hrest

end Package

namespace CommandLine.Session

/-- The settings that a session runs with: those that were read, with its flags laid over them. -/
def effective (flags : Flags) (c : Settings.Config) : Settings.Config :=
  ⟨flags.apply c.generation, c.logging⟩

/-- A session that ends because its settings make no sense. -/
def IsRefused (s : Session) : Prop :=
  ∃ fault, s.result = .error (.failed .configuring (.config (.settings (.invalid fault))))

/-! ## A session past its settings -/

section Past

variable {t : Tree} {g : Settings.Generation}

/-- A pattern that is no glob is no fault that settings are checked for. -/
theorem not_isOfSettings_globs {patterns : List String} {e : Error}
    (h : Package.globs patterns = .error e) : ¬e.IsOfSettings := by
  obtain ⟨_, _, _, -, -, hpattern⟩ := mapM_eq_error_iff.1 h
  obtain ⟨_, -, rfl⟩ := mapError_eq_error_iff.1 hpattern
  exact id

/-- A session that cannot generate does not complain of its settings any more. -/
theorem not_isOfSettings_generate {e : Error} (h : generate t g = .error e) : ¬e.IsOfSettings := by
  have hpackage : package t g = .error e := map_eq_error_iff.1 h
  unfold package Settings.Generation.requireSource at hpackage
  cases hsource : g.source with
  | none =>
    rw [hsource] at hpackage
    cases hpackage
    exact id
  | some source =>
    rw [hsource] at hpackage
    exact not_isOfSettings_globs (map_eq_error_iff.1 hpackage)

/-- A rule that is no pattern is no fault that settings are checked for. -/
theorem not_isOfSettings_nameFilter {o : Options} {e : Error} (h : Model.nameFilter o = .error e) :
    ¬e.IsOfSettings := by
  obtain ⟨_, -, rfl⟩ := mapError_eq_error_iff.1 h
  exact id

theorem sparesSettings_packageName {d : Declarations} (h : Journal.SparesSettings d.packageName)
    (o : Options) : Journal.SparesSettings (Model.packageName d o) := by
  unfold Model.packageName
  split
  · split
    · exact h
    · exact .pure _
  · exact h

/-- Nor does one that generates and fails, unless it fails in another activity. -/
theorem not_isOfSettings_run {run : Run} {e : StageError} (hrun : generate t g = .ok run)
    (h : run.journal.result = .error e) (hstage : Activity.ofStage e.stage = .configuring) :
    ¬e.error.IsOfSettings := by
  obtain ⟨p, -, rfl⟩ := map_eq_ok_iff.1 hrun
  obtain ⟨stage, error⟩ := e
  obtain ⟨step, hfails, rfl⟩ := Run.result_generate_iff_failsAt.1 h
  cases hfails with
  | rules hrules => exact not_isOfSettings_nameFilter hrules
  | name _ hname =>
    exact sparesSettings_packageName (Package.sparesSettings_name p t) _ error hname
  | structs _ _ hstructs => exact Package.sparesSettings_structs p t error hstructs
  | text => cases hstage
  | writing => cases hstage

end Past

/-! ## Refusals -/

section Refusals

variable {t : Tree} {environment : List (String × String)} {arguments : List String} {flags : Flags}
  (hparse : parse arguments = .ok flags)
include hparse

/-- A session is refused when its settings are loaded, and never later. -/
theorem isRefused_iff_load : IsRefused (ofArguments t environment arguments) ↔
    ∃ fault, Settings.load t flags.config environment = .error (.invalid fault) := by
  unfold ofArguments IsRefused
  rw [hparse]
  dsimp only
  unfold ofFlags
  cases hload : Settings.load t flags.config environment with
  | error e => simp [failed]
  | ok c =>
    refine iff_of_false ?_ (by simp)
    rintro ⟨fault, hfault⟩
    dsimp only at hfault
    cases hgenerate : generate t (flags.apply c.generation) with
    | error e =>
      rw [hgenerate] at hfault
      cases hfault
      exact not_isOfSettings_generate hgenerate trivial
    | ok run =>
      rw [hgenerate] at hfault
      obtain ⟨⟨stage, e⟩, hrun, he⟩ := mapError_eq_error_iff.1 hfault
      injection he with hstage herror
      exact not_isOfSettings_run hgenerate hrun hstage.symm (herror ▸ trivial)

variable {c : Settings.Config} (hextract : Settings.extract t flags.config environment = .ok c)
include hextract

/-- The settings that are judged are those without flags. -/
theorem isRefused_iff_isInvalid :
    IsRefused (ofArguments t environment arguments) ↔ c.IsInvalid := by
  rw [isRefused_iff_load hparse, Settings.load_eq_error_iff hextract]

/-- A session that is not refused runs with the settings that its flags are laid over. -/
theorem eq_of_not_isRefused (h : ¬IsRefused (ofArguments t environment arguments)) {run : Run}
    (hrun : generate t (effective flags c).generation = .ok run) :
    (ofArguments t environment arguments).tree = run.tree ∧
      (ofArguments t environment arguments).printed = run.printed := by
  have hload : Settings.load t flags.config environment = .ok c := by
    rw [isRefused_iff_isInvalid hparse hextract] at h
    exact Settings.load_eq_ok hextract h
  unfold ofArguments
  rw [hparse]
  dsimp only
  unfold ofFlags
  rw [hload]
  dsimp only
  rw [show generate t (flags.apply c.generation) = .ok run from hrun]
  exact ⟨rfl, rfl⟩

end Refusals

/-- Patterns for files in flags replace all those in settings. -/
theorem hasBlank_effective_iff {flags : Flags} {c : Settings.Config} :
    Settings.HasBlank (effective flags c).generation.files ↔
      (flags.files = [] ∧ Settings.HasBlank c.generation.files) ∨
        (flags.files ≠ [] ∧ Settings.HasBlank flags.files) := by
  show Settings.HasBlank (Flags.orElse flags.files c.generation.files) ↔ _
  unfold Flags.orElse
  cases hfiles : flags.files with
  | nil => simp
  | cons file files => simp

/-- A session is refused exactly if the settings that were read make no sense. Otherwise it runs with
those that its flags are laid over. That these are judged instead is true exactly if the level makes
no sense anyway, or if flags name no files, or if there is a blank pattern for files in both places or
in none. -/
theorem refused_iff {t : Tree} {environment : List (String × String)} {arguments : List String}
    {flags : Flags} {c : Settings.Config} (hparse : parse arguments = .ok flags)
    (hextract : Settings.extract t flags.config environment = .ok c) :
    (IsRefused (ofArguments t environment arguments) ↔ c.IsInvalid) ∧
      (¬IsRefused (ofArguments t environment arguments) →
        ∀ run, generate t (effective flags c).generation = .ok run →
          (ofArguments t environment arguments).tree = run.tree ∧
            (ofArguments t environment arguments).printed = run.printed) ∧
      ((IsRefused (ofArguments t environment arguments) ↔ (effective flags c).IsInvalid) ↔
        c.logging.IsInvalid ∨ flags.files = [] ∨
          (Settings.HasBlank flags.files ↔ Settings.HasBlank c.generation.files)) := by
  have hrefused : IsRefused (ofArguments t environment arguments) ↔ c.IsInvalid :=
    isRefused_iff_isInvalid hparse hextract
  refine ⟨hrefused, fun h _ => eq_of_not_isRefused hparse hextract h, ?_⟩
  have heffective : (effective flags c).IsInvalid ↔
      c.logging.IsInvalid ∨ Settings.HasBlank (effective flags c).generation.files := Iff.rfl
  rw [hrefused, heffective, hasBlank_effective_iff, Settings.Config.IsInvalid]
  by_cases hlevel : c.logging.IsInvalid
  · simp [hlevel]
  · by_cases hfiles : flags.files = []
    · simp [hfiles]
    · simp only [hlevel, hfiles, false_or, false_and, not_false_eq_true, true_and, ne_eq]
      exact Iff.comm

/-- A directory for sources, and a settings file with patterns for them. -/
def withSettings (files : String) : Tree :=
  (Tree.empty.put ["src"] .directory).put ["structspec.toml"]
    (.file (Utf8.encode ("[generate]\nfiles = ".toList ++ files.toList ++ "\n".toList)))

/-- The words of a command line with patterns for files. -/
def withFiles (files : String) : List String :=
  ["structspec", "gen", "--src", "src", "--files", files]

def filesFlags (files : List String) : Flags :=
  { Flags.none with source := some "src", files := files }

/-- Settings with patterns for files. -/
def filesSettings (files : List String) : Settings.Config :=
  ⟨{ Settings.Generation.default with files := files }, Settings.Logging.default⟩

/-- Blank patterns in both places are refused. -/
theorem refused_iff_both :
    parse (withFiles "a.go, ") = .ok (filesFlags ["a.go", " "]) ∧
      Settings.extract (withSettings "['b.go', '']") none [] = .ok (filesSettings ["b.go", ""]) ∧
      IsRefused (ofArguments (withSettings "['b.go', '']") [] (withFiles "a.go, ")) ∧
      (effective (filesFlags ["a.go", " "]) (filesSettings ["b.go", ""])).IsInvalid := by
  have hparse : parse (withFiles "a.go, ") = .ok (filesFlags ["a.go", " "]) :=
    eq_ok_of_toOption (by decide +kernel)
  have hextract : Settings.extract (withSettings "['b.go', '']") none [] =
      .ok (filesSettings ["b.go", ""]) := eq_ok_of_toOption (by decide +kernel)
  obtain ⟨hrefused, -, heffective⟩ := refused_iff hparse hextract
  have h := hrefused.2 (by decide +kernel)
  exact ⟨hparse, hextract, h, (heffective.2 (by decide +kernel)).1 h⟩

/-- A blank pattern in a flag is not refused. One in a settings file is, even if a flag replaces it. -/
theorem refused_otherwise :
    (∃ c, parse (withFiles ",") = .ok (filesFlags ["", ""]) ∧
      Settings.extract (withSettings "['b.go']") none [] = .ok c ∧
      (effective (filesFlags ["", ""]) c).IsInvalid ∧
      ¬IsRefused (ofArguments (withSettings "['b.go']") [] (withFiles ","))) ∧
    ∃ c, parse (withFiles "a.go") = .ok (filesFlags ["a.go"]) ∧
      Settings.extract (withSettings "['']") none [] = .ok c ∧
      ¬(effective (filesFlags ["a.go"]) c).IsInvalid ∧
      IsRefused (ofArguments (withSettings "['']") [] (withFiles "a.go")) := by
  constructor
  · have hparse : parse (withFiles ",") = .ok (filesFlags ["", ""]) :=
      eq_ok_of_toOption (by decide +kernel)
    have hextract : Settings.extract (withSettings "['b.go']") none [] =
        .ok (filesSettings ["b.go"]) := eq_ok_of_toOption (by decide +kernel)
    refine ⟨_, hparse, hextract, by decide +kernel, ?_⟩
    rw [isRefused_iff_isInvalid hparse hextract]
    decide +kernel
  · have hparse : parse (withFiles "a.go") = .ok (filesFlags ["a.go"]) :=
      eq_ok_of_toOption (by decide +kernel)
    have hextract : Settings.extract (withSettings "['']") none [] = .ok (filesSettings [""]) :=
      eq_ok_of_toOption (by decide +kernel)
    refine ⟨_, hparse, hextract, by decide +kernel, ?_⟩
    rw [isRefused_iff_isInvalid hparse hextract]
    decide +kernel

end CommandLine.Session

end TagSpec
