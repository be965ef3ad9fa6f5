import TagSpec.Proofs.Writing

/-!
# The stage that failed

Which step of a run fails, and what was asked of the declarations until then. Main statement:
`generate_stage`, by which the stage that is reported is the step that failed unless the declarations
fail with a fault of the settings. Such a fault is reported as one of the rules for names.
-/

namespace TagSpec.Run

open Files Model

/-! ## The step that fails -/

section Steps

variable (t : Tree) (d : Declarations) (o : Options) (target : Target) (s : Surroundings)

/-- The step of a run that fails, as the stage it belongs to, and the error it fails with. -/
inductive FailsAt : Stage → Error → Prop
  | rules {e : Error} : nameFilter o = .error e → FailsAt .configure e
  | name {filter : NameFilter} {e : Error} : nameFilter o = .ok filter →
      (packageName d o).result = .error e → FailsAt .extract e
  | structs {filter : NameFilter} {package : String} {e : Error} : nameFilter o = .ok filter →
      (packageName d o).result = .ok package → d.structs.result = .error e → FailsAt .extract e
  | text {m : Model} {e : Error} : (build d o).result = .ok m → m.render.result = .error e →
      FailsAt .render e
  | writing {m : Model} {text : String} {e : Error} : (prepare d o).result = .ok (m, text) →
      (Output.emit t text target s).journal.result = .error e → FailsAt .write e

end Steps

/-- The stage that is reported for an error of a step. -/
def told : Stage → Error → Stage
  | .extract, .config _ => .configure
  | step, _ => step

variable {t : Tree} {d : Declarations} {o : Options} {target : Target} {s : Surroundings}

theorem nameFilter_eq_error {e : Error} (h : nameFilter o = .error e) :
    ∃ fault, e = .config fault := by
  unfold nameFilter at h
  cases hcompile : NameFilter.compile o.mode o.included o.excluded with
  | ok filter =>
    rw [hcompile] at h
    cases h
  | error r =>
    rw [hcompile] at h
    cases h
    exact ⟨_, rfl⟩

/-- An error on the way to a model is told as one of reading, or of settings if it is of their
kind. -/
theorem ofBuild_eq (e : Error) : StageError.ofBuild e = ⟨told .extract e, e⟩ := by
  cases e <;> rfl

theorem ofBuild_of_nameFilter {e : Error} (h : nameFilter o = .error e) :
    StageError.ofBuild e = ⟨told .configure e, e⟩ := by
  obtain ⟨fault, rfl⟩ := nameFilter_eq_error h
  rfl

/-- A run fails with the error of the step that fails. -/
theorem result_generate_iff_failsAt {stage : Stage} {e : Error} :
    (generate t d o target s).journal.result = .error ⟨stage, e⟩ ↔
      ∃ step, FailsAt t d o target s step e ∧ stage = told step e := by
  rw [result_generate_eq_error_iff, prepare_eq_error_iff]
  constructor
  · rintro ((⟨c, hbuild, he⟩ | ⟨m, c, hbuild, hrender, he⟩) | ⟨m, text, c, hprepare, hemit, he⟩)
    · rcases build_eq_error_iff.1 hbuild with
        hrules | ⟨filter, hfilter, hname | ⟨package, hname, hstructs⟩⟩
      · -- the fault of the rules is one of the settings, and rightly told as such
        cases he.trans (ofBuild_of_nameFilter hrules)
        exact ⟨.configure, .rules hrules, rfl⟩
      · cases he.trans (ofBuild_eq c)
        exact ⟨.extract, .name hfilter hname, rfl⟩
      · cases he.trans (ofBuild_eq c)
        exact ⟨.extract, .structs hfilter hname hstructs, rfl⟩
    · cases he
      exact ⟨.render, .text hbuild hrender, rfl⟩
    · cases he
      exact ⟨.write, .writing hprepare hemit, rfl⟩
  · rintro ⟨step, hfails, rfl⟩
    cases hfails with
    | rules hrules =>
      have hbuild := build_eq_error_iff (d := d).2 (.inl hrules)
      exact .inl (.inl ⟨e, hbuild, (ofBuild_of_nameFilter hrules).symm⟩)
    | name hfilter hname =>
      have hbuild := build_eq_error_iff.2 (.inr ⟨_, hfilter, .inl hname⟩)
      exact .inl (.inl ⟨e, hbuild, (ofBuild_eq e).symm⟩)
    | structs hfilter hname hstructs =>
      have hbuild := build_eq_error_iff.2 (.inr ⟨_, hfilter, .inr ⟨_, hname, hstructs⟩⟩)
      exact .inl (.inl ⟨e, hbuild, (ofBuild_eq e).symm⟩)
    | text hbuild hrender => exact .inl (.inr ⟨_, e, hbuild, hrender, rfl⟩)
    | writing hprepare hemit => exact .inr ⟨_, _, e, hprepare, hemit, rfl⟩

/-! ## What is asked of declarations -/

/-- What declarations report while they are asked: for their name unless another one is given, and
for their structs once the name is known. -/
def asked (d : Declarations) (o : Options) : List Event :=
  match nameFilter o with
  | .error _ => []
  | .ok _ =>
    (packageName d o).events ++
      match (packageName d o).result with
      | .error _ => []
      | .ok package => resolvedPackage package :: d.structs.events

/-- Declarations that answer alike, whatever they report. -/
structure Alike (d d' : Declarations) : Prop where
  name : d'.packageName.result = d.packageName.result
  structs : d'.structs.result = d.structs.result

/-- What is reported on the way to a model begins with what declarations report while they are
asked. -/
theorem exists_events_build (d : Declarations) (o : Options) :
    ∃ rest, ∀ d', Alike d d' → (build d' o).events = asked d' o ++ rest := by
  unfold build asked
  cases hfilter : nameFilter o with
  | error e => exact ⟨[], fun d' _ => congrArg Journal.events (Journal.bind_of_error rfl _)⟩
  | ok filter =>
    cases hname : (packageName d o).result with
    | error e =>
      refine ⟨[], fun d' h => ?_⟩
      have hname' := (result_packageName_congr o h.name).trans hname
      rw [Journal.events_bind_of_ok rfl, Journal.bind_of_error hname', hname']
      simp [Journal.ofExcept]
    | ok package =>
      -- behind the structs nothing is asked any more
      obtain ⟨rest, hrest⟩ := Journal.exists_events_bind d.structs.result fun structs => do
        let kept ← filter.apply structs
        pure (⟨⟨package, kept.map (Struct.spec o.tags)⟩, structs.length⟩ : Model)
      refine ⟨rest, fun d' h => ?_⟩
      have hname' := (result_packageName_congr o h.name).trans hname
      rw [Journal.events_bind_of_ok rfl, Journal.events_bind_of_ok hname',
        Journal.events_bind_of_ok rfl, hrest _ h.structs, hname']
      simp [Journal.ofExcept, Journal.report]

theorem exists_events_prepare (d : Declarations) (o : Options) :
    ∃ rest, ∀ d', Alike d d' → (prepare d' o).events = asked d' o ++ rest := by
  obtain ⟨rest, hrest⟩ := exists_events_build d o
  obtain ⟨more, hmore⟩ := Journal.exists_events_bind
    ((build d o).mapError StageError.ofBuild).result fun model => do
      let text ← model.render.mapError fun e => (⟨.render, e⟩ : StageError)
      pure (model, text)
  refine ⟨rest ++ more, fun d' h => ?_⟩
  have hresult := congrArg (Except.mapError StageError.ofBuild)
    (result_build_congr o h.name h.structs)
  have hevents := hmore ((build d' o).mapError StageError.ofBuild) hresult
  rw [prepare, hevents, ← List.append_assoc, ← hrest d' h]
  rfl

/-- Behind what declarations report, a run reports what depends on their answers only. -/
theorem exists_events_generate (t : Tree) (d : Declarations) (o : Options) (target : Target)
    (s : Surroundings) : ∃ rest, ∀ d', Alike d d' →
      (generate t d' o target s).journal.events = asked d' o ++ rest := by
  obtain ⟨rest, hrest⟩ := exists_events_prepare d o
  cases hprepare : (prepare d o).result with
  | error e =>
    refine ⟨rest, fun d' h => ?_⟩
    have hprepare' := (result_prepare_congr o h.name h.structs).trans hprepare
    rw [generate_of_error d' o s hprepare', ← hrest d' h]
  | ok r =>
    obtain ⟨m, text⟩ := r
    obtain ⟨more, hmore⟩ := Journal.exists_events_bind (prepare d o).result fun _ => do
      (Output.emit t text target s).journal.mapError fun e => (⟨.write, e⟩ : StageError)
      Journal.report (report m).event
      pure (report m)
    refine ⟨rest ++ more, fun d' h => ?_⟩
    have hsame := result_prepare_congr o h.name h.structs
    have hprepare' := hsame.trans hprepare
    rw [← List.append_assoc, ← hrest d' h, ← hmore _ hsame]
    unfold generate
    simp only [hprepare']

/-- A run depends on declarations by their model only. -/
theorem generate_congr {d' : Declarations} (h : build d' o = build d o) :
    generate t d' o target s = generate t d o target s := by
  unfold generate prepare
  rw [h]

/-- Without rules for names nothing is built, whatever the declarations are. -/
theorem prepare_of_rules {e : Error} (h : nameFilter o = .error e) :
    prepare d o = .fail ⟨.configure, e⟩ := by
  have hbuild : build d o = .fail e := by
    rw [build, h]
    rfl
  rw [prepare, hbuild]
  exact congrArg Journal.fail (ofBuild_of_nameFilter h)

/-- The name of the declarations makes no difference where another one is given. -/
theorem build_of_given (hnone : o.outPackage ≠ none) (hempty : o.outPackage ≠ some "")
    (name : Journal Error String) : build ⟨name, d.structs⟩ o = build d o := by
  have hsame : packageName ⟨name, d.structs⟩ o = packageName d o := by
    unfold packageName
    split
    · next given hgiven =>
      have hgiven' : given ≠ "" := by
        rintro rfl
        exact hempty hgiven
      rw [if_neg hgiven', if_neg hgiven']
    · next hgiven => exact absurd hgiven hnone
  rw [build, build, hsame]

/-- The structs make no difference where the name is not known. -/
theorem build_of_unknown {e : Error} (h : (packageName d o).result = .error e)
    (structs : Journal Error (List Struct)) : build ⟨d.packageName, structs⟩ o = build d o := by
  rw [build, build]
  cases nameFilter o with
  | error e' => rfl
  | ok filter =>
    have h' : (packageName ⟨d.packageName, structs⟩ o).result = .error e := h
    show Journal.bind _ _ = Journal.bind _ _
    simp only [Journal.bind_of_error h, Journal.bind_of_error h']
    rfl

/-- What a run asks of declarations, and when. -/
structure Asks (t : Tree) (d : Declarations) (o : Options) (target : Target) (s : Surroundings) :
    Prop where
  /-- nothing if the rules for names cannot be read -/
  rules {e : Error} : nameFilter o = .error e →
    generate t d o target s = ⟨t, [], .fail ⟨.configure, e⟩⟩
  /-- not the name if another one is given -/
  name : o.outPackage ≠ none → o.outPackage ≠ some "" →
    ∀ name, generate t ⟨name, d.structs⟩ o target s = generate t d o target s
  /-- not the structs if the name is not known -/
  structs {e : Error} : (packageName d o).result = .error e →
    ∀ structs, generate t ⟨d.packageName, structs⟩ o target s = generate t d o target s
  /-- each of them once, and the name first -/
  order : ∃ rest, ∀ d', Alike d d' →
    (generate t d' o target s).journal.events = asked d' o ++ rest

theorem asks (t : Tree) (d : Declarations) (o : Options) (target : Target) (s : Surroundings) :
    Asks t d o target s where
  rules h := by
    have hprepare := prepare_of_rules (d := d) h
    rw [generate_of_error d o s (congrArg Journal.result hprepare), hprepare]
    rfl
  name hnone hempty name := generate_congr (build_of_given hnone hempty name)
  structs h structs := generate_congr (build_of_unknown h structs)
  order := exists_events_generate t d o target s

/-! ## The stage that is reported -/

/-- A run asks its declarations in order and not more than it has to, and fails with the error of the
step that fails. The stage that it reports is always that step exactly if the declarations do not fail
with a fault of the settings. -/
theorem generate_stage (t : Tree) (d : Declarations) (o : Options) (target : Target)
    (s : Surroundings) :
    Asks t d o target s ∧
      (∀ stage e, (generate t d o target s).journal.result = .error ⟨stage, e⟩ ↔
        ∃ step, FailsAt t d o target s step e ∧ stage = told step e) ∧
      ((∀ stage e, (generate t d o target s).journal.result = .error ⟨stage, e⟩ ↔
          FailsAt t d o target s stage e) ↔
        ∀ fault, ¬FailsAt t d o target s .extract (.config fault)) := by
  refine ⟨asks t d o target s, fun _ _ => result_generate_iff_failsAt, ?_, ?_⟩
  · -- such a fault would be reported for both stages
    intro h fault hfails
    have hextract := (h .extract (.config fault)).2 hfails
    have hconfigure := result_generate_iff_failsAt.2 ⟨.extract, hfails, rfl⟩
    cases hextract.symm.trans hconfigure
  · intro hno stage e
    have htold : ∀ step, FailsAt t d o target s step e → told step e = step := by
      intro step hfails
      cases step with
      | extract =>
        cases e with
        | config fault => exact absurd hfails (hno fault)
        | parse | tag | render | files => rfl
      | configure | render | write => rfl
    rw [result_generate_iff_failsAt]
    constructor
    · rintro ⟨step, hfails, rfl⟩
      rw [htold step hfails]
      exact hfails
    · exact fun hfails => ⟨stage, hfails, (htold stage hfails).symm⟩

/-- A file where a directory is expected. -/
def misplaced : Tree := Tree.empty.put ["d"] (.file [])

/-- Structs that cannot be read because there is no directory to read are reported as rules for names
that cannot be. -/
theorem generate_stage_misplaced :
    let d := Package.declarations ⟨"d", [], none⟩ misplaced
    let e := Error.config (.notDirectory "d")
    FailsAt misplaced d everything .print .plain .extract e ∧
      (generate misplaced d everything .print).journal.result = .error ⟨.configure, e⟩ := by
  intro d e
  have hfind : misplaced.find "d" = .ok (["d"], .file []) := by decide +kernel
  have hname : (packageName d everything).result = .error e := by
    show (Package.name ⟨"d", [], none⟩ misplaced).result = _
    unfold Package.name Package.sourceFiles
    rw [hfind]
    rfl
  have hfails : FailsAt misplaced d everything .print .plain .extract e := .name rfl hname
  exact ⟨hfails, result_generate_iff_failsAt.2 ⟨_, hfails, rfl⟩⟩

end TagSpec.Run
