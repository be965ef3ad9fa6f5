import TagSpec.Generation

/-!
# What a run depends on

A run that succeeds has read its declarations and written its text. It depends on the sources of a
package by nothing but the files that were read.
-/

namespace TagSpec

open Files

/-- Sources that are read alike give the same declarations, whatever is reported on the way. -/
theorem Package.result_structs_congr {p q : Package} {t u : Tree} (hdir : p.dir = q.dir)
    (hfiles : p.files = q.files) (h : (p.sourceFiles t).result = (q.sourceFiles u).result) :
    (p.structs t).result = (q.structs u).result := by
  have hwanted : p.isWanted = q.isWanted := by
    funext f
    rw [isWanted, isWanted, hfiles]
  unfold structs
  rw [Journal.result_bind, Journal.result_bind, h, hwanted, hdir]

/-- The name of a package depends on nothing but its source files. -/
theorem Package.result_name_congr {p q : Package} {t u : Tree} (hdir : p.dir = q.dir)
    (h : (p.sourceFiles t).result = (q.sourceFiles u).result) :
    (p.name t).result = (q.name u).result := by
  unfold name
  rw [Journal.result_bind, Journal.result_bind, h, hdir]

/-- Structs are known only if the sources could be read. -/
theorem Package.exists_sourceFiles {p : Package} {t : Tree} {structs : List Struct}
    (h : (p.structs t).result = .ok structs) : ∃ files, (p.sourceFiles t).result = .ok files := by
  unfold Package.structs at h
  rw [Journal.result_bind] at h
  cases hfiles : (p.sourceFiles t).result with
  | error e =>
    rw [hfiles] at h
    cases h
  | ok files => exact ⟨files, rfl⟩

namespace Model

theorem result_packageName_congr {d e : Declarations} (o : Options)
    (hname : d.packageName.result = e.packageName.result) :
    (packageName d o).result = (packageName e o).result := by
  unfold packageName
  split
  · split
    · exact hname
    · rfl
  · exact hname

/-- A model depends on nothing but the name and the structs that are declared. -/
theorem result_build_congr {d e : Declarations} (o : Options)
    (hname : d.packageName.result = e.packageName.result)
    (hstructs : d.structs.result = e.structs.result) :
    (build d o).result = (build e o).result := by
  simp only [build, Journal.result_bind, result_packageName_congr o hname, hstructs]

/-- A model is built of the structs that pass the rules for names, under the name for the package. -/
theorem build_eq_ok_iff {d : Declarations} {o : Options} {m : Model} :
    (build d o).result = .ok m ↔
      ∃ filter package structs, nameFilter o = .ok filter ∧ (packageName d o).result = .ok package ∧
        d.structs.result = .ok structs ∧
        m = ⟨⟨package, (filter.kept structs).map (Struct.spec o.tags)⟩, structs.length⟩ := by
  simp only [build, Journal.result_bind_eq_ok_iff, Journal.result_ofExcept]
  constructor
  · rintro ⟨filter, hfilter, package, hpackage, _, -, structs, hstructs, _, hkept, h⟩
    cases hkept
    cases h
    exact ⟨filter, package, structs, hfilter, hpackage, hstructs, rfl⟩
  · rintro ⟨filter, package, structs, hfilter, hpackage, hstructs, rfl⟩
    exact ⟨filter, hfilter, package, hpackage, (), rfl, structs, hstructs, _, rfl, rfl⟩

/-- No model is built if the rules for names cannot be read, or else the name for the package is not
known, or else the structs are not. -/
theorem build_eq_error_iff {d : Declarations} {o : Options} {e : Error} :
    (build d o).result = .error e ↔
      nameFilter o = .error e ∨ ∃ filter, nameFilter o = .ok filter ∧
        ((packageName d o).result = .error e ∨
          ∃ package, (packageName d o).result = .ok package ∧ d.structs.result = .error e) := by
  simp only [build, Journal.result_bind_eq_error_iff, Journal.result_ofExcept,
    Journal.result_report, reduceCtorEq, false_or]
  simp [NameFilter.apply]

/-- A model is built only of structs that are known. -/
theorem exists_structs {d : Declarations} {o : Options} {m : Model}
    (h : (build d o).result = .ok m) : ∃ structs, d.structs.result = .ok structs := by
  obtain ⟨-, -, structs, -, -, hstructs, -⟩ := build_eq_ok_iff.1 h
  exact ⟨structs, hstructs⟩

end Model

namespace Run

theorem result_prepare_congr {d e : Declarations} (o : Options)
    (hname : d.packageName.result = e.packageName.result)
    (hstructs : d.structs.result = e.structs.result) :
    (prepare d o).result = (prepare e o).result := by
  simp only [prepare, Journal.result_bind, Journal.result_mapError,
    Model.result_build_congr o hname hstructs]

/-- What can be written is a model that was built, with its text. -/
theorem prepare_eq_ok_iff {d : Declarations} {o : Options} {m : Model} {text : String} :
    (prepare d o).result = .ok (m, text) ↔
      (Model.build d o).result = .ok m ∧ m.render.result = .ok text := by
  simp only [prepare, Journal.result_bind_eq_ok_iff, Journal.result_mapError, mapError_eq_ok_iff]
  constructor
  · rintro ⟨_, hbuild, _, hrender, h⟩
    cases h
    exact ⟨hbuild, hrender⟩
  · rintro ⟨hbuild, hrender⟩
    exact ⟨m, hbuild, text, hrender, rfl⟩

/-- What was written was built before. -/
theorem exists_build {d : Declarations} {o : Options} {m : Model} {text : String}
    (h : (prepare d o).result = .ok (m, text)) : (Model.build d o).result = .ok m :=
  (prepare_eq_ok_iff.1 h).1

/-- What fails before anything is written is the model, or its text. -/
theorem prepare_eq_error_iff {d : Declarations} {o : Options} {e : StageError} :
    (prepare d o).result = .error e ↔
      (∃ c, (Model.build d o).result = .error c ∧ e = .ofBuild c) ∨
        ∃ m c, (Model.build d o).result = .ok m ∧ m.render.result = .error c ∧ e = ⟨.render, c⟩ := by
  simp only [prepare, Journal.result_bind_eq_error_iff, Journal.result_mapError, mapError_eq_ok_iff,
    mapError_eq_error_iff, Journal.result_pure, reduceCtorEq, and_false, exists_false, or_false]
  refine or_congr_right ⟨?_, ?_⟩
  · rintro ⟨m, hbuild, c, hrender, he⟩
    exact ⟨m, c, hbuild, hrender, he⟩
  · rintro ⟨m, c, hbuild, hrender, he⟩
    exact ⟨m, hbuild, c, hrender, he⟩

/-- A run succeeds exactly if its text could be prepared and sent. -/
theorem result_generate_iff {t : Tree} {d : Declarations} {o : Options} {target : Target}
    {s : Surroundings} {r : Report} :
    (generate t d o target s).journal.result = .ok r ↔
      ∃ m text, (prepare d o).result = .ok (m, text) ∧ r = report m ∧
        (Output.emit t text target s).journal.result = .ok () := by
  unfold generate
  cases hprep : (prepare d o).result with
  | error e => simp [hprep]
  | ok r' =>
    obtain ⟨m, text⟩ := r'
    simp only [Journal.result_bind, hprep, Except.bind, Journal.result_mapError]
    constructor
    · intro h
      cases hemit : (Output.emit t text target s).journal.result with
      | error e =>
        rw [hemit] at h
        cases h
      | ok _ =>
        rw [hemit] at h
        cases h
        exact ⟨m, text, rfl, rfl, hemit⟩
    · rintro ⟨m', text', hsame, rfl, hemit⟩
      cases hsame
      rw [hemit]
      rfl

/-- A run fails exactly if its text could not be prepared, or else not sent. -/
theorem result_generate_eq_error_iff {t : Tree} {d : Declarations} {o : Options} {target : Target}
    {s : Surroundings} {e : StageError} :
    (generate t d o target s).journal.result = .error e ↔
      (prepare d o).result = .error e ∨
        ∃ m text c, (prepare d o).result = .ok (m, text) ∧
          (Output.emit t text target s).journal.result = .error c ∧ e = ⟨.write, c⟩ := by
  unfold generate
  cases hprep : (prepare d o).result with
  | error e' => simp [hprep]
  | ok r =>
    obtain ⟨m, text⟩ := r
    simp only [Journal.result_bind_eq_error_iff, hprep, Journal.result_mapError,
      mapError_eq_error_iff, Journal.result_report, Journal.result_pure, reduceCtorEq, and_false,
      exists_false, or_false, false_or]
    constructor
    · rintro ⟨_, -, c, hemit, he⟩
      exact ⟨m, text, c, rfl, hemit, he⟩
    · rintro ⟨_, _, c, hsame, hemit, he⟩
      cases hsame
      exact ⟨_, rfl, c, hemit, he⟩

/-- Once there is a text, what becomes of the files is what becomes of them where it is sent. -/
theorem tree_generate {t : Tree} {d : Declarations} {o : Options} {target : Target}
    {s : Surroundings} {m : Model} {text : String} (h : (prepare d o).result = .ok (m, text)) :
    (generate t d o target s).tree = (Output.emit t text target s).tree := by
  unfold generate
  simp only [h]

theorem printed_generate_of_ok {t : Tree} {d : Declarations} {o : Options} {target : Target}
    {s : Surroundings} {m : Model} {text : String} (h : (prepare d o).result = .ok (m, text)) :
    (generate t d o target s).printed = (Output.emit t text target s).printed := by
  unfold generate
  simp only [h]

end Run

end TagSpec
