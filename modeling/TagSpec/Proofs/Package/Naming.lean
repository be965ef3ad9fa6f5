import TagSpec.Proofs.Generation
import TagSpec.Proofs.Outcomes
import TagSpec.Proofs.Package.Structs

/-!
# The name of a package

Which name the sources of a package agree on, and what it fails with. Main statement: `name_exact`, by
which the name is known exactly if every source file can be read, at least one of them gives a name, and
all that do give the same; and otherwise the first fault in the order of the names of the files is
reported.
-/

namespace TagSpec.Package

open Files

/-! ## One file -/

/-- What a source file says of the name of its package: nothing if it takes part in no build, and else
what the package clause of its text says, if there is one. -/
inductive SourceFile.Says (f : SourceFile) : Option String → Prop
  | ignored {text : List Char} : Utf8.decode? f.bytes = some text →
      Source.isBuildIgnored text = true → f.Says none
  | parsed {text : List Char} {tree : Source.SyntaxTree} : Utf8.decode? f.bytes = some text →
      Source.isBuildIgnored text = false → Source.parse text = .ok tree →
      f.Says (Source.packageName? tree)

/-- Why it is not known what a source file says: its bytes are no text, or the text has an error of
form. -/
inductive SourceFile.Withholds (f : SourceFile) : Error → Prop
  | unreadable : Utf8.decode? f.bytes = none → f.Withholds (.files .readFile f.path .notText)
  | malformed {text : List Char} {fault : Source.SyntaxFault} {position : Source.Position} :
      Utf8.decode? f.bytes = some text → Source.isBuildIgnored text = false →
      Source.parse text = .error (fault, position) →
      f.Withholds (.parse (.inFile f.path position) (.form fault))

/-- A source file does not speak against a name: it gives none, or this one. -/
def SourceFile.Agrees (name : String) (f : SourceFile) : Prop := f.Says none ∨ f.Says (some name)

/-- The name that is read of a file. -/
def SourceFile.said (f : SourceFile) : Except Error (Option String) :=
  match Utf8.decode? f.bytes with
  | none => .error (.files .readFile f.path .notText)
  | some text => if Source.isBuildIgnored text then .ok none else nameAt f.path text

/-- The name of a text is that of its package clause, if the text can be read. -/
theorem nameAt_eq_ok_iff {path : String} {text : List Char} {given : Option String} :
    nameAt path text = .ok given ↔
      ∃ tree, Source.parse text = .ok tree ∧ given = Source.packageName? tree := by
  simp only [nameAt, parseAt, map_eq_ok_iff, mapError_eq_ok_iff]

/-- A text gives no name only if it has an error of form, which is reported at its place. -/
theorem nameAt_eq_error_iff {path : String} {text : List Char} {e : Error} :
    nameAt path text = .error e ↔ ∃ fault position, Source.parse text = .error (fault, position) ∧
      e = .parse (.inFile path position) (.form fault) := by
  simp only [nameAt, parseAt, map_eq_error_iff, mapError_eq_error_iff, Prod.exists]

/-- What a file says of the name is what is read of it. -/
theorem says_iff {f : SourceFile} {given : Option String} : f.Says given ↔ f.said = .ok given := by
  unfold SourceFile.said
  constructor
  · rintro (⟨htext, hignored⟩ | ⟨htext, hbuilt, hparse⟩)
    · simp [htext, hignored]
    · simp [htext, hbuilt, nameAt_of_parse hparse]
  · intro h
    split at h
    · cases h
    · next text htext =>
      split at h
      · next hignored =>
        cases h
        exact .ignored htext hignored
      · next hbuilt =>
        obtain ⟨tree, hparse, rfl⟩ := nameAt_eq_ok_iff.1 h
        exact .parsed htext (by simpa using hbuilt) hparse

/-- A file withholds the name exactly if it cannot be read. -/
theorem withholds_iff {f : SourceFile} {e : Error} : f.Withholds e ↔ f.said = .error e := by
  unfold SourceFile.said
  constructor
  · rintro (htext | ⟨htext, hbuilt, hparse⟩)
    · simp [htext]
    · simpa [htext, hbuilt] using nameAt_eq_error_iff.2 ⟨_, _, hparse, rfl⟩
  · intro h
    split at h
    · next htext =>
      cases h
      exact .unreadable htext
    · next text htext =>
      split at h
      · cases h
      · next hbuilt =>
        obtain ⟨fault, position, hparse, rfl⟩ := nameAt_eq_error_iff.1 h
        exact .malformed htext (by simpa using hbuilt) hparse

/-! ## One file after another -/

/-- The error for a file that gives another name than one before it. -/
def disagreement (dir first firstPath second secondPath : String) : Error :=
  .parse (.whole secondPath) (.packages first firstPath second secondPath dir)

/-- What a file does to a name that was given before: nothing if it does not speak against it. -/
def SourceFile.check (dir name path : String) (f : SourceFile) : Except Error Unit :=
  f.said.bind fun
    | none => .ok ()
    | some other => if name = other then .ok () else .error (disagreement dir name path other f.path)

theorem check_eq_ok_iff {dir name path : String} {f : SourceFile} {u : Unit} :
    f.check dir name path = .ok u ↔ f.Agrees name := by
  unfold SourceFile.check SourceFile.Agrees
  rw [says_iff, says_iff]
  cases f.said with
  | error e => simp [Except.bind]
  | ok given =>
    cases given with
    | none => simp [Except.bind]
    | some other => by_cases h : name = other <;> simp [Except.bind, h, eq_comm]

theorem check_eq_error_iff {dir name path : String} {f : SourceFile} {e : Error} :
    f.check dir name path = .error e ↔ f.Withholds e ∨
      ∃ other, f.Says (some other) ∧ other ≠ name ∧ e = disagreement dir name path other f.path := by
  unfold SourceFile.check
  simp only [says_iff, withholds_iff]
  cases f.said with
  | error e' => simp [Except.bind]
  | ok given =>
    cases given with
    | none => simp [Except.bind]
    | some other =>
      by_cases h : name = other
      · simp [Except.bind, h]
      · simp [Except.bind, h, eq_comm]

/-- What is found after a file: the name that was found before, or else that of the file. -/
theorem result_nameOf_cons (dir : String) (found : Option (String × String)) (f : SourceFile)
    (fs : List SourceFile) :
    (nameOf dir found (f :: fs)).result =
      match found with
      | some (name, path) =>
        (f.check dir name path).bind fun _ => (nameOf dir (some (name, path)) fs).result
      | none => f.said.bind fun given => (nameOf dir (given.map (·, f.path)) fs).result := by
  rw [nameOf, Journal.result_bind]
  unfold SourceFile.check SourceFile.said SourceFile.read
  cases Utf8.decode? f.bytes with
  | none => cases found <;> rfl
  | some text =>
    simp only
    split
    · cases found <;> rfl
    · simp only [Journal.result_pure, Except.bind, Journal.result_bind, Journal.result_ofExcept]
      cases nameAt f.path text with
      | error e => cases found <;> rfl
      | ok given =>
        cases given with
        | none => cases found <;> rfl
        | some other =>
          cases found with
          | none => rfl
          | some first =>
            simp only
            split <;> rfl

/-- Once a name was given, the other files are checked against it. -/
theorem result_nameOf_some (dir name path : String) (fs : List SourceFile) :
    (nameOf dir (some (name, path)) fs).result =
      (fs.mapM (SourceFile.check dir name path)).map fun _ => name := by
  induction fs with
  | nil => rfl
  | cons f fs ih =>
    rw [result_nameOf_cons, List.mapM_cons]
    dsimp only
    rw [ih]
    cases f.check dir name path with
    | error e => rfl
    | ok _ => cases fs.mapM (SourceFile.check dir name path) <;> rfl

/-- Once a name is known it stays, and all files behind have to agree to it. -/
theorem nameOf_some_eq_ok_iff {dir name path n : String} {fs : List SourceFile} :
    (nameOf dir (some (name, path)) fs).result = .ok n ↔ (∀ f ∈ fs, f.Agrees name) ∧ n = name := by
  rw [result_nameOf_some, map_eq_ok_iff]
  simp only [mapM_eq_ok_iff, exists_and_right, exists_forall₂_iff, check_eq_ok_iff, exists_const]

theorem nameOf_some_eq_error_iff {dir name path : String} {fs : List SourceFile} {e : Error} :
    (nameOf dir (some (name, path)) fs).result = .error e ↔
      ∃ before f after, fs = before ++ f :: after ∧ (∀ g ∈ before, g.Agrees name) ∧
        (f.Withholds e ∨ ∃ other, f.Says (some other) ∧ other ≠ name ∧
          e = disagreement dir name path other f.path) := by
  rw [result_nameOf_some, map_eq_error_iff, mapM_eq_error_iff]
  simp only [check_eq_ok_iff, exists_const, check_eq_error_iff]

/-- Files that say nothing change nothing. -/
theorem result_nameOf_silent {dir : String} {before : List SourceFile}
    (h : ∀ g ∈ before, g.Says none) (fs : List SourceFile) :
    (nameOf dir none (before ++ fs)).result = (nameOf dir none fs).result := by
  induction before with
  | nil => rfl
  | cons g before ih =>
    obtain ⟨hg, hbefore⟩ := List.forall_mem_cons.1 h
    rw [List.cons_append, result_nameOf_cons, says_iff.1 hg]
    exact ih hbefore

/-- Either no file says anything, or one is the first that does not say nothing. -/
theorem silent_or_first (fs : List SourceFile) : (∀ f ∈ fs, f.Says none) ∨
    ∃ before f after, fs = before ++ f :: after ∧ (∀ g ∈ before, g.Says none) ∧ ¬f.Says none := by
  induction fs with
  | nil => exact .inl nofun
  | cons f fs ih =>
    by_cases hf : f.Says none
    · rcases ih with hall | ⟨before, g, after, rfl, hbefore, hg⟩
      · exact .inl (List.forall_mem_cons.2 ⟨hf, hall⟩)
      · exact .inr ⟨f :: before, g, after, rfl, List.forall_mem_cons.2 ⟨hf, hbefore⟩, hg⟩
    · exact .inr ⟨[], f, fs, rfl, nofun, hf⟩

/-- The first fault of source files in order, and the error that is reported for it. No file in front
of it withholds what it says, and those that give a name give the same. -/
inductive NameFault (dir : String) : List SourceFile → Error → Prop
  | withheld {before : List SourceFile} {f : SourceFile} {after : List SourceFile} {e : Error} :
      (∃ name, ∀ g ∈ before, g.Agrees name) → f.Withholds e →
      NameFault dir (before ++ f :: after) e
  | conflict {before : List SourceFile} {first : SourceFile} {between : List SourceFile}
      {second : SourceFile} {after : List SourceFile} {name other : String} :
      (∀ g ∈ before, g.Says none) → first.Says (some name) → (∀ g ∈ between, g.Agrees name) →
      second.Says (some other) → other ≠ name →
      NameFault dir (before ++ first :: (between ++ second :: after))
        (.parse (.whole second.path) (.packages name first.path other second.path dir))
  | nameless {files : List SourceFile} : (∀ f ∈ files, f.Says none) →
      NameFault dir files (.parse (.whole dir) .noPackage)

/-- The files agree on a name. -/
structure AgreeOn (files : List SourceFile) (name : String) : Prop where
  known : ∀ f ∈ files, ∃ given, f.Says given
  given : ∃ f ∈ files, f.Says (some name)
  unique : ∀ f ∈ files, ∀ other, f.Says (some other) → other = name

/-- A file says one thing of the name of its package. -/
theorem SourceFile.Says.unique {f : SourceFile} {given given' : Option String} (h : f.Says given)
    (h' : f.Says given') : given = given' :=
  Except.ok.inj ((says_iff.1 h).symm.trans (says_iff.1 h'))

theorem agrees_iff {f : SourceFile} {name : String} :
    f.Agrees name ↔ (∃ given, f.Says given) ∧ ∀ other, f.Says (some other) → other = name := by
  constructor
  · rintro (hnone | hname)
    · exact ⟨⟨_, hnone⟩, fun other h => nomatch hnone.unique h⟩
    · exact ⟨⟨_, hname⟩, fun other h => Option.some.inj (h.unique hname)⟩
  · rintro ⟨⟨given, hgiven⟩, hunique⟩
    cases given with
    | none => exact .inl hgiven
    | some other => exact .inr (hunique other hgiven ▸ hgiven)

/-- Files agree on a name if none of them speaks against it and one of them gives it. -/
theorem agreeOn_iff {files : List SourceFile} {name : String} :
    AgreeOn files name ↔ (∀ f ∈ files, f.Agrees name) ∧ ∃ f ∈ files, f.Says (some name) := by
  constructor
  · rintro ⟨hknown, hgiven, hunique⟩
    exact ⟨fun f hf => agrees_iff.2 ⟨hknown f hf, hunique f hf⟩, hgiven⟩
  · rintro ⟨hagrees, hgiven⟩
    exact ⟨fun f hf => (agrees_iff.1 (hagrees f hf)).1, hgiven,
      fun f hf => (agrees_iff.1 (hagrees f hf)).2⟩

/-- Without a file that says something there is no name. -/
theorem nameOf_of_silent {fs : List SourceFile} (h : ∀ f ∈ fs, f.Says none) (dir : String) :
    (nameOf dir none fs).result = .error (.parse (.whole dir) .noPackage) := by
  rw [← List.append_nil fs, result_nameOf_silent h]
  rfl

/-- The first file that says something gives the name that the others are checked against. -/
theorem nameOf_of_first {before : List SourceFile} {f : SourceFile} {name : String}
    (hbefore : ∀ g ∈ before, g.Says none) (hf : f.Says (some name)) (dir : String)
    (after : List SourceFile) :
    (nameOf dir none (before ++ f :: after)).result =
      (nameOf dir (some (name, f.path)) after).result := by
  rw [result_nameOf_silent hbefore, result_nameOf_cons, says_iff.1 hf]
  rfl

theorem nameOf_of_withholds {before : List SourceFile} {f : SourceFile} {e : Error}
    (hbefore : ∀ g ∈ before, g.Says none) (hf : f.Withholds e) (dir : String)
    (after : List SourceFile) :
    (nameOf dir none (before ++ f :: after)).result = .error e := by
  rw [result_nameOf_silent hbefore, result_nameOf_cons, withholds_iff.1 hf]
  rfl

/-- A file that does not say nothing gives a name or withholds it. -/
theorem gives_or_withholds {f : SourceFile} (h : ¬f.Says none) :
    (∃ name, f.Says (some name)) ∨ ∃ e, f.Withholds e := by
  rw [says_iff] at h
  simp only [says_iff, withholds_iff]
  cases hsaid : f.said with
  | error e => exact .inr ⟨e, rfl⟩
  | ok given =>
    cases given with
    | none => exact absurd hsaid h
    | some name => exact .inl ⟨name, rfl⟩

theorem SourceFile.Withholds.not_says {f : SourceFile} {e : Error} {given : Option String}
    (h : f.Withholds e) (h' : f.Says given) : False :=
  nomatch (withholds_iff.1 h).symm.trans (says_iff.1 h')

/-- The name of files is the one that they agree on. -/
theorem nameOf_eq_ok_iff {dir n : String} {fs : List SourceFile} :
    (nameOf dir none fs).result = .ok n ↔ AgreeOn fs n := by
  rcases silent_or_first fs with hall | ⟨before, f, after, rfl, hbefore, hf⟩
  · rw [nameOf_of_silent hall]
    refine iff_of_false nofun fun h => ?_
    obtain ⟨f, hf, hsays⟩ := h.given
    exact nomatch (hall f hf).unique hsays
  · have hmem : f ∈ before ++ f :: after := by simp
    rcases gives_or_withholds hf with ⟨name, hname⟩ | ⟨e, he⟩
    · rw [nameOf_of_first hbefore hname, nameOf_some_eq_ok_iff, agreeOn_iff]
      constructor
      · rintro ⟨hafter, rfl⟩
        refine ⟨List.forall_mem_append.2 ⟨fun g hg => .inl (hbefore g hg), ?_⟩, f, hmem, hname⟩
        exact List.forall_mem_cons.2 ⟨.inr hname, hafter⟩
      · rintro ⟨hagrees, -⟩
        obtain rfl : name = n := (agrees_iff.1 (hagrees f hmem)).2 name hname
        exact ⟨(List.forall_mem_cons.1 (List.forall_mem_append.1 hagrees).2).2, rfl⟩
    · rw [nameOf_of_withholds hbefore he]
      refine iff_of_false nofun fun h => ?_
      obtain ⟨given, hgiven⟩ := h.known f hmem
      exact he.not_says hgiven

/-- Files that do not agree on a name fail with their first fault. -/
theorem nameOf_eq_error_iff {dir : String} {fs : List SourceFile} {e : Error} :
    (nameOf dir none fs).result = .error e ↔ NameFault dir fs e := by
  constructor
  · intro h
    rcases silent_or_first fs with hall | ⟨before, f, after, rfl, hbefore, hf⟩
    · rw [nameOf_of_silent hall] at h
      cases h
      exact .nameless hall
    have hsilent (name : String) : ∀ g ∈ before, g.Agrees name := fun g hg => .inl (hbefore g hg)
    rcases gives_or_withholds hf with ⟨name, hname⟩ | ⟨e', he'⟩
    · rw [nameOf_of_first hbefore hname, nameOf_some_eq_error_iff] at h
      obtain ⟨between, second, rest, rfl, hbetween, he | ⟨other, hother, hne, rfl⟩⟩ := h
      · rw [← List.cons_append, ← List.append_assoc]
        have hfront := List.forall_mem_cons.2 ⟨.inr hname, hbetween⟩
        exact .withheld ⟨name, List.forall_mem_append.2 ⟨hsilent name, hfront⟩⟩ he
      · exact .conflict hbefore hname hbetween hother hne
    · rw [nameOf_of_withholds hbefore he'] at h
      cases h
      -- nothing was given before, so any name will do
      exact .withheld ⟨"", hsilent ""⟩ he'
  · rintro (⟨⟨name, hfront⟩, hf⟩ | ⟨hbefore, hfirst, hbetween, hsecond, hne⟩ | hall)
    · next front f after =>
      rcases silent_or_first front with hall | ⟨before, first, between, rfl, hbefore, hfirst⟩
      · exact nameOf_of_withholds hall hf dir after
      · obtain ⟨-, hagrees⟩ := List.forall_mem_append.1 hfront
        obtain ⟨hgives, hbetween⟩ := List.forall_mem_cons.1 hagrees
        rw [List.append_assoc, List.cons_append, nameOf_of_first hbefore (hgives.resolve_left hfirst),
          nameOf_some_eq_error_iff]
        exact ⟨between, f, after, rfl, hbetween, .inl hf⟩
    · rw [nameOf_of_first hbefore hfirst, nameOf_some_eq_error_iff]
      exact ⟨_, _, _, rfl, hbetween, .inr ⟨_, hsecond, hne, rfl⟩⟩
    · exact nameOf_of_silent hall dir

/-! ## The files of a directory -/

/-- A file that is read for the name of the package: it is considered if any name of a file will do. -/
def IsSourceFile (p : Package) (t : Tree) (dir : Place) (f : SourceFile) : Prop :=
  IsConsidered { p with files := [] } t dir f

/-- If any name of a file will do, no source file is left out. -/
theorem consideredIn_any (p : Package) (t : Tree) (dir : Place) :
    consideredIn { p with files := [] } t dir = sourcesBut t p.dir dir p.skipped :=
  List.filter_eq_self.2 fun _ _ => rfl

/-- The name of a package is that of the files that are considered, whatever patterns it has. -/
theorem result_name (p : Package) {t : Tree} {dir : Place}
    (h : t.find p.dir = .ok (dir, .directory)) :
    (p.name t).result = (nameOf p.dir none (consideredIn { p with files := [] } t dir)).result := by
  rw [name, Journal.result_bind, result_sourceFiles p t h, consideredIn_any]
  rfl

/-- The name of a package is the one that its source files agree on: each of them can be read, one of
them gives this name, and none gives another one. Otherwise the first fault in the order of the names of
the files is reported. Which files are asked for makes no difference. -/
theorem name_exact (p : Package) (t : Tree) {dir : Place}
    (h : t.find p.dir = .ok (dir, .directory)) :
    ∃ files : List SourceFile,
      (files.Pairwise fun f g => Utf8.encode f.name.toList < Utf8.encode g.name.toList) ∧
      (∀ f, f ∈ files ↔ IsSourceFile p t dir f) ∧
      (∀ n, (p.name t).result = .ok n ↔ AgreeOn files n) ∧
      (∀ e, (p.name t).result = .error e ↔ NameFault p.dir files e) ∧
      ∀ patterns, (name { p with files := patterns } t).result = (p.name t).result := by
  refine ⟨consideredIn { p with files := [] } t dir, pairwise_consideredIn _ t dir,
    fun f => mem_consideredIn_iff, fun n => ?_, fun e => ?_, fun patterns => ?_⟩
  · rw [result_name p h]
    exact nameOf_eq_ok_iff
  · rw [result_name p h]
    exact nameOf_eq_error_iff
  · rw [result_name p h]
    exact result_name { p with files := patterns } h

/-- A directory of files without a package clause, of a package, for no build, of another package, and
for tests. -/
def divided : Tree :=
  let source (text : String) := Files.Entry.file (Utf8.encode text.toList)
  (((((Tree.empty.put ["src"] .directory).put ["src", "e_test.go"] (.file [0xFF])).put
    ["src", "d.go"] (source "package two\n")).put
    ["src", "c.go"] (source "//go:build ignore\npackage main\n")).put
    ["src", "b.go"] (source "package one\n")).put ["src", "a.go"] (source "func f() \x7b\x7d\n")

/-- The second package is reported at its file, together with the first one. -/
theorem name_exact_divided :
    divided.find "src" = .ok (["src"], .directory) ∧
      ∃ files : List SourceFile,
        (∀ f, f ∈ files ↔ IsSourceFile ⟨"src", [[.char 'a', .anyText]], none⟩ divided ["src"] f) ∧
        NameFault "src" files
          (.parse (.whole "src/d.go") (.packages "one" "src/b.go" "two" "src/d.go" "src")) := by
  let p : Package := ⟨"src", [[.char 'a', .anyText]], none⟩
  have hfind : divided.find "src" = .ok (["src"], .directory) := by decide +kernel
  have hsorted : divided.sortedChildren ["src"] = divided.children ["src"] :=
    List.mergeSort_of_pairwise (by decide +kernel)
  have hfault : sourceFault? (p.name divided).result =
      some (.whole "src/d.go", .packages "one" "src/b.go" "two" "src/d.go" "src") := by
    rw [result_name p hfind, consideredIn_any, sourcesBut, hsorted]
    decide +kernel
  obtain ⟨files, -, hfiles, -, herror, -⟩ := name_exact p divided hfind
  exact ⟨hfind, files, hfiles, (herror _).1 (eq_error_of_sourceFault? hfault)⟩

end TagSpec.Package
