import Mathlib.Data.List.Sort
import TagSpec.Proofs.Package.Structs
import TagSpec.Proofs.Source.Headers
import TagSpec.Proofs.Stages

/-!
# Files that are not considered

The structs of a package depend on the files that are considered and on nothing else in the tree. Of
a file that takes part in no build they depend on no more than the lines at its start. Main statement:
`structs_unconsidered`.
-/

namespace TagSpec

open Files

/-- A model that is given the name of its package depends on the structs only. -/
theorem Model.result_build_of_given {d d' : Declarations} {o : Options} {name : String}
    (hgiven : o.outPackage = some name) (hname : name ≠ "")
    (hstructs : d.structs.result = d'.structs.result) :
    (build d o).result = (build d' o).result := by
  have hnone : o.outPackage ≠ none := by simp [hgiven]
  have hempty : o.outPackage ≠ some "" := by simpa [hgiven] using hname
  rw [← Run.build_of_given hnone hempty d'.packageName (d := d)]
  exact result_build_congr o rfl hstructs

namespace Package

/-! ## The same files -/

/-- Bytes that say the same about structs: they are the same, or they are two texts that take part in
no build, of which the one begins with the header of the other. -/
def SaysSame (bytes other : List UInt8) : Prop :=
  bytes = other ∨ ∃ text text', Utf8.decode? bytes = some text ∧ Utf8.decode? other = some text' ∧
    Source.isBuildIgnored text = true ∧ Source.header text <+: textLines text'

/-- The same files are considered in two directories, and they say the same. -/
structure SameConsidered (p q : Package) (t u : Tree) (dir dir' : Place) : Prop where
  kept : ∀ f, IsConsidered p t dir f →
    ∃ g, IsConsidered q u dir' g ∧ g.name = f.name ∧ SaysSame f.bytes g.bytes
  unadded : ∀ g, IsConsidered q u dir' g → ∃ f, IsConsidered p t dir f ∧ f.name = g.name

/-- Files that say the same are read alike. -/
theorem located_eq {f g : SourceFile} (hpath : f.path = g.path) (h : SaysSame f.bytes g.bytes) :
    f.located = g.located := by
  rcases h with hbytes | ⟨text, text', htext, htext', hignored, hheader⟩
  · rw [SourceFile.located, SourceFile.located, hbytes, hpath]
  · have hignored' := Source.isBuildIgnored_of_header hignored hheader
    simp only [SourceFile.located, htext, htext', hignored, hignored', if_true]

/-- One file after another, the structs depend on what is read of each file at its path. -/
theorem result_structsOf_congr {fs gs : List SourceFile}
    (h : List.Forall₂ (fun f g => f.path = g.path ∧ f.located = g.located) fs gs)
    (declared : Declared) : (structsOf declared fs).result = (structsOf declared gs).result := by
  induction h generalizing declared with
  | nil => rfl
  | cons hfile _ ih =>
    obtain ⟨hpath, hlocated⟩ := hfile
    simp only [result_structsOf_cons, hpath, hlocated, ih]

theorem IsConsidered.eq {p : Package} {t : Tree} {dir : Place} {f g : SourceFile}
    (hf : IsConsidered p t dir f) (hg : IsConsidered p t dir g) (hname : f.name = g.name) :
    f = g := by
  obtain ⟨name, path, bytes⟩ := f
  obtain ⟨name', path', bytes'⟩ := g
  obtain rfl : name = name' := hname
  obtain rfl : path = path' := hf.path.trans hg.path.symm
  have hstands := hf.stands.symm.trans hg.stands
  cases hstands
  rfl

/-- Of names in the order of their bytes, none twice, it is enough to know which they are. -/
theorem names_eq_of_mem_iff {names names' : List String}
    (h : names.Pairwise fun a b => Utf8.encode a.toList < Utf8.encode b.toList)
    (h' : names'.Pairwise fun a b => Utf8.encode a.toList < Utf8.encode b.toList)
    (hmem : ∀ name, name ∈ names ↔ name ∈ names') : names = names' := by
  have : Std.Irrefl fun a b : String => Utf8.encode a.toList < Utf8.encode b.toList :=
    ⟨fun _ => List.lt_irrefl _⟩
  have : Std.Antisymm fun a b : String => Utf8.encode a.toList < Utf8.encode b.toList :=
    ⟨fun _ _ hab hba => absurd hba (List.lt_asymm hab)⟩
  exact h.eq_of_mem_iff h' hmem

namespace SameConsidered

variable {p q : Package} {t u : Tree} {dir dir' : Place} (h : SameConsidered p q t u dir dir')
include h

/-- The files that are considered have the same names in both directories. -/
theorem names_eq : (p.consideredIn t dir).map SourceFile.name =
    (q.consideredIn u dir').map SourceFile.name := by
  refine names_eq_of_mem_iff (List.pairwise_map.2 (pairwise_consideredIn p t dir))
    (List.pairwise_map.2 (pairwise_consideredIn q u dir')) fun name => ?_
  rw [List.mem_map, List.mem_map]
  constructor
  · rintro ⟨f, hf, rfl⟩
    obtain ⟨g, hg, hname, -⟩ := h.kept f (mem_consideredIn_iff.1 hf)
    exact ⟨g, mem_consideredIn_iff.2 hg, hname⟩
  · rintro ⟨g, hg, rfl⟩
    obtain ⟨f, hf, hname⟩ := h.unadded g (mem_consideredIn_iff.1 hg)
    exact ⟨f, mem_consideredIn_iff.2 hf, hname⟩

theorem saysSame {f g : SourceFile} (hf : IsConsidered p t dir f) (hg : IsConsidered q u dir' g)
    (hname : f.name = g.name) : SaysSame f.bytes g.bytes := by
  obtain ⟨g', hg', hname', hsame⟩ := h.kept f hf
  rwa [hg'.eq hg (hname'.trans hname)] at hsame

theorem forall₂_located (hdir : p.dir = q.dir) :
    List.Forall₂ (fun f g => f.path = g.path ∧ f.located = g.located) (p.consideredIn t dir)
      (q.consideredIn u dir') := by
  have hnames : List.Forall₂ (fun f g : SourceFile => f.name = g.name) (p.consideredIn t dir)
      (q.consideredIn u dir') := by
    have heq := h.names_eq
    rw [← List.forall₂_eq_eq_eq, List.forall₂_map_left_iff, List.forall₂_map_right_iff] at heq
    exact heq
  rw [List.forall₂_iff_get] at hnames ⊢
  obtain ⟨hlength, hget⟩ := hnames
  refine ⟨hlength, fun i hi hi' => ?_⟩
  have hf := mem_consideredIn_iff.1 (List.get_mem (p.consideredIn t dir) ⟨i, hi⟩)
  have hg := mem_consideredIn_iff.1 (List.get_mem (q.consideredIn u dir') ⟨i, hi'⟩)
  have hname := hget i hi hi'
  have hpath := hf.path.trans (by rw [hdir, hname, ← hg.path])
  exact ⟨hpath, located_eq hpath (h.saysSame hf hg hname)⟩

/-- The structs of two packages are the same if the same files are considered. -/
theorem structs_eq (hdir : p.dir = q.dir) (ht : t.find p.dir = .ok (dir, .directory))
    (hu : u.find q.dir = .ok (dir', .directory)) :
    (p.structs t).result = (q.structs u).result := by
  rw [result_structs p ht, result_structs q hu]
  exact result_structsOf_congr (h.forall₂_located hdir) _

end SameConsidered

/-! ## The same structs -/

/-- The structs of a package are the same in any two trees in which the same files are considered, and
so is a model of them that is given the name of its package. All other files may differ, and so may
the places of the directory and of the file that is passed over. -/
theorem structs_unconsidered {t u : Tree} {source : String} {patterns : List String}
    {skipped : Option String} {p q : Package} {dir dir' : Place}
    (hp : ofDirectory t source patterns skipped = .ok p)
    (hq : ofDirectory u source patterns skipped = .ok q)
    (ht : t.find source = .ok (dir, .directory)) (hu : u.find source = .ok (dir', .directory))
    (hsame : SameConsidered p q t u dir dir') :
    (p.structs t).result = (q.structs u).result ∧
      ∀ (o : Options) (name : String), o.outPackage = some name → name ≠ "" →
        (Model.build (p.declarations t) o).result = (Model.build (q.declarations u) o).result := by
  obtain ⟨files, hfiles, rfl⟩ := map_eq_ok_iff.1 hp
  obtain ⟨files', hfiles', rfl⟩ := map_eq_ok_iff.1 hq
  obtain rfl : files = files' := Except.ok.inj (hfiles.symm.trans hfiles')
  have hstructs := hsame.structs_eq rfl ht hu
  exact ⟨hstructs, fun o name hgiven hname =>
    Model.result_build_of_given hgiven hname hstructs⟩

/-- The files that are considered among the entries of a directory in any order. -/
theorem isConsidered_iff_mem {p : Package} {t : Tree} {dir : Place} {f : SourceFile} :
    IsConsidered p t dir f ↔
      f ∈ (((t.children dir).filter (isRead dir p.skipped)).filterMap
        (sourceAt? p.dir)).filter p.isWanted := by
  rw [← mem_consideredIn_iff, consideredIn, sourcesBut]
  simp only [List.mem_filter, List.mem_filterMap, Tree.sortedChildren, List.mem_mergeSort]

/-- A directory with a source file and a file that takes part in no build, of which `body` is what
follows the constraint. -/
def withIgnored (body : String) : Tree :=
  ((Tree.empty.put ["src"] .directory).put ["src", "a.go"]
    (.file (Utf8.encode "package a\ntype A struct \x7b\x7d\n".toList))).put ["src", "gen.go"]
    (.file (Utf8.encode ("//go:build ignore\n".toList ++ body.toList)))

/-- The same directory with files that are not considered: for tests, not of sources, below it, behind
a link, matched by no pattern, and the one that is passed over. -/
def crowded : Tree :=
  ((((((withIgnored "package main\n").put ["src", "a_test.go"] (.file [0xFF])).put
    ["src", "a.txt"] (.file [0xFF])).put ["src", "a"] .directory).put
    ["src", "a", "a.go"] (.file [0xFF])).put ["src", "alink.go"] (.link "a.go")).put
    ["src", "z.go"] (.file [0xFF]) |>.put ["src", "aout.go"] (.file [0xFF])

/-- None of those files makes a difference, nor does what stands in the file that takes part in no
build. -/
theorem structs_unconsidered_crowded :
    let u := withIgnored "no Go"
    let p : Package := ⟨"src", [[.char 'a', .anyText], [.char 'g', .anyText]],
      some ["src", "aout.go"]⟩
    ofDirectory crowded "src" ["a*", "g*"] (some "src/aout.go") = .ok p ∧
      ofDirectory u "src" ["a*", "g*"] (some "src/aout.go") = .ok p ∧
      crowded.find "src" = .ok (["src"], .directory) ∧ u.find "src" = .ok (["src"], .directory) ∧
      SameConsidered p p crowded u ["src"] ["src"] ∧
      (p.structs crowded).result = (p.structs u).result := by
  intro u p
  have hp := eq_ok_of_toOption (show (ofDirectory crowded "src" ["a*", "g*"]
    (some "src/aout.go")).toOption = some p by decide +kernel)
  have hq := eq_ok_of_toOption (show (ofDirectory u "src" ["a*", "g*"]
    (some "src/aout.go")).toOption = some p by decide +kernel)
  have ht : crowded.find "src" = .ok (["src"], .directory) := by decide +kernel
  have hu : u.find "src" = .ok (["src"], .directory) := by decide +kernel
  let a : SourceFile :=
    ⟨"a.go", "src/a.go", Utf8.encode "package a\ntype A struct \x7b\x7d\n".toList⟩
  let gen (body : String) : SourceFile :=
    ⟨"gen.go", "src/gen.go", Utf8.encode ("//go:build ignore\n".toList ++ body.toList)⟩
  have hcrowded : ∀ f, IsConsidered p crowded ["src"] f ↔ f ∈ [gen "package main\n", a] := by
    intro f
    exact isConsidered_iff_mem.trans (iff_of_eq (congrArg (f ∈ ·) (by decide +kernel)))
  have hbare : ∀ f, IsConsidered p u ["src"] f ↔ f ∈ [gen "no Go", a] := by
    intro f
    exact isConsidered_iff_mem.trans (iff_of_eq (congrArg (f ∈ ·) (by decide +kernel)))
  have hgen : SaysSame (gen "package main\n").bytes (gen "no Go").bytes := by
    refine .inr ⟨"//go:build ignore\npackage main\n".toList, "//go:build ignore\nno Go".toList, ?_⟩
    decide +kernel
  have hsame : SameConsidered p p crowded u ["src"] ["src"] := by
    constructor
    · intro f hf
      rcases List.mem_pair.1 ((hcrowded f).1 hf) with rfl | rfl
      · exact ⟨gen "no Go", (hbare _).2 (by simp), rfl, hgen⟩
      · exact ⟨a, (hbare _).2 (by simp), rfl, .inl rfl⟩
    · intro g hg
      rcases List.mem_pair.1 ((hbare g).1 hg) with rfl | rfl
      · exact ⟨gen "package main\n", (hcrowded _).2 (by simp), rfl⟩
      · exact ⟨a, (hcrowded _).2 (by simp), rfl⟩
  exact ⟨hp, hq, ht, hu, hsame, (structs_unconsidered hp hq ht hu hsame).1⟩

end Package

end TagSpec
