import Mathlib.Data.List.Basic
import TagSpec.Package
import TagSpec.Proofs.Files.Changing
import TagSpec.Proofs.Sorting

/-!
# The source files of a package

Which files a package reads: those in its directory with the name of a source file, but for the one
that is passed over. More directories in the tree, and a file put where it is passed over, change
none of them.
-/

namespace TagSpec

open Files

namespace Files.Tree

/-! ## Entries of a directory -/

/-- What an entry of a tree is to a directory that it stands in. -/
def child? (dir : Place) (e : Place × Entry) : Option (String × Entry) :=
  match e.1.getLast? with
  | some name => if e.1 = dir ++ [name] then some (name, e.2) else none
  | none => none

theorem child?_eq_some_iff {dir p : Place} {e v : Entry} {name : String} :
    child? dir (p, e) = some (name, v) ↔ p = dir ++ [name] ∧ e = v := by
  unfold child?
  constructor
  · intro h
    split at h
    · split at h
      · next hp =>
        cases h
        exact ⟨hp, rfl⟩
      · cases h
    · cases h
  · rintro ⟨rfl, rfl⟩
    simp

theorem children_eq (t : Tree) (dir : Place) :
    t.children dir = t.entries.filterMap (child? dir) := rfl

/-- The entries of a directory are all that stand in it by one more name. -/
theorem mem_children_iff {t : Tree} {dir : Place} {name : String} {e : Entry} :
    (name, e) ∈ t.children dir ↔ t.get? (dir ++ [name]) = some e := by
  rw [children_eq, List.mem_filterMap, get?_eq_some_iff (by simp)]
  constructor
  · rintro ⟨⟨p, v⟩, hmem, hchild⟩
    obtain ⟨rfl, rfl⟩ := child?_eq_some_iff.1 hchild
    exact hmem
  · intro hmem
    exact ⟨_, hmem, child?_eq_some_iff.2 ⟨rfl, rfl⟩⟩

theorem mem_sortedChildren_iff {t : Tree} {dir : Place} {name : String} {e : Entry} :
    (name, e) ∈ t.sortedChildren dir ↔ t.get? (dir ++ [name]) = some e := by
  rw [sortedChildren, List.mem_mergeSort, mem_children_iff]

/-- Entries are sorted in the same way before and after some are left out. -/
theorem filter_sortedChildren (t : Tree) (dir : Place) (keep : String × Entry → Bool) :
    (t.sortedChildren dir).filter keep =
      ((t.children dir).filter keep).mergeSort fun a b => decide (a.1 ≤ b.1) := by
  refine filter_mergeSort (fun a b c hab hbc => ?_) (fun a b => ?_) keep _
  · simp only [decide_eq_true_eq] at hab hbc ⊢
    exact String.le_trans hab hbc
  · simpa using String.le_total a.1 b.1

/-- What is put at a place makes no difference to the entries of a directory that stand elsewhere. -/
theorem filter_children_put (t : Tree) (w dir : Place) (e : Entry)
    (keep : String × Entry → Bool) (h : ∀ name v, dir ++ [name] = w → keep (name, v) = false) :
    ((t.put w e).children dir).filter keep = (t.children dir).filter keep := by
  have hnone : ∀ v, (child? dir (w, v)).filter keep = none := by
    intro v
    cases hc : child? dir (w, v) with
    | none => rfl
    | some c =>
      obtain ⟨name, v'⟩ := c
      obtain ⟨hw, -⟩ := child?_eq_some_iff.1 hc
      simp [Option.filter, h name v' hw.symm]
  rw [children_eq, children_eq, List.filter_filterMap, List.filter_filterMap]
  simp only [put, List.filterMap_cons, hnone, erase, List.filterMap_filter]
  refine List.filterMap_congr fun x hx => ?_
  obtain ⟨p, v⟩ := x
  by_cases hp : p = w
  · subst hp
    simp [hnone]
  · simp [hp]

/-- Making directories changes nothing in what else a directory holds. -/
theorem AddsDirectories.filter_children {t u : Tree} (h : AddsDirectories t u) (dir : Place)
    (keep : String × Entry → Bool) (hkeep : ∀ name, keep (name, .directory) = false) :
    (u.children dir).filter keep = (t.children dir).filter keep := by
  obtain ⟨-, made, hu, -⟩ := h
  rw [children_eq, children_eq, hu, List.filterMap_append, List.filter_append]
  suffices ((made.map (·, Entry.directory)).filterMap (child? dir)).filter keep = [] by
    rw [this, List.nil_append]
  rw [List.filter_eq_nil_iff]
  rintro ⟨name, v⟩ hmem
  obtain ⟨⟨p, e⟩, hp, hchild⟩ := List.mem_filterMap.1 hmem
  obtain ⟨q, -, hq⟩ := List.mem_map.1 hp
  cases hq
  obtain ⟨-, rfl⟩ := child?_eq_some_iff.1 hchild
  simp [hkeep name]

end Files.Tree

namespace Package

/-! ## Source files -/

/-- The source file that an entry of a directory is, if it is one. -/
def sourceAt? (path : String) : String × Files.Entry → Option SourceFile
  | (name, .file bytes) =>
    if isSourceName name then some ⟨name, Path.join path name, bytes⟩ else none
  | _ => none

/-- Whether an entry of a directory is a source file that is not passed over. -/
def isRead (dir : Place) (skipped : Option Place) (e : String × Files.Entry) : Bool :=
  (sourceAt? "" e).isSome && skipped ≠ some (dir ++ [e.1])

/-- The source files of a directory but for the one that is passed over. -/
def sourcesBut (t : Tree) (path : String) (dir : Place) (skipped : Option Place) :
    List SourceFile :=
  ((t.sortedChildren dir).filter (isRead dir skipped)).filterMap (sourceAt? path)

theorem result_filesAt (p : Package) (dir : Place) (es : List (String × Files.Entry)) :
    (p.filesAt dir es).result =
      .ok ((es.filter (isRead dir p.skipped)).filterMap (sourceAt? p.dir)) := by
  induction es with
  | nil => rfl
  | cons e es ih =>
    obtain ⟨name, e⟩ := e
    cases e with
    | directory => simpa [filesAt, isRead, sourceAt?] using ih
    | link target => simpa [filesAt, isRead, sourceAt?] using ih
    | file bytes =>
      rw [filesAt]
      by_cases hname : isSourceName name
      · by_cases hskip : p.skipped = some (dir ++ [name])
        · simp [isRead, sourceAt?, hname, hskip, ih, Except.bind]
        · simp [isRead, sourceAt?, hname, hskip, ih, Except.bind]
      · simp [isRead, sourceAt?, hname, ih]

/-- The source files of a directory are found if the directory is. -/
theorem result_sourceFiles (p : Package) (t : Tree) {dir : Place}
    (h : t.find p.dir = .ok (dir, .directory)) :
    (p.sourceFiles t).result = .ok (sourcesBut t p.dir dir p.skipped) := by
  rw [sourceFiles, h]
  exact result_filesAt p dir _

/-- Sources are read only from a directory. -/
theorem find_of_sourceFiles {p : Package} {t : Tree} {files : List SourceFile}
    (h : (p.sourceFiles t).result = .ok files) : ∃ dir, t.find p.dir = .ok (dir, .directory) := by
  unfold sourceFiles at h
  split at h
  · cases h
  · next dir hfind => exact ⟨dir, hfind⟩
  · cases h

/-- An entry is read if it is a file with the name of a source and is not passed over. -/
theorem isRead_iff {dir : Place} {skipped : Option Place} {name : String} {e : Files.Entry} :
    isRead dir skipped (name, e) = true ↔
      isSourceName name = true ∧ (∃ bytes, e = .file bytes) ∧ skipped ≠ some (dir ++ [name]) := by
  cases e with
  | directory => simp [isRead, sourceAt?]
  | link target => simp [isRead, sourceAt?]
  | file bytes => by_cases hname : isSourceName name <;> simp [isRead, sourceAt?, hname]

/-- The source files of a directory but one, told by their names, paths and bytes. -/
theorem mem_sourcesBut_iff {t : Tree} {path : String} {dir : Place} {skipped : Option Place}
    {f : SourceFile} :
    f ∈ sourcesBut t path dir skipped ↔
      isSourceName f.name = true ∧ f.path = Path.join path f.name ∧
        t.get? (dir ++ [f.name]) = some (.file f.bytes) ∧ skipped ≠ some (dir ++ [f.name]) := by
  rw [sourcesBut, List.mem_filterMap]
  constructor
  · rintro ⟨⟨name, e⟩, hmem, hsource⟩
    obtain ⟨hchild, hread⟩ := List.mem_filter.1 hmem
    obtain ⟨hname, ⟨bytes, rfl⟩, hskip⟩ := isRead_iff.1 hread
    rw [sourceAt?, if_pos hname] at hsource
    cases hsource
    exact ⟨hname, rfl, Tree.mem_sortedChildren_iff.1 hchild, hskip⟩
  · rintro ⟨hname, hpath, hget, hskip⟩
    refine ⟨(f.name, .file f.bytes), List.mem_filter.2 ⟨Tree.mem_sortedChildren_iff.2 hget, ?_⟩, ?_⟩
    · exact isRead_iff.2 ⟨hname, ⟨_, rfl⟩, hskip⟩
    · rw [sourceAt?, if_pos hname, ← hpath]

/-! ## The same files -/

/-- A place at which a source file stands in the directory of a path. -/
def IsSource (t : Tree) (path : String) (q : Place) : Prop :=
  ∃ dir name bytes, t.find path = .ok (dir, .directory) ∧ q = dir ++ [name] ∧
    isSourceName name = true ∧ t.get? q = some (.file bytes)

/-- Passing over one place or another makes no difference exactly if it makes none for any source
file. -/
theorem sourcesBut_eq_iff {t : Tree} {path : String} {dir : Place} {a b : Option Place}
    (hfind : t.find path = .ok (dir, .directory)) :
    sourcesBut t path dir a = sourcesBut t path dir b ↔
      ∀ q, IsSource t path q → (a = some q ↔ b = some q) := by
  constructor
  · rintro h q ⟨d, name, bytes, hd, rfl, hname, hget⟩
    rw [hfind] at hd
    cases hd
    have hmem : (⟨name, Path.join path name, bytes⟩ : SourceFile) ∈ sourcesBut t path dir a ↔
        ⟨name, Path.join path name, bytes⟩ ∈ sourcesBut t path dir b := by rw [h]
    rw [mem_sourcesBut_iff, mem_sourcesBut_iff] at hmem
    simpa [hname, hget, not_iff_not] using hmem
  · intro h
    rw [sourcesBut, sourcesBut]
    congr 1
    refine List.filter_congr fun c hc => ?_
    obtain ⟨name, e⟩ := c
    rw [Bool.eq_iff_iff, isRead_iff, isRead_iff]
    refine and_congr_right fun hname => and_congr_right ?_
    rintro ⟨bytes, rfl⟩
    have hq : IsSource t path (dir ++ [name]) :=
      ⟨dir, name, bytes, hfind, rfl, hname, Tree.mem_sortedChildren_iff.1 hc⟩
    exact not_congr (h _ hq)

/-- A file at the place that is passed over is not read. -/
theorem sourcesBut_put (t : Tree) (path : String) (dir w : Place) (e : Files.Entry) :
    sourcesBut (t.put w e) path dir (some w) = sourcesBut t path dir (some w) := by
  rw [sourcesBut, sourcesBut, Tree.filter_sortedChildren, Tree.filter_sortedChildren,
    Tree.filter_children_put]
  rintro name v rfl
  simp [isRead]

/-- Making directories makes no source files. -/
theorem sourcesBut_of_addsDirectories {t u : Tree} (h : Tree.AddsDirectories t u) (path : String)
    (dir : Place) (skipped : Option Place) :
    sourcesBut u path dir skipped = sourcesBut t path dir skipped := by
  rw [sourcesBut, sourcesBut, Tree.filter_sortedChildren, Tree.filter_sortedChildren,
    h.filter_children]
  intro name
  simp [isRead, sourceAt?]

end Package

end TagSpec
