import Mathlib.Data.List.Forall2
import Mathlib.Data.List.Nodup
import TagSpec.Proofs.Package.Sources
import TagSpec.Proofs.Text.Utf8

/-!
# The structs of a package

Which structs a package declares, and what it fails with. Main statement: `structs_exact`, by which
the structs are those of all files that are considered, in the order of the names of the files, and
otherwise the first fault in that order is reported.
-/

namespace TagSpec.Package

open Files

/-! ## One file -/

/-- A struct and the place of its name. -/
abbrev Declaration := Location × Struct

def namesOf (ds : List Declaration) : List String := ds.map fun d => d.2.name

/-- The structs of a file at their places. -/
def placed (path : String) (located : List Source.Located) : List Declaration :=
  located.map fun l => (.inFile path l.position, l.struct)

/-- What a source file declares: nothing if it takes part in no build, and else the structs of its
text. -/
inductive Declares (f : SourceFile) : List Declaration → Prop
  | ignored {text : List Char} : Utf8.decode? f.bytes = some text →
      Source.isBuildIgnored text = true → Declares f []
  | parsed {text : List Char} {located : List Source.Located} :
      Utf8.decode? f.bytes = some text → Source.isBuildIgnored text = false →
      (structsAt f.path text).result = .ok located → Declares f (placed f.path located)

/-- Why it is not known what a source file declares: its bytes are no text, or the text is none that
structs can be read of. -/
inductive Fails (f : SourceFile) : Error → Prop
  | unreadable : Utf8.decode? f.bytes = none → Fails f (.files .readFile f.path .notText)
  | unparsed {text : List Char} {e : Error} :
      Utf8.decode? f.bytes = some text → Source.isBuildIgnored text = false →
      (structsAt f.path text).result = .error e → Fails f e

/-- The structs that are read of a file. -/
def SourceFile.located (f : SourceFile) : Except Error (List Source.Located) :=
  match Utf8.decode? f.bytes with
  | none => .error (.files .readFile f.path .notText)
  | some text => if Source.isBuildIgnored text then .ok [] else (structsAt f.path text).result

theorem declares_iff {f : SourceFile} {ds : List Declaration} :
    Declares f ds ↔ ∃ located, f.located = .ok located ∧ ds = placed f.path located := by
  unfold SourceFile.located
  constructor
  · rintro (⟨htext, hignored⟩ | ⟨htext, hbuilt, hstructs⟩)
    · exact ⟨[], by simp [htext, hignored], rfl⟩
    · exact ⟨_, by simp [htext, hbuilt, hstructs], rfl⟩
  · rintro ⟨located, h, rfl⟩
    split at h
    · cases h
    · next text htext =>
      split at h
      · next hignored =>
        cases h
        exact .ignored htext hignored
      · next hbuilt => exact .parsed htext (by simpa using hbuilt) h

theorem fails_iff {f : SourceFile} {e : Error} : Fails f e ↔ f.located = .error e := by
  unfold SourceFile.located
  constructor
  · rintro (htext | ⟨htext, hbuilt, hstructs⟩)
    · simp [htext]
    · simp [htext, hbuilt, hstructs]
  · intro h
    split at h
    · next htext =>
      cases h
      exact .unreadable htext
    · next text htext =>
      split at h
      · cases h
      · next hbuilt => exact .unparsed htext (by simpa using hbuilt) h

/-- One file after another. -/
theorem result_structsOf_cons (declared : Declared) (f : SourceFile) (fs : List SourceFile) :
    (structsOf declared (f :: fs)).result =
      f.located.bind fun located =>
        (declare f.path declared located).bind fun declared =>
          (structsOf declared fs).result.map (located.map Source.Located.struct ++ ·) := by
  rw [structsOf, Journal.result_bind]
  unfold SourceFile.read SourceFile.located
  cases Utf8.decode? f.bytes with
  | none => rfl
  | some text =>
    simp only
    split
    · simp only [Journal.result_bind, Journal.result_report, Except.bind, Journal.result_pure,
        declare, List.map_nil, List.nil_append]
      cases (structsOf declared fs).result <;> rfl
    · simp only [Journal.result_pure, Except.bind, Journal.result_bind, Journal.result_report,
        Journal.result_ofExcept]
      cases (structsAt f.path text).result with
      | error e => rfl
      | ok located =>
        simp only
        cases declare f.path declared located with
        | error e => rfl
        | ok declared =>
          simp only
          cases (structsOf declared fs).result <;> rfl

/-! ## Names that are declared before -/

/-- The names of structs as `declare` keeps them, the last one first. -/
def seen (ds : List Declaration) : Declared := (ds.map fun d => (d.2.name, d.1)).reverse

theorem seen_append_singleton (ds : List Declaration) (d : Declaration) :
    seen (ds ++ [d]) = (d.2.name, d.1) :: seen ds := by
  simp [seen]

/-- The names that are kept are those of the structs, each with its place. -/
theorem mem_seen {ds : List Declaration} {name : String} {place : Location} :
    (name, place) ∈ seen ds ↔ ∃ d ∈ ds, d.2.name = name ∧ d.1 = place := by
  simp [seen]

/-- A name that was declared once is found with its place. -/
theorem lookup_seen {ds : List Declaration} (h : (namesOf ds).Nodup) {name : String}
    {place : Location} :
    (seen ds).lookup name = some place ↔ ∃ d ∈ ds, d.2.name = name ∧ d.1 = place := by
  have hkeys : ((seen ds).map Prod.fst).Nodup := by
    rw [seen, List.map_reverse, List.nodup_reverse, List.map_map]
    exact h
  rw [Tree.lookup_eq_some_iff_mem hkeys, mem_seen]

theorem lookup_seen_eq_none_iff {ds : List Declaration} {name : String} :
    (seen ds).lookup name = none ↔ name ∉ namesOf ds := by
  rw [List.lookup_eq_none_iff, namesOf, List.mem_map]
  constructor
  · rintro h ⟨d, hd, rfl⟩
    simpa using h _ (mem_seen.2 ⟨d, hd, rfl, rfl⟩)
  · rintro h ⟨other, place⟩ hmem
    obtain ⟨d, hd, rfl, -⟩ := mem_seen.1 hmem
    rw [bne_iff_ne]
    exact fun heq => h ⟨d, hd, heq.symm⟩

theorem namesOf_append (ds es : List Declaration) :
    namesOf (ds ++ es) = namesOf ds ++ namesOf es := List.map_append

/-- One more struct keeps names different if its name is new. -/
theorem nodup_namesOf_append_singleton {ds : List Declaration} {d : Declaration} :
    (namesOf (ds ++ [d])).Nodup ↔ d.2.name ∉ namesOf ds ∧ (namesOf ds).Nodup := by
  rw [namesOf_append, List.nodup_append_comm]
  exact List.nodup_cons

/-- The first struct by a name that one before it has, and the error that is reported for it. -/
def Repeats (declared ds : List Declaration) (e : Error) : Prop :=
  ∃ before d after first, ds = before ++ d :: after ∧ (namesOf (declared ++ before)).Nodup ∧
    first ∈ declared ++ before ∧ first.2.name = d.2.name ∧
      e = .parse d.1 (.redeclared d.2.name first.1)

theorem not_repeats_nil {declared : List Declaration} {e : Error} : ¬Repeats declared [] e := by
  rintro ⟨before, d, after, first, h, -⟩
  cases before <;> cases h

/-- The first repeated name is that of the next struct, or it comes later. -/
theorem repeats_cons {declared ds : List Declaration} {d : Declaration} {e : Error}
    (hdeclared : (namesOf declared).Nodup) :
    Repeats declared (d :: ds) e ↔
      (∃ first ∈ declared, first.2.name = d.2.name ∧
        e = .parse d.1 (.redeclared d.2.name first.1)) ∨
      Repeats (declared ++ [d]) ds e := by
  constructor
  · rintro ⟨before, c, after, first, h, hnodup, hfirst, hname, he⟩
    cases before with
    | nil =>
      cases h
      exact .inl ⟨first, by simpa using hfirst, hname, he⟩
    | cons b before =>
      cases h
      exact .inr ⟨before, c, after, first, rfl, by simpa using hnodup, by simpa using hfirst,
        hname, he⟩
  · rintro (⟨first, hfirst, hname, he⟩ | ⟨before, c, after, first, rfl, hnodup, hfirst, hname, he⟩)
    · exact ⟨[], d, ds, first, rfl, by simpa using hdeclared, by simpa using hfirst, hname, he⟩
    · exact ⟨d :: before, c, after, first, rfl, by simpa using hnodup, by simpa using hfirst,
        hname, he⟩

/-- What repeats a name in front repeats it in the whole. -/
theorem Repeats.not_nodup {declared ds : List Declaration} {e : Error}
    (h : Repeats declared ds e) : ¬(namesOf (declared ++ ds)).Nodup := by
  obtain ⟨before, d, after, first, rfl, -, hfirst, hname, -⟩ := h
  rw [← List.append_assoc, namesOf_append, List.nodup_append]
  rintro ⟨-, -, hne⟩
  exact hne _ (List.mem_map_of_mem hfirst) _ (List.mem_map_of_mem List.mem_cons_self) hname

theorem Repeats.nodup {declared ds : List Declaration} {e : Error} (h : Repeats declared ds e) :
    (namesOf declared).Nodup := by
  obtain ⟨before, d, after, first, -, hnodup, -⟩ := h
  rw [namesOf_append, List.nodup_append] at hnodup
  exact hnodup.1

/-- Structs are added exactly if their names are different and new. -/
theorem declare_eq_ok_iff {path : String} {declared : List Declaration}
    {located : List Source.Located} {names : Declared} (hdeclared : (namesOf declared).Nodup) :
    declare path (seen declared) located = .ok names ↔
      (namesOf (declared ++ placed path located)).Nodup ∧
        names = seen (declared ++ placed path located) := by
  induction located generalizing declared with
  | nil => simp [declare, placed, hdeclared, eq_comm]
  | cons l located ih =>
    have hcons : declared ++ placed path (l :: located) =
        declared ++ [(.inFile path l.position, l.struct)] ++ placed path located := by
      simp [placed]
    rw [declare, hcons]
    cases hl : (seen declared).lookup l.struct.name with
    | none =>
      have hname := lookup_seen_eq_none_iff.1 hl
      have hmore : (namesOf (declared ++ [(.inFile path l.position, l.struct)])).Nodup :=
        nodup_namesOf_append_singleton.2 ⟨hname, hdeclared⟩
      simp only
      rw [← ih hmore, seen_append_singleton]
    | some place =>
      obtain ⟨first, hfirst, hname, -⟩ := (lookup_seen hdeclared).1 hl
      simp only [reduceCtorEq, false_iff, not_and]
      intro hnodup
      rw [namesOf_append, List.nodup_append] at hnodup
      refine absurd ?_ (nodup_namesOf_append_singleton.1 hnodup.1).1
      exact hname ▸ List.mem_map_of_mem hfirst

/-- What is refused is the first name that repeats one before it. -/
theorem declare_eq_error_iff {path : String} {declared : List Declaration}
    {located : List Source.Located} {e : Error} (hdeclared : (namesOf declared).Nodup) :
    declare path (seen declared) located = .error e ↔ Repeats declared (placed path located) e := by
  induction located generalizing declared with
  | nil => simpa [declare, placed] using not_repeats_nil
  | cons l located ih =>
    rw [declare, placed, List.map_cons, repeats_cons hdeclared]
    cases hl : (seen declared).lookup l.struct.name with
    | none =>
      have hname := lookup_seen_eq_none_iff.1 hl
      have hmore : (namesOf (declared ++ [(.inFile path l.position, l.struct)])).Nodup :=
        nodup_namesOf_append_singleton.2 ⟨hname, hdeclared⟩
      simp only
      rw [← placed, ← ih hmore, seen_append_singleton]
      refine (or_iff_right ?_).symm
      rintro ⟨first, hfirst, heq, -⟩
      exact hname (heq ▸ List.mem_map_of_mem hfirst)
    | some place =>
      obtain ⟨first, hfirst, hname, rfl⟩ := (lookup_seen hdeclared).1 hl
      simp only [Except.error.injEq]
      constructor
      · rintro rfl
        exact .inl ⟨first, hfirst, hname, rfl⟩
      · rintro (⟨other, hother, hsame, rfl⟩ | hrepeats)
        · rw [(lookup_seen hdeclared).2 ⟨other, hother, hsame, rfl⟩] at hl
          rw [Option.some.inj hl]
        · refine absurd ?_ (nodup_namesOf_append_singleton.1 hrepeats.nodup).1
          exact hname ▸ List.mem_map_of_mem hfirst

/-! ## One file after another -/

/-- The first fault of files in order, and the error that is reported for it: it is not known what a
file declares, or a file repeats a name. Nothing is wrong with the files in front of it. -/
inductive FirstFault (declared : List Declaration) : List SourceFile → Error → Prop
  | file {before : List SourceFile} {found : List (List Declaration)} {f : SourceFile}
      {after : List SourceFile} {e : Error} : List.Forall₂ Declares before found →
      (namesOf (declared ++ found.flatten)).Nodup → Fails f e →
      FirstFault declared (before ++ f :: after) e
  | name {before : List SourceFile} {found : List (List Declaration)} {f : SourceFile}
      {after : List SourceFile} {ds : List Declaration} {e : Error} :
      List.Forall₂ Declares before found → Declares f ds →
      Repeats (declared ++ found.flatten) ds e → FirstFault declared (before ++ f :: after) e

theorem not_firstFault_nil {declared : List Declaration} {e : Error} :
    ¬FirstFault declared [] e := by
  generalize hfs : ([] : List SourceFile) = fs
  rintro (⟨_, _, _⟩ | ⟨_, _, _⟩) <;> simp at hfs

/-- The first fault of files is in the first of them, or behind it. -/
theorem firstFault_cons {declared : List Declaration} {f : SourceFile} {fs : List SourceFile}
    {e : Error} (hdeclared : (namesOf declared).Nodup) :
    FirstFault declared (f :: fs) e ↔
      Fails f e ∨ ∃ ds, Declares f ds ∧
        (Repeats declared ds e ∨
          (namesOf (declared ++ ds)).Nodup ∧ FirstFault (declared ++ ds) fs e) := by
  constructor
  · generalize hfs : f :: fs = all
    rintro (⟨hfound, hnodup, hfails⟩ | ⟨hfound, hdeclares, hrepeats⟩)
    · cases hfound with
      | nil =>
        cases hfs
        exact .inl hfails
      | cons hfirst hfound =>
        cases hfs
        rw [List.flatten_cons, ← List.append_assoc] at hnodup
        have hthis := hnodup
        rw [namesOf_append, List.nodup_append] at hthis
        exact .inr ⟨_, hfirst, .inr ⟨hthis.1, .file hfound hnodup hfails⟩⟩
    · cases hfound with
      | nil =>
        cases hfs
        exact .inr ⟨_, hdeclares, .inl (by simpa using hrepeats)⟩
      | cons hfirst hfound =>
        cases hfs
        rw [List.flatten_cons, ← List.append_assoc] at hrepeats
        have hthis := hrepeats.nodup
        rw [namesOf_append, List.nodup_append] at hthis
        exact .inr ⟨_, hfirst, .inr ⟨hthis.1, .name hfound hdeclares hrepeats⟩⟩
  · rintro (hfails | ⟨ds, hds, hrepeats | ⟨-, hfault⟩⟩)
    · rw [← List.nil_append (f :: fs)]
      exact .file .nil (by simpa using hdeclared) hfails
    · rw [← List.nil_append (f :: fs)]
      exact .name .nil hds (by simpa using hrepeats)
    · cases hfault with
      | file hfound hnodup hfails =>
        rw [← List.cons_append]
        exact .file (.cons hds hfound) (by simpa using hnodup) hfails
      | name hfound hdeclares hrepeats =>
        rw [← List.cons_append]
        exact .name (.cons hds hfound) hdeclares (by simpa using hrepeats)

/-- The structs of files are those of each file, in order, if all their names are different. -/
theorem structsOf_eq_ok_iff {declared : List Declaration} {fs : List SourceFile}
    {list : List Struct} (hdeclared : (namesOf declared).Nodup) :
    (structsOf (seen declared) fs).result = .ok list ↔
      ∃ found, List.Forall₂ Declares fs found ∧
        (namesOf (declared ++ found.flatten)).Nodup ∧ list = found.flatten.map Prod.snd := by
  induction fs generalizing declared list with
  | nil => simp [structsOf, hdeclared, eq_comm]
  | cons f fs ih =>
    rw [result_structsOf_cons]
    simp only [List.forall₂_cons_left_iff, declares_iff]
    cases f.located with
    | error e => simp [Except.bind]
    | ok located =>
      simp only [Except.bind]
      cases hnames : declare f.path (seen declared) located with
      | error e =>
        have hnot := ((declare_eq_error_iff hdeclared).1 hnames).not_nodup
        simp only [reduceCtorEq, false_iff]
        rintro ⟨_, ⟨_, found, ⟨_, hl, rfl⟩, -, rfl⟩, hnodup, -⟩
        cases hl
        rw [List.flatten_cons, ← List.append_assoc, namesOf_append, List.nodup_append] at hnodup
        exact hnot hnodup.1
      | ok names =>
        obtain ⟨hmore, rfl⟩ := (declare_eq_ok_iff hdeclared).1 hnames
        simp only [map_eq_ok_iff, ih hmore]
        constructor
        · rintro ⟨rest, ⟨found, hfound, hnodup, rfl⟩, rfl⟩
          refine ⟨_, ⟨_, found, ⟨located, rfl, rfl⟩, hfound, rfl⟩, by simpa using hnodup, ?_⟩
          simp [placed]
        · rintro ⟨_, ⟨_, found, ⟨_, hl, rfl⟩, hfound, rfl⟩, hnodup, rfl⟩
          cases hl
          refine ⟨_, ⟨found, hfound, by simpa using hnodup, rfl⟩, ?_⟩
          simp [placed]

/-- The structs of files are refused for the first fault, with the error for it. -/
theorem structsOf_eq_error_iff {declared : List Declaration} {fs : List SourceFile} {e : Error}
    (hdeclared : (namesOf declared).Nodup) :
    (structsOf (seen declared) fs).result = .error e ↔ FirstFault declared fs e := by
  induction fs generalizing declared with
  | nil => simpa [structsOf] using not_firstFault_nil
  | cons f fs ih =>
    rw [result_structsOf_cons, firstFault_cons hdeclared, fails_iff]
    simp only [declares_iff]
    cases f.located with
    | error e' => simp [Except.bind]
    | ok located =>
      have hone {P : List Declaration → Prop} :
          (∃ ds, (∃ l, (.ok located : Except Error _) = .ok l ∧ ds = placed f.path l) ∧ P ds) ↔
            P (placed f.path located) := by
        simp
      rw [hone]
      simp only [Except.bind, reduceCtorEq, false_or]
      cases hnames : declare f.path (seen declared) located with
      | error e' =>
        have hnot := ((declare_eq_error_iff hdeclared).1 hnames).not_nodup
        rw [← declare_eq_error_iff hdeclared, hnames]
        simp [hnot]
      | ok names =>
        obtain ⟨hmore, rfl⟩ := (declare_eq_ok_iff hdeclared).1 hnames
        have hnot : ¬Repeats declared (placed f.path located) e := fun h => h.not_nodup hmore
        simp only [map_eq_error_iff, ih hmore, hnot, hmore, false_or, true_and]

/-! ## The files of a directory -/

/-- A file whose structs are asked for: it stands in the directory, its name is that of a source file
that is not for tests and is matched by a glob if there is any, and it is not passed over. -/
structure IsConsidered (p : Package) (t : Tree) (dir : Place) (f : SourceFile) : Prop where
  stands : t.get? (dir ++ [f.name]) = some (.file f.bytes)
  path : f.path = Path.join p.dir f.name
  go : ".go".toList <:+ f.name.toList
  notTest : ¬"_test.go".toList <:+ f.name.toList
  wanted : p.files = [] ∨ ∃ g ∈ p.files, Glob.isMatch g f.name.toList = true
  kept : p.skipped ≠ some (dir ++ [f.name])

/-- The names of sources end in `.go`, and not in `_test.go`. -/
theorem isSourceName_iff {name : String} :
    isSourceName name = true ↔ ".go".toList <:+ name.toList ∧ ¬"_test.go".toList <:+ name.toList := by
  simp [isSourceName, ← Bool.not_eq_true]

/-- A file is wanted if some glob matches its name, or if there are no globs. -/
theorem isWanted_iff {p : Package} {f : SourceFile} :
    p.isWanted f = true ↔ p.files = [] ∨ ∃ g ∈ p.files, Glob.isMatch g f.name.toList = true := by
  simp [isWanted]

/-- The files whose structs are asked for. -/
def consideredIn (p : Package) (t : Tree) (dir : Place) : List SourceFile :=
  (sourcesBut t p.dir dir p.skipped).filter p.isWanted

/-- The files that are considered are those whose structs are asked for. -/
theorem mem_consideredIn_iff {p : Package} {t : Tree} {dir : Place} {f : SourceFile} :
    f ∈ p.consideredIn t dir ↔ IsConsidered p t dir f := by
  rw [consideredIn, List.mem_filter, mem_sourcesBut_iff, isWanted_iff, isSourceName_iff]
  constructor
  · rintro ⟨⟨⟨hgo, htest⟩, hpath, hget, hskip⟩, hwanted⟩
    exact ⟨hget, hpath, hgo, htest, hwanted, hskip⟩
  · rintro ⟨hget, hpath, hgo, htest, hwanted, hskip⟩
    exact ⟨⟨⟨hgo, htest⟩, hpath, hget, hskip⟩, hwanted⟩

/-- No name stands twice in a directory. -/
theorem nodup_children (t : Tree) (dir : Place) : ((t.children dir).map Prod.fst).Nodup := by
  rw [Tree.children_eq, List.Nodup, List.pairwise_map, List.pairwise_filterMap]
  refine (List.pairwise_map.1 t.nodup).imp ?_
  rintro ⟨p, e⟩ ⟨q, v⟩ hne ⟨a, _⟩ ha ⟨b, _⟩ hb rfl
  obtain ⟨rfl, -⟩ := Tree.child?_eq_some_iff.1 ha
  obtain ⟨rfl, -⟩ := Tree.child?_eq_some_iff.1 hb
  exact hne rfl

/-- The names in a directory are in the order of their bytes. -/
theorem pairwise_sortedChildren (t : Tree) (dir : Place) :
    (t.sortedChildren dir).Pairwise fun a b =>
      Utf8.encode a.1.toList < Utf8.encode b.1.toList := by
  have hle : (t.sortedChildren dir).Pairwise fun a b => decide (a.1 ≤ b.1) = true := by
    refine List.pairwise_mergeSort (fun a b c hab hbc => ?_) (fun a b => ?_) _
    · simp only [decide_eq_true_eq] at hab hbc ⊢
      exact String.le_trans hab hbc
    · simpa using String.le_total a.1 b.1
  have hne : (t.sortedChildren dir).Pairwise fun a b => a.1 ≠ b.1 := by
    refine List.pairwise_map.1 ?_
    exact (((List.mergeSort_perm _ _).map Prod.fst).nodup_iff).2 (nodup_children t dir)
  refine (hle.and hne).imp ?_
  rintro a b ⟨hab, hne⟩
  refine Utf8.encode_lt_encode (String.lt_iff.1 ?_)
  by_contra hba
  exact hne (String.le_antisymm (of_decide_eq_true hab) hba)

theorem name_of_sourceAt? {path : String} {c : String × Files.Entry} {f : SourceFile}
    (h : sourceAt? path c = some f) : f.name = c.1 := by
  unfold sourceAt? at h
  split at h
  · split at h
    · cases h
      rfl
    · cases h
  · cases h

/-- Files are considered in the order of the bytes of their names. -/
theorem pairwise_consideredIn (p : Package) (t : Tree) (dir : Place) :
    (p.consideredIn t dir).Pairwise fun f g =>
      Utf8.encode f.name.toList < Utf8.encode g.name.toList := by
  refine List.Pairwise.filter _ ?_
  rw [sourcesBut, List.pairwise_filterMap]
  refine ((pairwise_sortedChildren t dir).filter _).imp ?_
  rintro a b hab f hf g hg
  rw [name_of_sourceAt? hf, name_of_sourceAt? hg]
  exact hab

/-! ## All structs -/

/-- The structs of a package are those of the files that are considered. -/
theorem result_structs (p : Package) {t : Tree} {dir : Place}
    (h : t.find p.dir = .ok (dir, .directory)) :
    (p.structs t).result = (structsOf (seen []) (p.consideredIn t dir)).result := by
  have htail (n : Nat) : (do
      let structs ← structsOf [] (p.consideredIn t dir)
      Journal.report (extracted p.dir n structs.length)
      pure structs : Journal Error (List Struct)).result =
        (structsOf (seen []) (p.consideredIn t dir)).result := by
    simp only [Journal.result_bind, Journal.result_report, Journal.result_pure, Except.bind]
    show _ = (structsOf [] (p.consideredIn t dir)).result
    cases (structsOf [] (p.consideredIn t dir)).result <;> rfl
  unfold structs
  rw [Journal.result_bind, result_sourceFiles p t h]
  simp only [Except.bind]
  split
  · rw [Journal.result_bind]
    exact htail _
  · exact htail _

/-- The structs of a package are those that its files declare, in the order of the names of the files
and without loss or repetition, if it is known what each file declares and all names of structs are
different; and otherwise the first fault is reported. -/
theorem structs_exact (p : Package) (t : Tree) {dir : Place}
    (h : t.find p.dir = .ok (dir, .directory)) :
    ∃ files : List SourceFile,
      (files.Pairwise fun f g => Utf8.encode f.name.toList < Utf8.encode g.name.toList) ∧
      (∀ f, f ∈ files ↔ IsConsidered p t dir f) ∧
      (∀ list, (p.structs t).result = .ok list ↔
        ∃ found, List.Forall₂ Declares files found ∧ (namesOf found.flatten).Nodup ∧
          list = found.flatten.map Prod.snd) ∧
      ∀ e, (p.structs t).result = .error e ↔ FirstFault [] files e := by
  have hnone : (namesOf []).Nodup := List.nodup_nil
  refine ⟨p.consideredIn t dir, pairwise_consideredIn p t dir, fun f => mem_consideredIn_iff,
    fun list => ?_, fun e => ?_⟩
  · rw [result_structs p h]
    simpa using structsOf_eq_ok_iff hnone
  · rw [result_structs p h]
    exact structsOf_eq_error_iff hnone

/-- A directory with a file that declares a struct by the name of one inside a function. -/
def redeclaring : Tree :=
  (Tree.empty.put ["src"] .directory).put ["src", "a.go"]
    (.file (Utf8.encode
      "package a\nfunc f() \x7b type T struct \x7b\x7d \x7d\ntype T struct \x7b\x7d\n".toList))

/-- The place and the fault of an error in a source. -/
def sourceFault? {α : Type} (r : Except Error α) : Option (Location × SourceFault) :=
  match r with
  | .error (.parse location fault) => some (location, fault)
  | _ => none

theorem eq_error_of_sourceFault? {α : Type} {r : Except Error α} {location : Location}
    {fault : SourceFault} (h : sourceFault? r = some (location, fault)) :
    r = .error (.parse location fault) := by
  unfold sourceFault? at h
  split at h
  · cases h
    rfl
  · cases h

/-- A struct that has the name of one inside a function is reported at its own place, together with
the place of that one. -/
theorem structs_exact_redeclaring :
    redeclaring.find "src" = .ok (["src"], .directory) ∧
      ∃ files : List SourceFile,
        (∀ f, f ∈ files ↔ IsConsidered ⟨"src", [], none⟩ redeclaring ["src"] f) ∧
        FirstFault [] files (.parse (.inFile "src/a.go" ⟨3, 6⟩)
          (.redeclared "T" (.inFile "src/a.go" ⟨2, 17⟩))) := by
  have hfind : redeclaring.find "src" = .ok (["src"], .directory) := by decide +kernel
  have hfault : sourceFault? (Package.structs ⟨"src", [], none⟩ redeclaring).result =
      some (.inFile "src/a.go" ⟨3, 6⟩, .redeclared "T" (.inFile "src/a.go" ⟨2, 17⟩)) := by
    decide +kernel
  obtain ⟨files, -, hfiles, -, herror⟩ := structs_exact ⟨"src", [], none⟩ redeclaring hfind
  exact ⟨hfind, files, hfiles, (herror _).1 (eq_error_of_sourceFault? hfault)⟩

end TagSpec.Package
