import TagSpec.Output
import TagSpec.Proofs.Files.Walking
import TagSpec.Proofs.Text.Pieces

/-!
# A name in a directory

A path that does not end in a slash or in dots names something in a directory: `directoryOf` leads
to the directory in which the last name of the path is looked for.
-/

namespace TagSpec.Files

namespace Path

/-! ## Segments -/

theorem segments_ne_nil (path : String) : segments path ≠ [] := by
  simp [segments, textPieces, pieces_ne_nil]

/-- No segment of a path has a slash. -/
theorem slash_notMem_segment {path s : String} (h : s ∈ segments path) : '/' ∉ s.toList := by
  obtain ⟨p, hp, rfl⟩ := List.mem_map.1 h
  simpa using not_mem_of_mem_pieces hp

/-- Slashes between segments give the segments back. -/
theorem segments_intercalate {ss : List String} (h : ∀ s ∈ ss, '/' ∉ s.toList) (hss : ss ≠ []) :
    segments ("/".intercalate ss) = ss := by
  have hpieces : ∀ p ∈ ss.map String.toList, '/' ∉ p := by
    intro p hp
    obtain ⟨s, hs, rfl⟩ := List.mem_map.1 hp
    exact h s hs
  rw [segments, textPieces, String.toList_intercalate]
  rw [show "/".toList = ['/'] from rfl, pieces_intercalate hpieces (by simpa using hss)]
  simp

/-- A path is made of its segments with slashes between them. -/
theorem toList_eq_intercalate (path : String) :
    path.toList = ['/'].intercalate ((segments path).map String.toList) := by
  have hlists : (segments path).map String.toList = pieces '/' path.toList := by
    simp [segments, textPieces, Function.comp_def]
  rw [hlists, intercalate_pieces]

theorem endsInSlash_iff (path : String) : endsInSlash path = true ↔ ['/'] <:+ path.toList := by
  simp [endsInSlash, ← String.endsWith_toSlice]

theorem isAbsolute_iff (path : String) : isAbsolute path = true ↔ ['/'] <+: path.toList := by
  simp [isAbsolute]

/-- What `dropIdle` leaves out says nothing. -/
theorem exists_idle (ss : List String) :
    ∃ idle, ss = idle ++ dropIdle ss ∧ ∀ s ∈ idle, s = "" ∨ s = "." := by
  induction ss with
  | nil => exact ⟨[], rfl, by simp⟩
  | cons s ss ih =>
    rw [dropIdle]
    split
    · next hs =>
      obtain ⟨idle, hidle, hall⟩ := ih
      refine ⟨s :: idle, by rw [List.cons_append, ← hidle], ?_⟩
      intro r hr
      rcases List.mem_cons.1 hr with rfl | hr
      · simp only [isIdle, Bool.or_eq_true, Bool.and_eq_true, decide_eq_true_eq] at hs
        exact hs.imp id And.left
      · exact hall r hr
    · exact ⟨[], rfl, by simp⟩

/-- What is left begins with a segment that says something. -/
theorem ne_empty_of_dropIdle {s : String} {ss rest : List String} (h : dropIdle ss = s :: rest) :
    s ≠ "" := by
  induction ss with
  | nil => cases h
  | cons r ss ih =>
    rw [dropIdle] at h
    split at h
    · exact ih h
    · next hr =>
      cases h
      intro e
      simp [isIdle, e] at hr

/-- The last name of a path that does not end in a slash is its last segment. -/
theorem exists_segments {path name : String} {rest : List String}
    (h : (names path).reverse = name :: rest) (hslash : endsInSlash path = false) :
    ∃ ss, (segments path).reverse = name :: ss ∧ rest = ss.filter (· ≠ "") := by
  have hrev : (segments path).reverse ≠ [] := by simpa using segments_ne_nil path
  obtain ⟨s, ss, hs⟩ := List.exists_cons_of_ne_nil hrev
  have hnames : (s :: ss).filter (· ≠ "") = name :: rest := by
    rw [← h, names, ← hs, List.filter_reverse]
  have hne : s ≠ "" := by
    rintro rfl
    have hseg : segments path = ss.reverse ++ [""] := by
      rw [← List.reverse_reverse (segments path), hs]
      simp
    have htext := toList_eq_intercalate path
    rw [hseg, List.map_append, List.map_singleton] at htext
    by_cases hss : ss = []
    · subst hss
      simp at hnames
    · have hend : endsInSlash path = true := by
        rw [endsInSlash_iff, htext]
        exact suffix_of_empty_piece (by simpa using hss)
      simp [hend] at hslash
  rw [List.filter_cons_of_pos (by simpa using hne)] at hnames
  cases hnames
  exact ⟨ss, hs, rfl⟩

/-! ## The directory of a path -/

section Named

/-- A path whose last segment is a name, and not one that leads to a directory by itself. -/
structure Named (path name : String) (ss : List String) : Prop where
  segments : (Path.segments path).reverse = name :: ss
  ne_empty : name ≠ ""
  ne_dot : name ≠ "."
  ne_up : name ≠ ".."

variable {path name : String} {ss : List String} (h : Named path name ss)
include h

theorem Named.meaning : meaning path = name :: ss := by
  rw [Path.meaning, h.segments, dropIdle, if_neg]
  simp [isIdle, h.ne_empty, h.ne_dot]

theorem Named.fileName? : fileName? path = some name := by
  simp [Path.fileName?, h.meaning, h.ne_dot, h.ne_up]

/-- The segments of a path are those in front of its name, and the name. -/
theorem Named.segments_eq : Path.segments path = ss.reverse ++ [name] := by
  rw [← List.reverse_reverse (Path.segments path), h.segments, List.reverse_cons]

theorem Named.path_ne_empty : path ≠ "" := by
  rintro rfl
  have hseg := h.segments
  rw [show Path.segments "" = [""] by decide] at hseg
  cases hseg
  exact h.ne_empty rfl

theorem Named.names : (Path.names path).reverse = name :: ss.filter (· ≠ "") := by
  rw [Path.names, h.segments_eq]
  simp [h.ne_empty]

/-- The names of a path lead to the directory of its name, and then to the name. -/
theorem Named.names_eq : Path.names path = (ss.filter (· ≠ "")).reverse ++ [name] := by
  rw [← List.reverse_reverse (Path.names path), h.names, List.reverse_cons]

theorem Named.slash_notMem {s : String} (hs : s ∈ ss) : '/' ∉ s.toList := by
  have hseg : s ∈ Path.segments path := by
    rw [h.segments_eq]
    simp [hs]
  exact slash_notMem_segment hseg

/-- The segments of the directory, if there are any. -/
theorem Named.segments_kept (hkept : dropIdle ss ≠ []) :
    Path.segments ("/".intercalate (dropIdle ss).reverse) = (dropIdle ss).reverse := by
  obtain ⟨idle, hidle, -⟩ := exists_idle ss
  refine segments_intercalate (fun s hs => h.slash_notMem ?_) (by simpa using hkept)
  rw [hidle]
  exact List.mem_append_right _ (List.mem_reverse.1 hs)

theorem Named.intercalate_ne_empty (hkept : dropIdle ss ≠ []) :
    "/".intercalate (dropIdle ss).reverse ≠ "" := by
  intro e
  have hseg := h.segments_kept hkept
  rw [e, show Path.segments "" = [""] by decide] at hseg
  have hone : dropIdle ss = [""] := by
    rw [← List.reverse_reverse (dropIdle ss), ← hseg]
    rfl
  exact ne_empty_of_dropIdle hone rfl

/-- The three forms of the directory: the top, the working directory, and what stands before the
name without the segments at its end that say nothing. -/
theorem Named.directoryOf_cases :
    (Output.directoryOf path = "/" ∧ isAbsolute path = true ∧ dropIdle ss = []) ∨
      (Output.directoryOf path = "." ∧ isAbsolute path = false ∧ dropIdle ss = []) ∨
      (Output.directoryOf path = "/".intercalate (dropIdle ss).reverse ∧ dropIdle ss ≠ []) := by
  unfold Output.directoryOf parent?
  rw [h.meaning]
  by_cases hkept : dropIdle ss = []
  · cases habs : isAbsolute path with
    | true => simp [hkept]
    | false => simp [hkept, ofReversed, String.intercalate]
  · simp [hkept, h.intercalate_ne_empty hkept, ofReversed]

/-- The text of the directory begins the path, unless it is the dot that stands for no text. -/
theorem Named.directoryOf_begins :
    (Output.directoryOf path = "." ∧ isAbsolute path = false) ∨
      ((Output.directoryOf path).toList <+: path.toList ∧ Output.directoryOf path ≠ "") := by
  rcases h.directoryOf_cases with ⟨hd, habs, -⟩ | ⟨hd, habs, -⟩ | ⟨hd, hkept⟩
  · right
    rw [hd]
    exact ⟨(isAbsolute_iff path).1 habs, by decide⟩
  · exact .inl ⟨hd, habs⟩
  · right
    rw [hd]
    refine ⟨?_, h.intercalate_ne_empty hkept⟩
    obtain ⟨idle, hidle, -⟩ := exists_idle ss
    have hall : Path.segments path = (dropIdle ss).reverse ++ (idle.reverse ++ [name]) := by
      rw [h.segments_eq, ← List.append_assoc, ← List.reverse_append, ← hidle]
    rw [toList_eq_intercalate path, hall, String.toList_intercalate, List.map_append]
    exact intercalate_begins _ (by simpa using hkept) _

/-- A file and its directory are counted from the same place. -/
theorem Named.isAbsolute_directoryOf :
    isAbsolute (Output.directoryOf path) = isAbsolute path := by
  rcases h.directoryOf_begins with ⟨hd, habs⟩ | ⟨⟨tail, htail⟩, hne⟩
  · rw [hd, habs]
    simp [isAbsolute]
  · rw [Bool.eq_iff_iff, isAbsolute_iff, isAbsolute_iff, ← htail]
    obtain ⟨c, cs, hc⟩ := List.exists_cons_of_ne_nil
      (fun e => hne (String.toList_eq_nil_iff.1 e) : (Output.directoryOf path).toList ≠ [])
    simp [hc]

theorem Named.isBadPath_directoryOf (hbad : Tree.isBadPath path = false) :
    Tree.isBadPath (Output.directoryOf path) = false := by
  rcases h.directoryOf_begins with ⟨hd, -⟩ | ⟨hbegin, -⟩
  · rw [hd]
    decide
  · simp only [Tree.isBadPath, List.contains_eq_mem, decide_eq_false_iff_not] at hbad ⊢
    exact fun hm => hbad (hbegin.subset hm)

theorem Named.directoryOf_ne_empty : Output.directoryOf path ≠ "" := by
  rcases h.directoryOf_begins with ⟨hd, -⟩ | ⟨-, hne⟩
  · rw [hd]
    decide
  · exact hne

end Named

end Path

namespace Tree

/-! ## Arriving at the directory of a path -/

/-- Dots lead nowhere. -/
theorem arrive_dots (t : Tree) (links : Nat) (dir : Place) {ns : List String}
    (h : ∀ s ∈ ns, s = ".") : t.arrive links dir ns = .ok (links, dir) := by
  induction ns with
  | nil => rw [arrive]
  | cons n ns ih =>
    have hn : n = "." := h n List.mem_cons_self
    rw [arrive, hn]
    exact ih fun s hs => h s (List.mem_cons_of_mem _ hs)

/-- Segments that stand for a directory itself lead nowhere else. -/
theorem arrive_append_dots (t : Tree) (links : Nat) (dir : Place) (names : List String)
    {ns : List String} (h : ∀ s ∈ ns, s = ".") :
    t.arrive links dir (names ++ ns) = t.arrive links dir names := by
  rw [arrive_append]
  cases t.arrive links dir names with
  | error e => rfl
  | ok r => exact arrive_dots t r.1 r.2 h

/-- A path leads to a directory exactly if one arrives at it. -/
theorem find_directory_iff {t : Tree} {path : String} (hbad : isBadPath path = false)
    (hne : path ≠ "") {d : Place} :
    t.find path = .ok (d, .directory) ↔
      ∃ l, t.arrive linkLimit (t.start path) (linkNames path) = .ok (l, d) := by
  have hlocate : t.locate true path = t.walk true linkLimit (t.start path) (linkNames path) := by
    unfold locate linkNames
    rw [hbad, if_neg hne]
    rfl
  rw [← walk_eq_directory_iff, ← hlocate, find]
  cases t.locate true path with
  | error e => simp
  | ok spot => cases spot <;> simp

/-- A path that leads anywhere is one that may. -/
theorem isBadPath_of_find {t : Tree} {path : String} {r : Place × Entry} (h : t.find path = .ok r) :
    isBadPath path = false ∧ path ≠ "" := by
  unfold find locate at h
  by_cases hbad : isBadPath path = true
  · rw [if_pos hbad] at h
    cases h
  · rw [if_neg hbad] at h
    refine ⟨by simpa using hbad, fun hne => ?_⟩
    rw [if_pos hne] at h
    cases h

/-- A tree that grows keeps every directory where its path leads. -/
theorem Grows.find {t u : Tree} (h : Grows t u) {path : String} {d : Place}
    (hfind : t.find path = .ok (d, .directory)) : u.find path = .ok (d, .directory) := by
  obtain ⟨hbad, hne⟩ := isBadPath_of_find hfind
  obtain ⟨l, hl⟩ := (find_directory_iff hbad hne).1 hfind
  refine (find_directory_iff hbad hne).2 ⟨l, ?_⟩
  rw [show u.start path = t.start path by rw [start, start, h.home]]
  exact h.arrive hl

/-- A path leads to a directory if one is found there through all links. -/
theorem isDirectory_iff {t : Tree} {path : String} :
    t.isDirectory path = true ↔ ∃ d, t.find path = .ok (d, .directory) := by
  unfold isDirectory
  constructor
  · intro h
    split at h
    · next d hfind => exact ⟨d, hfind⟩
    · cases h
  · rintro ⟨d, hfind⟩
    rw [hfind]

/-- A directory is where it was after a file was put somewhere, or there is none at its path any
more and the file took the place of a directory or a link. -/
theorem find_put_file_cases {t : Tree} {w : Place} (hw : w ≠ []) (bytes : List UInt8)
    {path : String} {d : Place} (h : t.find path = .ok (d, .directory)) :
    (t.put w (.file bytes)).find path = .ok (d, .directory) ∨
      (t.put w (.file bytes)).isDirectory path = false ∧
        (t.get? w = some .directory ∨ ∃ target, t.get? w = some (.link target)) := by
  obtain ⟨hbad, hne⟩ := isBadPath_of_find h
  obtain ⟨l, hl⟩ := (find_directory_iff hbad hne).1 h
  rcases arrive_put_file hw bytes hl with hsame | ⟨hgone, hwas⟩
  · exact .inl ((find_directory_iff hbad hne).2 ⟨l, hsame⟩)
  · refine .inr ⟨?_, hwas⟩
    rw [← Bool.not_eq_true, isDirectory_iff]
    rintro ⟨d', hfind⟩
    obtain ⟨l', hl'⟩ := (find_directory_iff hbad hne).1 hfind
    exact absurd (hl'.symm.trans hgone) (by simp)

/-- A directory is where it was if there is still one at its path after a tree has grown and a file
was put somewhere. -/
theorem find_put_file {t u : Tree} (hgrows : Grows t u) {w : Place} (hw : w ≠ [])
    (bytes : List UInt8) {path : String} {d : Place} (h : t.find path = .ok (d, .directory))
    (hdir : (u.put w (.file bytes)).isDirectory path = true) :
    (u.put w (.file bytes)).find path = .ok (d, .directory) := by
  rcases find_put_file_cases hw bytes (hgrows.find h) with hsame | ⟨hgone, -⟩
  · exact hsame
  · rw [hgone] at hdir
    cases hdir

section Named

variable {path name : String} {ss : List String}

/-- The names on the way to the directory of a path. -/
def namesTo (ss : List String) : List String := (ss.filter (· ≠ "")).reverse

/-- The directory of a path is reached by the names in front of its last one. -/
theorem arrive_directoryOf (h : Path.Named path name ss) (t : Tree) (links : Nat) (dir : Place) :
    t.arrive links dir (Path.names (Output.directoryOf path)) =
      t.arrive links dir (namesTo ss) := by
  obtain ⟨idle, hidle, hall⟩ := Path.exists_idle ss
  have hdots : ∀ s ∈ (idle.filter (· ≠ "")).reverse, s = "." := by
    intro s hs
    have hs := List.mem_filter.1 (List.mem_reverse.1 hs)
    exact (hall s hs.1).resolve_left (by simpa using hs.2)
  have hnames : namesTo ss =
      ((Path.dropIdle ss).reverse.filter (· ≠ "")) ++ (idle.filter (· ≠ "")).reverse := by
    rw [namesTo, List.filter_reverse, ← List.reverse_append, ← List.filter_append, ← hidle]
  rw [hnames, arrive_append_dots _ _ _ _ hdots]
  rcases h.directoryOf_cases with ⟨hd, -, hkept⟩ | ⟨hd, -, hkept⟩ | ⟨hd, hkept⟩
  · rw [hd, hkept]
    rfl
  · rw [hd, hkept, show Path.names "." = ["."] by decide, arrive_dots _ _ _ (by simp)]
    simp [arrive]
  · rw [hd, Path.names, h.segments_kept hkept]

/-- The directory of a path is there exactly if one arrives at it. -/
theorem find_directoryOf_iff (h : Path.Named path name ss) {t : Tree}
    (hbad : isBadPath path = false) {d : Place} :
    t.find (Output.directoryOf path) = .ok (d, .directory) ↔
      ∃ l, t.arrive linkLimit (t.start path) (namesTo ss) = .ok (l, d) := by
  have hstart : t.start (Output.directoryOf path) = t.start path := by
    rw [start, start, h.isAbsolute_directoryOf]
  have hdots : ∀ s ∈ (if Path.endsInSlash (Output.directoryOf path) then ["."] else []),
      s = "." := by
    intro s hs
    split at hs
    · simpa using hs
    · cases hs
  rw [find_directory_iff (h.isBadPath_directoryOf hbad) h.directoryOf_ne_empty, hstart, linkNames,
    arrive_append_dots t _ _ _ hdots, arrive_directoryOf h]

/-- Such a path leads to the directory of its last name, and from there to what has that name. -/
theorem locate_eq (h : Path.Named path name ss) (t : Tree) (follow : Bool)
    (hbad : isBadPath path = false) (hslash : Path.endsInSlash path = false) :
    t.locate follow path =
      (t.arrive linkLimit (t.start path) (namesTo ss)).bind fun r =>
        t.walk follow r.1 r.2 [name] := by
  unfold locate
  rw [hbad, hslash, if_neg h.path_ne_empty, h.names_eq]
  simp only [Bool.false_eq_true, if_false, List.append_nil]
  rw [← namesTo, walk_append t follow (by simp)]

end Named

end Tree

end TagSpec.Files
