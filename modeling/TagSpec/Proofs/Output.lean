import TagSpec.Proofs.Files.Changing

/-!
# What writing a file does

A file that was written stands in a directory that was there or was made, in place of whatever had
its name. Writing it once more changes nothing, if its path still leads there.
-/

namespace TagSpec.Output

open Files Files.Tree

variable {t u : Tree} {path name : String} {dir : Place} {ss : List String}

theorem emit_file (t : Tree) (text path : String) (s : Surroundings) :
    emit t text (.file path) s = writeFile t path (Utf8.encode text.toList) s := rfl

/-- Where a file is written: `name` in the directory `dir` of the tree `u`, in which directories were
made if they were missing. -/
structure Landed (t : Tree) (path : String) (u : Tree) (dir : Place) (name : String)
    (ss : List String) : Prop where
  named : Path.Named path name ss
  good : isBadPath path = false
  open_end : Path.endsInSlash path = false
  short : ¬ nameLimit < Utf8.byteLength name.toList
  kept : t.has (directoryOf path) = true → u = t
  makes : MakesPath t u (directoryOf path)
  arrives : ∃ l, u.arrive linkLimit (u.start path) (namesTo ss) = .ok (l, dir)
  free : u.get? (dir ++ [name]) ≠ some .directory

section Surroundings

variable (s : Surroundings)

/-- A temporary file stands in the directory of a path, where nothing stood. -/
theorem exists_of_createTemporary {directory : String} {temporary : Place}
    (h : createTemporary s t directory = .ok (u, temporary)) :
    ∃ place, t.find directory = .ok (place, .directory) ∧ t.get? temporary = none ∧
      u = t.put temporary (.file []) := by
  unfold createTemporary at h
  cases hfind : t.find directory with
  | error e =>
    rw [hfind] at h
    cases h
  | ok r =>
    obtain ⟨place, e⟩ := r
    rw [hfind] at h
    simp only [bind, Except.bind] at h
    split at h
    · next he =>
      cases he
      split at h
      · cases h
      · cases h
        exact ⟨place, rfl, s.unused t place, rfl⟩
    · cases h

/-- Filling a temporary file changes nothing but that file. -/
theorem tree_of_fillTemporary {temporary : Place} {bytes : List UInt8} {v : Tree}
    (h : fillTemporary s u temporary path bytes = .ok v) : v = u.put temporary (.file bytes) := by
  unfold fillTemporary at h
  cases hpermit : s.permit .writeTemporary path with
  | error e =>
    rw [hpermit] at h
    cases h
  | ok _ =>
    rw [hpermit] at h
    cases h
    rfl

theorem rename_of_persist {temporary : Place} {v : Tree}
    (h : persist s u temporary path = .ok v) : u.rename temporary path = .ok v := by
  unfold persist at h
  cases hpermit : s.permit .writeFile path with
  | error e =>
    rw [hpermit] at h
    cases h
  | ok _ =>
    rw [hpermit] at h
    exact h

/-- Where a file could not be replaced, the files are as they were. -/
theorem tree_replace_of_error {bytes : List UInt8} {e : Error}
    (h : (replace s t path bytes).journal.result = .error e) : (replace s t path bytes).tree = t := by
  unfold replace at h ⊢
  simp only at h ⊢
  cases hcreate : createTemporary s t (directoryOf path) with
  | error e => rfl
  | ok r =>
    obtain ⟨created, temporary⟩ := r
    obtain ⟨-, -, hnone, rfl⟩ := exists_of_createTemporary s hcreate
    rw [hcreate] at h
    simp only at h ⊢
    cases hfill : fillTemporary s (t.put temporary (.file [])) temporary path bytes with
    | error e => exact erase_put hnone _
    | ok filled =>
      have hfilled := tree_of_fillTemporary s hfill
      rw [put_put] at hfilled
      subst hfilled
      rw [hfill] at h
      simp only at h ⊢
      cases hpersist : persist s (t.put temporary (.file bytes)) temporary path with
      | error e => exact erase_put hnone _
      | ok v =>
        rw [hpersist] at h
        cases h

/-- A file that was replaced is in the directory of its path. -/
theorem exists_of_replace {bytes : List UInt8}
    (h : (replace s t path bytes).journal.result = .ok ()) :
    ∃ name ss l dir, Path.Named path name ss ∧ isBadPath path = false ∧
      Path.endsInSlash path = false ∧ ¬ nameLimit < Utf8.byteLength name.toList ∧
      t.arrive linkLimit (t.start path) (namesTo ss) = .ok (l, dir) ∧
      t.get? (dir ++ [name]) ≠ some .directory ∧
      (replace s t path bytes).tree = t.put (dir ++ [name]) (.file bytes) := by
  unfold replace at h ⊢
  simp only at h ⊢
  cases hcreate : createTemporary s t (directoryOf path) with
  | error e =>
    rw [hcreate] at h
    cases h
  | ok r =>
    obtain ⟨created, temporary⟩ := r
    obtain ⟨-, -, hnone, rfl⟩ := exists_of_createTemporary s hcreate
    rw [hcreate] at h
    simp only at h ⊢
    cases hfill : fillTemporary s (t.put temporary (.file [])) temporary path bytes with
    | error e =>
      rw [hfill] at h
      cases h
    | ok filled =>
      have hfilled := tree_of_fillTemporary s hfill
      rw [put_put] at hfilled
      subst hfilled
      rw [hfill] at h
      simp only at h ⊢
      cases hpersist : persist s (t.put temporary (.file bytes)) temporary path with
      | error e =>
        rw [hpersist] at h
        cases h
      | ok v =>
        have hne : temporary ≠ [] := by
          rintro rfl
          cases hnone
        obtain ⟨name, ss, l, dir, e, hnamed, hbad, hslash, hshort, harrive, hsource, hfree, rfl⟩ :=
          exists_of_rename (rename_of_persist s hpersist)
        rw [get?_put_self t hne] at hsource
        cases hsource
        refine ⟨name, ss, l, dir, hnamed, hbad, hslash, hshort, arrive_of_put_file hne harrive,
          fun hdir => hfree ((grows_put hnone _).get? hdir), by rw [erase_put hnone]⟩

/-- Directories are made on the way to the file only. -/
theorem makesPath_prepareDirectory (t : Tree) (directory : String) :
    MakesPath t (prepareDirectory s t directory).tree directory := by
  unfold prepareDirectory
  split
  · exact .refl t directory
  · refine makesPath_makePath (fun {t u path} h => ?_) t directory
    cases hpermit : s.permit .createDirectory path with
    | error e =>
      rw [hpermit] at h
      cases h
    | ok _ =>
      rw [hpermit] at h
      exact h

/-- A file that was written has landed somewhere. -/
theorem exists_landed {bytes : List UInt8}
    (h : (writeFile t path bytes s).journal.result = .ok ()) :
    ∃ u dir name ss, Landed t path u dir name ss ∧
      (writeFile t path bytes s).tree = u.put (dir ++ [name]) (.file bytes) := by
  unfold writeFile at h ⊢
  have hkept : t.has (directoryOf path) = true →
      (prepareDirectory s t (directoryOf path)).tree = t := by
    intro hhas
    rw [prepareDirectory, if_pos hhas]
  have hmakes := makesPath_prepareDirectory s t (directoryOf path)
  generalize prepareDirectory s t (directoryOf path) = prepared at h hkept hmakes ⊢
  simp only at h ⊢
  cases hprep : prepared.journal.result with
  | error e =>
    rw [hprep] at h
    simp [hprep] at h
  | ok _ =>
    rw [hprep] at h
    simp only [Journal.result_bind, hprep, Except.bind] at h ⊢
    obtain ⟨name, ss, l, dir, hnamed, hbad, hslash, hshort, harrive, hfree, hput⟩ :=
      exists_of_replace s h
    exact ⟨prepared.tree, dir, name, ss,
      ⟨hnamed, hbad, hslash, hshort, hkept, hmakes, ⟨l, harrive⟩, hfree⟩, hput⟩

/-- Where a file could not be written, at most directories around it were made. -/
theorem makesPath_of_error {bytes : List UInt8} {e : Error}
    (h : (writeFile t path bytes s).journal.result = .error e) :
    MakesPath t (writeFile t path bytes s).tree (directoryOf path) := by
  unfold writeFile at h ⊢
  have hmakes := makesPath_prepareDirectory s t (directoryOf path)
  generalize prepareDirectory s t (directoryOf path) = prepared at h hmakes ⊢
  simp only at h ⊢
  cases hprep : prepared.journal.result with
  | error e => exact hmakes
  | ok _ =>
    rw [hprep] at h
    simp only [Journal.result_bind, hprep, Except.bind] at h ⊢
    rw [tree_replace_of_error s h]
    exact hmakes

theorem printed_writeFile (bytes : List UInt8) : (writeFile t path bytes s).printed = [] := by
  unfold writeFile
  simp only
  split
  · unfold prepareDirectory
    split <;> rfl
  · rfl

end Surroundings

/-- A file is written if its directory is there and no other directory has its name. -/
theorem writeFile_of_arrive (bytes : List UInt8) {l : Nat} (hnamed : Path.Named path name ss)
    (hbad : isBadPath path = false) (hslash : Path.endsInSlash path = false)
    (hshort : ¬ nameLimit < Utf8.byteLength name.toList)
    (harrive : t.arrive linkLimit (t.start path) (namesTo ss) = .ok (l, dir))
    (hfree : t.get? (dir ++ [name]) ≠ some .directory) :
    (writeFile t path bytes).journal.result = .ok () ∧
      (writeFile t path bytes).tree = t.put (dir ++ [name]) (.file bytes) := by
  have hfind := (find_directoryOf_iff hnamed hbad).2 ⟨l, harrive⟩
  have hhas : t.has (directoryOf path) = true := by
    rw [has, hfind]
    rfl
  have hprep : prepareDirectory .plain t (directoryOf path) = ⟨t, [], pure ()⟩ := by
    rw [prepareDirectory, if_pos hhas]
  obtain ⟨temporary, hnone, hcreate⟩ : ∃ temporary, t.get? temporary = none ∧
      createTemporary .plain t (directoryOf path) = .ok (t.put temporary (.file []), temporary) := by
    refine ⟨_, Surroundings.get?_longName t dir, ?_⟩
    unfold createTemporary
    rw [hfind]
    rfl
  have hne : temporary ≠ [] := by
    rintro rfl
    cases hnone
  have hfill : fillTemporary .plain (t.put temporary (.file [])) temporary path bytes =
      .ok (t.put temporary (.file bytes)) := by
    show Except.ok ((t.put temporary (.file [])).put temporary (.file bytes)) = _
    rw [put_put]
  have hpersist : persist .plain (t.put temporary (.file bytes)) temporary path =
      .ok (t.put (dir ++ [name]) (.file bytes)) := by
    have hgrows := grows_put hnone (.file bytes)
    have hfree : (t.put temporary (.file bytes)).get? (dir ++ [name]) ≠ some .directory := by
      rw [get?_put t hne]
      split
      · simp
      · exact hfree
    have hrename := rename_of_arrive hnamed hbad hslash hshort (hgrows.arrive harrive)
      (get?_put_self t hne _) hfree
    rw [erase_put hnone] at hrename
    exact hrename
  have hreplaced : replace .plain t path bytes =
      ⟨t.put (dir ++ [name]) (.file bytes), [], .report (wroteFile path bytes.length)⟩ := by
    unfold replace
    simp only [hcreate, hfill, hpersist]
  unfold writeFile
  rw [hprep]
  simp only [Journal.result_pure]
  rw [hreplaced]
  exact ⟨rfl, rfl⟩

namespace Landed

variable (L : Landed t path u dir name ss)
include L

/-- Where a file lands, its directory can be found. -/
theorem find_directoryOf : u.find (directoryOf path) = .ok (dir, .directory) :=
  (find_directoryOf_iff L.named L.good).2 L.arrives

omit L in
/-- No directories were made if the tree is the same but for the file that was put. -/
theorem eq_of_put (L : Landed t path u dir name ss) {e : Files.Entry}
    (h : u.put (dir ++ [name]) e = t) : u = t := by
  obtain ⟨hhome, made, hu, hmade⟩ := L.makes.adds
  suffices hnone : made = [] by
    subst hnone
    exact Tree.ext hu hhome
  rw [List.eq_nil_iff_forall_not_mem]
  intro p hp
  have hnone := hmade p hp
  have hne : p ≠ [] := by
    rintro rfl
    cases hnone
  have hdir : u.get? p = some .directory := by
    rw [get?_eq_some_iff hne, hu]
    exact List.mem_append_left _ (List.mem_map_of_mem hp)
  rw [← h, get?_put _ (by simp)] at hnone
  split at hnone
  · cases hnone
  · rw [hdir] at hnone
    cases hnone

/-- The path still leads there if its directory can still be reached. -/
theorem arrives_put {bytes : List UInt8}
    (hdir : (u.put (dir ++ [name]) (.file bytes)).isDirectory (directoryOf path) = true) :
    ∃ l, (u.put (dir ++ [name]) (.file bytes)).arrive linkLimit
      ((u.put (dir ++ [name]) (.file bytes)).start path) (namesTo ss) = .ok (l, dir) :=
  (find_directoryOf_iff L.named L.good).1
    (find_put_file (.refl u) (by simp) bytes L.find_directoryOf hdir)

/-- The same file can be written once more, which changes nothing. -/
theorem writeFile_put {bytes : List UInt8}
    (hdir : (u.put (dir ++ [name]) (.file bytes)).isDirectory (directoryOf path) = true) :
    (writeFile (u.put (dir ++ [name]) (.file bytes)) path bytes).journal.result = .ok () ∧
      (writeFile (u.put (dir ++ [name]) (.file bytes)) path bytes).tree =
        u.put (dir ++ [name]) (.file bytes) := by
  obtain ⟨l, hl⟩ := L.arrives_put hdir
  have hfile := get?_put_self u (show dir ++ [name] ≠ [] by simp) (.file bytes)
  have hfree : (u.put (dir ++ [name]) (.file bytes)).get? (dir ++ [name]) ≠ some .directory := by
    rw [hfile]
    simp
  have hwrite := writeFile_of_arrive bytes L.named L.good L.open_end L.short hl hfree
  rwa [put_put] at hwrite

/-- The bytes are read again if the directory can still be reached. -/
theorem readBytes_put {bytes : List UInt8}
    (hdir : (u.put (dir ++ [name]) (.file bytes)).isDirectory (directoryOf path) = true) :
    (u.put (dir ++ [name]) (.file bytes)).readBytes path = .ok bytes := by
  obtain ⟨l, hl⟩ := L.arrives_put hdir
  have hfile := get?_put_self u (show dir ++ [name] ≠ [] by simp) (.file bytes)
  rw [readBytes, find, locate_eq L.named _ true L.good L.open_end, hl]
  simp [Except.bind, walk_name, L.named.ne_dot, L.named.ne_up, if_neg L.short, hfile]

end Landed

end TagSpec.Output
