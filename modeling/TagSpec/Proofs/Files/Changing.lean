import Mathlib.Data.List.Induction
import TagSpec.Proofs.Files.Paths

/-!
# What changes do to a tree

Making directories adds directories where nothing stood, each where the path or one around it leads,
however it ends. A file that is moved over a path goes into the directory that the path arrives at.
-/

namespace TagSpec.Files.Tree

/-! ## Entries -/

/-- Where no key is repeated, what is found under a key is what stands with it. -/
theorem lookup_eq_some_iff_mem {α β : Type} [BEq α] [LawfulBEq α] {es : List (α × β)}
    (h : (es.map Prod.fst).Nodup) {a : α} {b : β} : es.lookup a = some b ↔ (a, b) ∈ es := by
  induction es with
  | nil => simp
  | cons e es ih =>
    obtain ⟨k, v⟩ := e
    rw [List.map_cons, List.nodup_cons] at h
    rw [List.lookup_cons]
    by_cases hk : a = k
    · subst hk
      have hnot : (a, b) ∉ es := fun hm => h.1 (List.mem_map.2 ⟨_, hm, rfl⟩)
      simp [hnot, eq_comm]
    · rw [beq_eq_false_iff_ne.2 hk]
      simp [ih h.2, hk]

/-- What stands at a place other than the top is the one entry with that place. -/
theorem get?_eq_some_iff {t : Tree} {p : Place} {e : Entry} (hp : p ≠ []) :
    t.get? p = some e ↔ (p, e) ∈ t.entries := by
  rw [get?, if_neg hp, lookup_eq_some_iff_mem t.nodup]

/-! ## More directories -/

/-- The other tree has more directories, where nothing stood, and is the same else. -/
def AddsDirectories (t u : Tree) : Prop :=
  u.home = t.home ∧
    ∃ made : List Place, u.entries = made.map (·, Entry.directory) ++ t.entries ∧
      ∀ p ∈ made, t.get? p = none

namespace AddsDirectories

theorem refl (t : Tree) : AddsDirectories t t := ⟨rfl, [], rfl, by simp⟩

private theorem lookup_made {made : List Place} {p : Place} (es : List (Place × Entry))
    (hp : p ∉ made) : (made.map (·, Entry.directory) ++ es).lookup p = es.lookup p := by
  induction made with
  | nil => rfl
  | cons q made ih =>
    have hq : (p == q) = false := beq_eq_false_iff_ne.2 fun e => hp (e ▸ List.mem_cons_self)
    rw [List.map_cons, List.cons_append, List.lookup_cons, hq]
    exact ih fun hm => hp (List.mem_cons_of_mem _ hm)

/-- Where no directory was made there is what was there. -/
theorem get?_of_notMem {t u : Tree} {made : List Place}
    (hu : u.entries = made.map (·, Entry.directory) ++ t.entries) {p : Place} (hp : p ∉ made) :
    u.get? p = t.get? p := by
  unfold Tree.get?
  rw [hu, lookup_made _ hp]

/-- Where directories are added, all that stood in a tree stands in it still. -/
theorem grows {t u : Tree} (h : AddsDirectories t u) : Grows t u := by
  obtain ⟨hhome, made, hu, hmade⟩ := h
  refine ⟨hhome, fun {q e} hq => ?_⟩
  have hnot : q ∉ made := fun hm => by
    rw [hmade q hm] at hq
    cases hq
  rw [get?_of_notMem hu hnot, hq]

theorem trans {t u v : Tree} (h : AddsDirectories t u) (h' : AddsDirectories u v) :
    AddsDirectories t v := by
  have hgrows := h.grows
  obtain ⟨hhome, made, hu, hmade⟩ := h
  obtain ⟨hhome', made', hv, hmade'⟩ := h'
  refine ⟨hhome'.trans hhome, made' ++ made, by simp [hv, hu], ?_⟩
  intro p hp
  rcases List.mem_append.1 hp with hp | hp
  · cases ht : t.get? p with
    | none => rfl
    | some e =>
      have hsome := hgrows.get? ht
      rw [hmade' p hp] at hsome
      cases hsome
  · exact hmade p hp

/-- What stands in the tree and is no directory stood there before. -/
theorem get?_of_ne_directory {t u : Tree} (h : AddsDirectories t u) {p : Place} {e : Entry}
    (hp : u.get? p = some e) (he : e ≠ .directory) : t.get? p = some e := by
  obtain ⟨-, made, hu, -⟩ := h
  by_cases hm : p ∈ made
  · have hne : p ≠ [] := by
      rintro rfl
      exact he (Option.some.inj hp).symm
    have hdir : u.get? p = some .directory := by
      rw [get?_eq_some_iff hne, hu]
      exact List.mem_append_left _ (List.mem_map_of_mem hm)
    rw [hdir] at hp
    exact absurd (Option.some.inj hp).symm he
  · rwa [get?_of_notMem hu hm] at hp

end AddsDirectories

/-- Nothing is erased where nothing stands. -/
theorem erase_of_get?_none {t : Tree} {p : Place} (hp : t.get? p = none) :
    (t.erase p).entries = t.entries := by
  have hne : p ≠ [] := by
    rintro rfl
    cases hp
  rw [Tree.get?, if_neg hne, List.lookup_eq_none_iff] at hp
  rw [erase, List.filter_eq_self]
  intro e he
  simpa using Ne.symm (bne_iff_ne.1 (hp e he))

theorem get?_put_self (t : Tree) {p : Place} (hp : p ≠ []) (e : Entry) :
    (t.put p e).get? p = some e := by
  rw [get?_put t hp, if_pos rfl]

theorem put_put (t : Tree) (p : Place) (e e' : Entry) : (t.put p e).put p e' = t.put p e' := by
  refine Tree.ext ?_ rfl
  simp [put, erase]

/-- What is put where nothing stands leaves nothing behind when it is erased. -/
theorem erase_put {t : Tree} {p : Place} (hp : t.get? p = none) (e : Entry) :
    (t.put p e).erase p = t := by
  refine Tree.ext ?_ rfl
  rw [← erase_of_get?_none hp]
  simp [put, erase]

theorem grows_put {t : Tree} {p : Place} (hp : t.get? p = none) (e : Entry) :
    Grows t (t.put p e) := by
  have hne : p ≠ [] := by
    rintro rfl
    cases hp
  refine ⟨rfl, fun {q v} hq => ?_⟩
  rw [get?_put t hne, if_neg, hq]
  rintro rfl
  rw [hp] at hq
  cases hq

/-- A directory put where nothing stands is added. -/
theorem addsDirectories_put {t : Tree} {p : Place} (hp : t.get? p = none) :
    AddsDirectories t (t.put p .directory) := by
  refine ⟨rfl, [p], ?_, by simpa using hp⟩
  simp [put, erase_of_get?_none hp]

/-! ## The last name of a path -/

/-- What has to be for the last name of a path to be looked for in a directory. -/
theorem exists_of_lastName {t : Tree} {path name : String} {dir : Place}
    (h : t.lastName path = .ok (dir, name)) (hdots : isDots name = false) :
    isBadPath path = false ∧ ¬ nameLimit < Utf8.byteLength name.toList ∧
      ∃ ns l, Path.names path = ns ++ [name] ∧
        t.arrive linkLimit (t.start path) ns = .ok (l, dir) := by
  unfold lastName at h
  split at h
  · cases h
  next hbad =>
  split at h
  · split at h
    · cases h
    · cases h
      cases hdots
  · next last rest hrev =>
    split at h
    · cases h
    · next p hwalk =>
      split at h
      · cases h
      · next hshort =>
        cases h
        obtain ⟨l, hl⟩ := (walk_eq_directory_iff t).1 hwalk
        rw [arrive_append_dots _ _ _ _ (by simp)] at hl
        refine ⟨by simpa using hbad, hshort, rest.reverse, l, ?_, hl⟩
        rw [← List.reverse_reverse (Path.names path), hrev, List.reverse_cons]
    · cases h
    · cases h

/-- A path that does not end in a slash names something in a directory if its last name is no
dots. -/
theorem exists_named {path name : String} {ns : List String} (hnames : Path.names path = ns ++ [name])
    (hdots : isDots name = false) (hslash : Path.endsInSlash path = false) :
    ∃ ss, Path.Named path name ss ∧ namesTo ss = ns := by
  have hrev : (Path.names path).reverse = name :: ns.reverse := by rw [hnames, List.reverse_concat]
  obtain ⟨ss, hseg, hss⟩ := Path.exists_segments hrev hslash
  have hmem : name ∈ Path.names path := by simp [hnames]
  have hne : name ≠ "" := by simpa using (List.mem_filter.1 hmem).2
  have hdots : name ≠ "." ∧ name ≠ ".." := by simpa [isDots] using hdots
  exact ⟨ss, ⟨hseg, hne, hdots.1, hdots.2⟩, by rw [namesTo, ← hss, List.reverse_reverse]⟩

/-- Where the last name of a path is looked for. -/
theorem lastName_eq {path name : String} {ss : List String} (h : Path.Named path name ss) (t : Tree)
    (hbad : isBadPath path = false) :
    t.lastName path =
      (t.arrive linkLimit (t.start path) (namesTo ss)).bind fun r =>
        if nameLimit < Utf8.byteLength name.toList then .error .nameTooLong
        else .ok (r.2, name) := by
  unfold lastName
  rw [hbad, h.names]
  simp only [Bool.false_eq_true, if_false]
  rw [← namesTo, walk_append t true (by simp)]
  cases t.arrive linkLimit (t.start path) (namesTo ss) with
  | error e => rfl
  | ok r => simp [Except.bind, walk_name]

/-! ## Making directories -/

/-- A directory that was made is new, and its path leads to it. -/
theorem exists_of_makeDirectory {t u : Tree} {path : String} (h : t.makeDirectory path = .ok u) :
    ∃ p, t.get? p = none ∧ u = t.put p .directory ∧ u.find path = .ok (p, .directory) := by
  unfold makeDirectory at h
  cases hl : t.lastName path with
  | error e => rw [hl] at h; cases h
  | ok r =>
    obtain ⟨dir, name⟩ := r
    rw [hl] at h
    simp only [bind, Except.bind] at h
    split at h
    · cases h
    next hdots =>
    have hdots : isDots name = false := by simpa using hdots
    split at h
    · cases h
    next hget =>
    cases h
    obtain ⟨hbad, hshort, ns, l, hnames, harrive⟩ := exists_of_lastName hl hdots
    have hne : path ≠ "" := by
      rintro rfl
      simp [show Path.names "" = [] by decide] at hnames
    have hdots : name ≠ "." ∧ name ≠ ".." := by simpa [isDots] using hdots
    refine ⟨dir ++ [name], hget, rfl, (find_directory_iff hbad hne).2 ⟨l, ?_⟩⟩
    have hto := (grows_put hget .directory).arrive harrive
    have hhop : (t.put (dir ++ [name]) .directory).hop dir name = .ok (.inside (dir ++ [name])) := by
      rw [hop, if_neg hdots.1, if_neg hdots.2, if_neg hshort, get?_put_self t (by simp)]
    rw [linkNames, hnames, arrive_append_dots, arrive_append,
      show start (t.put (dir ++ [name]) .directory) path = t.start path from rfl, hto]
    · simp [Except.bind, arrive, hhop]
    · intro s hs
      split at hs
      · simpa using hs
      · cases hs

/-- The first path leads to a directory around what the second one names, or is that path. -/
inductive Encloses : String → String → Prop
  | self (path : String) : Encloses path path
  | parent {outer parent path : String} : Path.parent? path = some parent →
      Encloses outer parent → Encloses outer path

/-- The other tree has more directories, each where the path or one that encloses it leads. -/
structure MakesPath (t u : Tree) (path : String) : Prop where
  adds : AddsDirectories t u
  leads : ∀ {p : Place} {e : Entry}, t.get? p = none → u.get? p = some e →
    ∃ outer, Encloses outer path ∧ u.find outer = .ok (p, .directory)

namespace MakesPath

theorem refl (t : Tree) (path : String) : MakesPath t t path := by
  refine ⟨.refl t, fun {p e} hnone hsome => ?_⟩
  rw [hnone] at hsome
  cases hsome

/-- What is made on the way to the parent of a path is made on the way to the path. -/
theorem parent {t u : Tree} {parent path : String} (h : MakesPath t u parent)
    (hparent : Path.parent? path = some parent) : MakesPath t u path := by
  refine ⟨h.adds, fun hnone hsome => ?_⟩
  obtain ⟨outer, houter, hfind⟩ := h.leads hnone hsome
  exact ⟨outer, .parent hparent houter, hfind⟩

/-- One more directory is made. -/
theorem makeDirectory {t u v : Tree} {path : String} (h : MakesPath t u path)
    (hmake : u.makeDirectory path = .ok v) : MakesPath t v path := by
  obtain ⟨p, hp, rfl, hfind⟩ := exists_of_makeDirectory hmake
  have hadds := addsDirectories_put hp
  refine ⟨h.adds.trans hadds, fun {q e} hnone hsome => ?_⟩
  cases hq : u.get? q with
  | some v =>
    obtain ⟨outer, houter, hleads⟩ := h.leads hnone hq
    exact ⟨outer, houter, hadds.grows.find hleads⟩
  | none =>
    have hne : p ≠ [] := by
      rintro rfl
      cases hp
    rw [get?_put u hne] at hsome
    split at hsome
    · next heq =>
      rw [heq]
      exact ⟨path, .self path, hfind⟩
    · rw [hq] at hsome
      cases hsome

end MakesPath

/-- Whether or not all directories could be made, those that were made are all that changed. -/
theorem makesPath_makeDirectories {make : DirectoryMaker}
    (hmake : ∀ {t u : Tree} {path : String}, make t path = .ok u → t.makeDirectory path = .ok u)
    (t : Tree) (depth : Nat) (path : String) :
    MakesPath t (t.makeDirectories make depth path).1 path := by
  induction depth generalizing path with
  | zero => exact .refl t path
  | succ depth ih =>
    rw [makeDirectories]
    split
    · exact .refl t path
    split
    · next hmade => exact (MakesPath.refl t path).makeDirectory (hmake hmade)
    · split
      · exact .refl t path
      · next parent hparent =>
        have hmakes := (ih parent).parent hparent
        split
        · next hm => rwa [hm] at hmakes
        · next hm =>
          rw [hm] at hmakes
          split
          · next hmade => exact hmakes.makeDirectory (hmake hmade)
          · exact hmakes
    · exact .refl t path

/-- However one directory is made, a path is made of directories that are on its way. -/
theorem makesPath_makePath {make : DirectoryMaker}
    (hmake : ∀ {t u : Tree} {path : String}, make t path = .ok u → t.makeDirectory path = .ok u)
    (t : Tree) (path : String) : MakesPath t (t.makePath path make).1 path :=
  makesPath_makeDirectories hmake t _ path

/-! ## Trees whose entries stand in directories -/

/-- Every entry stands in a directory. -/
def Rooted (t : Tree) : Prop := ∀ e ∈ t.entries, t.get? e.1.dropLast = some .directory

instance (t : Tree) : Decidable (Rooted t) :=
  inferInstanceAs (Decidable (∀ e ∈ t.entries, t.get? e.1.dropLast = some .directory))

/-- Nothing stands below a place where nothing stands. -/
theorem Rooted.get?_append (h : Rooted t) {p : Place} (hp : t.get? p = none) (names : List String) :
    t.get? (p ++ names) = none := by
  induction names using List.reverseRecOn with
  | nil => simpa using hp
  | append_singleton names name ih =>
    rw [← List.append_assoc]
    cases hq : t.get? (p ++ names ++ [name]) with
    | none => rfl
    | some e =>
      have hdir := h _ ((get?_eq_some_iff (by simp)).1 hq)
      rw [List.dropLast_concat, ih] at hdir
      cases hdir

/-- The other tree has all entries of the one, and more directories. Each of these is where the path
or one that encloses it leads, and below it there are only directories. -/
structure OnlyMakes (t u : Tree) (path : String) : Prop where
  home : u.home = t.home
  kept {p : Place} {e : Entry} : t.get? p = some e → u.get? p = some e
  leads {p : Place} {e : Entry} : t.get? p = none → u.get? p = some e →
    ∃ outer, Encloses outer path ∧ u.find outer = .ok (p, .directory)
  below {p : Place} {e : Entry} (names : List String) : t.get? p = none →
    u.get? (p ++ names) = some e → e = .directory

theorem OnlyMakes.of_makesPath (h : Rooted t) {u : Tree} {path : String} (hmakes : MakesPath t u path) :
    OnlyMakes t u path where
  home := hmakes.adds.1
  kept := hmakes.adds.grows.get?
  leads := hmakes.leads
  below := by
    intro p e names hnone hsome
    refine Decidable.byContradiction fun he => ?_
    have hbefore := hmakes.adds.get?_of_ne_directory hsome he
    rw [h.get?_append hnone] at hbefore
    cases hbefore

/-! ## Moving a file over a path -/

/-- What takes the place of anything but a directory. -/
theorem rename_of_arrive {t : Tree} {source dir : Place} {path name : String} {ss : List String}
    {l : Nat} {e : Entry} (h : Path.Named path name ss) (hbad : isBadPath path = false)
    (hslash : Path.endsInSlash path = false) (hshort : ¬ nameLimit < Utf8.byteLength name.toList)
    (harrive : t.arrive linkLimit (t.start path) (namesTo ss) = .ok (l, dir))
    (hsource : t.get? source = some e) (hfree : t.get? (dir ++ [name]) ≠ some .directory) :
    t.rename source path = .ok ((t.erase source).put (dir ++ [name]) e) := by
  have hdots : isDots name = false := by simp [isDots, h.ne_dot, h.ne_up]
  unfold rename
  rw [lastName_eq h t hbad, harrive]
  simp only [bind, Except.bind, if_neg hshort, hdots, hslash, hsource, Bool.false_eq_true, if_false]

/-- What has to be for a file to be moved over a path, and what becomes of the tree. -/
theorem exists_of_rename {t u : Tree} {source : Place} {path : String}
    (h : t.rename source path = .ok u) :
    ∃ name ss l dir e, Path.Named path name ss ∧ isBadPath path = false ∧
      Path.endsInSlash path = false ∧ ¬ nameLimit < Utf8.byteLength name.toList ∧
      t.arrive linkLimit (t.start path) (namesTo ss) = .ok (l, dir) ∧ t.get? source = some e ∧
      t.get? (dir ++ [name]) ≠ some .directory ∧ u = (t.erase source).put (dir ++ [name]) e := by
  unfold rename at h
  cases hl : t.lastName path with
  | error e =>
    rw [hl] at h
    cases h
  | ok r =>
    obtain ⟨dir, name⟩ := r
    rw [hl] at h
    simp only [bind, Except.bind] at h
    split at h
    · cases h
    next hdots =>
    split at h
    · cases h
    next hslash =>
    have hdots : isDots name = false := by simpa using hdots
    have hslash : Path.endsInSlash path = false := by simpa using hslash
    obtain ⟨hbad, hshort, ns, l, hnames, harrive⟩ := exists_of_lastName hl hdots
    obtain ⟨ss, hnamed, rfl⟩ := exists_named hnames hdots hslash
    split at h
    · cases h
    · cases h
    · next e hsource hfree =>
      cases h
      exact ⟨name, ss, l, dir, _, hnamed, hbad, hslash, hshort, harrive, hsource, hfree, rfl⟩

end TagSpec.Files.Tree
