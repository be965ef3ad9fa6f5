import Mathlib.Data.List.Nodup
import TagSpec.Spec.Rendering

/-!
# Names that are written

What a check accepts and what it keeps. Main statement: `SpecFile.render_eq_ok_iff`, by which a spec
file is rendered exactly if its names are identifiers and do not repeat where they must not, and its
text is then that of the file without the fields that cannot be referred to.
-/

namespace TagSpec

/-! ## Names -/

def Group.names (g : Group) : List String := g.displayName :: g.entries.map Entry.field

def Spec.names (s : Spec) : List String := s.name :: s.groups.flatMap Group.names

def SpecFile.names (f : SpecFile) : List String := f.package :: f.specs.flatMap Spec.names

/-- Names that are kept of others, all of them identifiers. -/
def Kept (names kept : List String) : Prop :=
  ∀ n ∈ kept, n ∈ names ∧ Identifier.isValid n = true

/-- Names that are all different, and none of them among those seen before. -/
def Fresh (seen names : List String) : Prop := names.Nodup ∧ ∀ n ∈ names, n ∉ seen

theorem fresh_nil (seen : List String) : Fresh seen [] := ⟨.nil, nofun⟩

theorem fresh_cons {seen names : List String} {n : String} :
    Fresh seen (n :: names) ↔ n ∉ seen ∧ Fresh (n :: seen) names := by
  simp only [Fresh, List.nodup_cons, List.mem_cons, forall_eq_or_imp, not_or]
  constructor
  · rintro ⟨⟨hn, hnodup⟩, hseen, hnames⟩
    exact ⟨hseen, hnodup, fun m hm => ⟨fun heq => hn (heq ▸ hm), hnames m hm⟩⟩
  · rintro ⟨hseen, hnodup, hnames⟩
    exact ⟨⟨fun hn => (hnames n hn).1 rfl, hnodup⟩, hseen, fun m hm => (hnames m hm).2⟩

theorem fresh_nil_iff {names : List String} : Fresh [] names ↔ names.Nodup :=
  ⟨And.left, fun h => ⟨h, fun _ _ => List.not_mem_nil⟩⟩

/-! ## What is kept -/

/-- The entries whose fields can be referred to. -/
def referable (es : List Entry) : List Entry := es.filter fun e => e.field ≠ Identifier.blank

/-- The group without the fields that cannot be referred to. -/
def Group.cleaned (g : Group) : Group := ⟨g.displayName, referable g.entries⟩

/-- Groups without the fields that cannot be referred to, and without those that have no others. -/
def cleanedGroups (gs : List Group) : List Group :=
  (gs.map Group.cleaned).filter fun g => !g.entries.isEmpty

/-- The spec with its groups cleaned. -/
def Spec.cleaned (s : Spec) : Spec := ⟨s.name, cleanedGroups s.groups⟩

/-- The spec file with its specs cleaned. -/
def SpecFile.cleaned (f : SpecFile) : SpecFile := ⟨f.package, f.specs.map Spec.cleaned⟩

/-- The entries that are kept are those whose field is not blank. -/
theorem mem_referable {es : List Entry} {e : Entry} :
    e ∈ referable es ↔ e ∈ es ∧ e.field ≠ Identifier.blank := by
  simp [referable]

/-- The groups that are kept are those in which entries are left. -/
theorem mem_cleanedGroups {gs : List Group} {h : Group} :
    h ∈ cleanedGroups gs ↔ ∃ g ∈ gs, g.cleaned = h ∧ h.entries ≠ [] := by
  simp only [cleanedGroups, List.mem_filter, List.mem_map, Bool.not_eq_true',
    List.isEmpty_eq_false_iff]
  exact ⟨fun ⟨⟨g, hg, hh⟩, hne⟩ => ⟨g, hg, hh, hne⟩, fun ⟨g, hg, hh, hne⟩ => ⟨⟨g, hg, hh⟩, hne⟩⟩

theorem cleanedGroups_cons (g : Group) (gs : List Group) :
    cleanedGroups (g :: gs) =
      if (referable g.entries).isEmpty then cleanedGroups gs else g.cleaned :: cleanedGroups gs := by
  unfold cleanedGroups
  rw [List.map_cons, List.filter_cons]
  cases h : (referable g.entries).isEmpty <;> simp [Group.cleaned, h]

/-- Group names are kept in their order. -/
theorem sublist_cleanedGroups (gs : List Group) :
    ((cleanedGroups gs).map Group.displayName).Sublist (gs.map Group.displayName) := by
  have hnames : (gs.map Group.cleaned).map Group.displayName = gs.map Group.displayName :=
    List.map_map
  rw [← hnames]
  exact List.filter_sublist.map _

/-! ## What is accepted -/

/-- Entries whose fields can be referred to by names that are all different. -/
structure AcceptedEntries (seen : List String) (es : List Entry) : Prop where
  valid : ∀ e ∈ referable es, Identifier.isValid e.field = true
  fresh : Fresh seen ((referable es).map Entry.field)

/-- Groups with different names and accepted entries. -/
structure AcceptedGroups (seen : List String) (gs : List Group) : Prop where
  valid : ∀ g ∈ gs, Identifier.isValid g.displayName = true
  entries : ∀ g ∈ gs, AcceptedEntries [] g.entries
  fresh : Fresh seen (gs.map Group.displayName)

/-- A spec with a name and with accepted groups. -/
structure Spec.Accepted (s : Spec) : Prop where
  valid : Identifier.isValid s.name = true
  groups : AcceptedGroups [] s.groups

/-- A spec file with a package name and with accepted specs. -/
structure SpecFile.Accepted (f : SpecFile) : Prop where
  valid : Identifier.isValid f.package = true
  specs : ∀ s ∈ f.specs, s.Accepted

/-! ## Checks -/

theorem checkName_eq_ok_iff {role : NameRole} {name : String} {u : Unit} :
    (checkName role name).result = .ok u ↔ Identifier.isValid name = true := by
  unfold checkName
  split
  · next h => exact iff_of_true rfl h
  · next h => exact iff_of_false nofun h

/-- Entries are accepted exactly if their fields are, and those that can be referred to are kept. -/
theorem checkEntries_eq_ok_iff {struct group : String} {seen : List String} {es kept : List Entry} :
    (checkEntries struct group seen es).result = .ok kept ↔
      AcceptedEntries seen es ∧ kept = referable es := by
  induction es generalizing seen kept with
  | nil =>
    refine ⟨fun h => ?_, fun ⟨_, h⟩ => h ▸ rfl⟩
    cases h
    exact ⟨⟨nofun, fresh_nil seen⟩, rfl⟩
  | cons e es ih =>
    rw [checkEntries]
    by_cases hblank : e.field = Identifier.blank
    · have hskip : referable (e :: es) = referable es := by simp [referable, hblank]
      rw [if_pos hblank, Journal.result_bind, Journal.result_report, Except.bind, ih, hskip]
      exact and_congr_left' ⟨fun ⟨hv, hf⟩ => ⟨hskip ▸ hv, hskip ▸ hf⟩,
        fun ⟨hv, hf⟩ => ⟨hskip ▸ hv, hskip ▸ hf⟩⟩
    · have hkeep : referable (e :: es) = e :: referable es := by simp [referable, hblank]
      have hentries : AcceptedEntries seen (e :: es) ↔ Identifier.isValid e.field = true ∧
          e.field ∉ seen ∧ AcceptedEntries (e.field :: seen) es := by
        constructor
        · rintro ⟨hv, hf⟩
          rw [hkeep] at hv hf
          obtain ⟨hname, hrest⟩ := List.forall_mem_cons.1 hv
          obtain ⟨hseen, hfresh⟩ := fresh_cons.1 hf
          exact ⟨hname, hseen, hrest, hfresh⟩
        · rintro ⟨hname, hseen, hrest, hfresh⟩
          refine ⟨?_, ?_⟩ <;> rw [hkeep]
          · exact List.forall_mem_cons.2 ⟨hname, hrest⟩
          · exact fresh_cons.2 ⟨hseen, hfresh⟩
      rw [if_neg hblank, Journal.result_bind_eq_ok_iff, hentries, hkeep]
      simp only [checkName_eq_ok_iff]
      split
      · next hseen =>
        refine iff_of_false (fun ⟨_, _, h⟩ => nomatch h) fun ⟨⟨_, hnot, _⟩, _⟩ => ?_
        exact hnot (List.contains_iff_mem.1 hseen)
      · next hseen =>
        simp only [Journal.result_bind_eq_ok_iff, ih]
        constructor
        · rintro ⟨_, hname, _, ⟨hrest, rfl⟩, h⟩
          cases h
          exact ⟨⟨hname, fun hmem => hseen (List.contains_iff_mem.2 hmem), hrest⟩, rfl⟩
        · rintro ⟨⟨hname, -, hrest⟩, rfl⟩
          exact ⟨(), hname, _, ⟨hrest, rfl⟩, rfl⟩

/-- Groups are accepted exactly if their names and entries are, and those with entries are kept. -/
theorem checkGroups_eq_ok_iff {struct : String} {seen : List String} {gs kept : List Group} :
    (checkGroups struct seen gs).result = .ok kept ↔
      AcceptedGroups seen gs ∧ kept = cleanedGroups gs := by
  induction gs generalizing seen kept with
  | nil =>
    refine ⟨fun h => ?_, fun ⟨_, h⟩ => h ▸ rfl⟩
    cases h
    exact ⟨⟨nofun, nofun, fresh_nil seen⟩, rfl⟩
  | cons g gs ih =>
    have hgroups : AcceptedGroups seen (g :: gs) ↔ Identifier.isValid g.displayName = true ∧
        g.displayName ∉ seen ∧ AcceptedEntries [] g.entries ∧
        AcceptedGroups (g.displayName :: seen) gs := by
      constructor
      · rintro ⟨hv, he, hf⟩
        obtain ⟨hname, hrest⟩ := List.forall_mem_cons.1 hv
        obtain ⟨hentries, hothers⟩ := List.forall_mem_cons.1 he
        obtain ⟨hseen, hfresh⟩ := fresh_cons.1 hf
        exact ⟨hname, hseen, hentries, hrest, hothers, hfresh⟩
      · rintro ⟨hname, hseen, hentries, hrest, hothers, hfresh⟩
        exact ⟨List.forall_mem_cons.2 ⟨hname, hrest⟩, List.forall_mem_cons.2 ⟨hentries, hothers⟩,
          fresh_cons.2 ⟨hseen, hfresh⟩⟩
    rw [checkGroups, Journal.result_bind_eq_ok_iff, hgroups, cleanedGroups_cons]
    simp only [checkName_eq_ok_iff]
    split
    · next hseen =>
      refine iff_of_false (fun ⟨_, _, h⟩ => nomatch h) fun ⟨⟨_, hnot, _⟩, _⟩ => ?_
      exact hnot (List.contains_iff_mem.1 hseen)
    · next hseen =>
      simp only [Journal.result_bind_eq_ok_iff, checkEntries_eq_ok_iff, ih]
      constructor
      · rintro ⟨_, hname, _, ⟨hentries, rfl⟩, _, ⟨hrest, rfl⟩, h⟩
        cases h
        exact ⟨⟨hname, fun hmem => hseen (List.contains_iff_mem.2 hmem), hentries, hrest⟩, rfl⟩
      · rintro ⟨⟨hname, -, hentries, hrest⟩, rfl⟩
        exact ⟨(), hname, _, ⟨hentries, rfl⟩, _, ⟨hrest, rfl⟩, rfl⟩

/-- A spec is checked with success exactly if it is accepted, and is cleaned by that. -/
theorem Spec.check_eq_ok_iff {s checked : Spec} :
    s.check.result = .ok checked ↔ s.Accepted ∧ checked = s.cleaned := by
  simp only [Spec.check, Journal.result_bind_eq_ok_iff, checkName_eq_ok_iff, checkGroups_eq_ok_iff]
  constructor
  · rintro ⟨_, hname, _, ⟨hgroups, rfl⟩, h⟩
    cases h
    exact ⟨⟨hname, hgroups⟩, rfl⟩
  · rintro ⟨⟨hname, hgroups⟩, rfl⟩
    exact ⟨(), hname, _, ⟨hgroups, rfl⟩, rfl⟩

theorem checkSpecs_eq_ok_iff {ss kept : List Spec} :
    (checkSpecs ss).result = .ok kept ↔ (∀ s ∈ ss, s.Accepted) ∧ kept = ss.map Spec.cleaned := by
  induction ss generalizing kept with
  | nil =>
    refine ⟨fun h => ?_, fun ⟨_, h⟩ => h ▸ rfl⟩
    cases h
    exact ⟨nofun, rfl⟩
  | cons s ss ih =>
    simp only [checkSpecs, Journal.result_bind_eq_ok_iff, Spec.check_eq_ok_iff, ih,
      List.forall_mem_cons, List.map_cons]
    constructor
    · rintro ⟨_, ⟨hs, rfl⟩, _, ⟨hrest, rfl⟩, h⟩
      cases h
      exact ⟨⟨hs, hrest⟩, rfl⟩
    · rintro ⟨⟨hs, hrest⟩, rfl⟩
      exact ⟨_, ⟨hs, rfl⟩, _, ⟨hrest, rfl⟩, rfl⟩

namespace SpecFile

/-- A spec file is checked with success exactly if it is accepted, and is cleaned by that. -/
theorem check_eq_ok_iff {f checked : SpecFile} :
    f.check.result = .ok checked ↔ f.Accepted ∧ checked = f.cleaned := by
  simp only [check, Journal.result_bind_eq_ok_iff, checkName_eq_ok_iff, checkSpecs_eq_ok_iff]
  constructor
  · rintro ⟨_, hname, _, ⟨hspecs, rfl⟩, h⟩
    cases h
    exact ⟨⟨hname, hspecs⟩, rfl⟩
  · rintro ⟨⟨hname, hspecs⟩, rfl⟩
    exact ⟨(), hname, _, ⟨hspecs, rfl⟩, rfl⟩

/-- A spec file is rendered exactly if it is accepted, and then its text is that of the cleaned
file. -/
theorem render_eq_ok_iff {f : SpecFile} {t : String} :
    f.render.result = .ok t ↔ f.Accepted ∧ t.toList = f.cleaned.text := by
  simp only [render, Journal.result_bind_eq_ok_iff, check_eq_ok_iff]
  constructor
  · rintro ⟨_, ⟨hf, rfl⟩, h⟩
    cases h
    exact ⟨hf, String.toList_ofList⟩
  · rintro ⟨hf, ht⟩
    refine ⟨_, ⟨hf, rfl⟩, ?_⟩
    rw [← ht, String.ofList_toList]
    rfl

end SpecFile

/-! ## What was cleaned -/

theorem referable_referable (es : List Entry) : referable (referable es) = referable es := by
  simp [referable]

theorem Group.cleaned_cleaned (g : Group) : g.cleaned.cleaned = g.cleaned :=
  congrArg (Group.mk g.displayName) (referable_referable g.entries)

theorem Spec.cleaned_cleaned (s : Spec) : s.cleaned.cleaned = s.cleaned := by
  have hmap : (cleanedGroups s.groups).map Group.cleaned = cleanedGroups s.groups := by
    have hsame : ∀ c ∈ cleanedGroups s.groups, c.cleaned = c := by
      intro c hc
      obtain ⟨g, -, rfl, -⟩ := mem_cleanedGroups.1 hc
      exact g.cleaned_cleaned
    rw [List.map_congr_left hsame, List.map_id']
  have hgroups : cleanedGroups (cleanedGroups s.groups) = cleanedGroups s.groups := by
    rw [cleanedGroups, hmap, cleanedGroups, List.filter_filter]
    simp only [Bool.and_self]
  exact congrArg (Spec.mk s.name) hgroups

theorem AcceptedEntries.cleaned {seen : List String} {es : List Entry}
    (h : AcceptedEntries seen es) : AcceptedEntries seen (referable es) := by
  constructor <;> rw [referable_referable]
  · exact h.valid
  · exact h.fresh

theorem AcceptedGroups.cleaned {gs : List Group} (h : AcceptedGroups [] gs) :
    AcceptedGroups [] (cleanedGroups gs) := by
  refine ⟨fun c hc => ?_, fun c hc => ?_, ?_⟩
  · obtain ⟨g, hg, rfl, -⟩ := mem_cleanedGroups.1 hc
    exact h.valid g hg
  · obtain ⟨g, hg, rfl, -⟩ := mem_cleanedGroups.1 hc
    exact (h.entries g hg).cleaned
  · exact fresh_nil_iff.2 ((fresh_nil_iff.1 h.fresh).sublist (sublist_cleanedGroups gs))

/-- Names that are kept in a group are those of fields that can be referred to. -/
theorem AcceptedEntries.kept {seen : List String} {es : List Entry} (h : AcceptedEntries seen es) :
    Kept (es.map Entry.field) ((referable es).map Entry.field) := by
  intro n hn
  obtain ⟨e, he, rfl⟩ := List.mem_map.1 hn
  exact ⟨List.mem_map_of_mem (mem_referable.1 he).1, h.valid e he⟩

theorem Spec.Accepted.kept {s : Spec} (h : s.Accepted) : Kept s.names s.cleaned.names := by
  intro n hn
  rcases List.mem_cons.1 hn with rfl | hn
  · exact ⟨List.mem_cons_self, h.valid⟩
  obtain ⟨c, hc, hn⟩ := List.mem_flatMap.1 hn
  obtain ⟨g, hg, rfl, -⟩ := mem_cleanedGroups.1 hc
  have hmem : ∀ m ∈ g.names, m ∈ s.names := fun m hm =>
    List.mem_cons_of_mem _ (List.mem_flatMap_of_mem hg hm)
  rcases List.mem_cons.1 hn with rfl | hn
  · exact ⟨hmem _ List.mem_cons_self, h.groups.valid g hg⟩
  · obtain ⟨hfield, hvalid⟩ := (h.groups.entries g hg).kept n hn
    exact ⟨hmem _ (List.mem_cons_of_mem _ hfield), hvalid⟩

namespace SpecFile

theorem cleaned_cleaned (f : SpecFile) : f.cleaned.cleaned = f.cleaned := by
  refine congrArg (SpecFile.mk f.package) ?_
  rw [cleaned, List.map_map]
  exact List.map_congr_left fun s _ => s.cleaned_cleaned

theorem Accepted.cleaned {f : SpecFile} (h : f.Accepted) : f.cleaned.Accepted := by
  refine ⟨h.valid, fun c hc => ?_⟩
  obtain ⟨s, hs, rfl⟩ := List.mem_map.1 hc
  exact ⟨(h.specs s hs).valid, (h.specs s hs).groups.cleaned⟩

theorem Accepted.kept {f : SpecFile} (h : f.Accepted) : Kept f.names f.cleaned.names := by
  intro n hn
  rcases List.mem_cons.1 hn with rfl | hn
  · exact ⟨List.mem_cons_self, h.valid⟩
  obtain ⟨c, hc, hn⟩ := List.mem_flatMap.1 hn
  obtain ⟨s, hs, rfl⟩ := List.mem_map.1 hc
  obtain ⟨hmem, hvalid⟩ := (h.specs s hs).kept n hn
  exact ⟨List.mem_cons_of_mem _ (List.mem_flatMap_of_mem hs hmem), hvalid⟩

/-- What is rendered is the text of a spec file of the same package, with names of the first. -/
theorem render_eq_ok {f : SpecFile} {t : String} (h : f.render.result = .ok t) :
    ∃ written : SpecFile, t.toList = written.text ∧ written.package = f.package ∧
      Kept f.names written.names := by
  obtain ⟨hf, ht⟩ := render_eq_ok_iff.1 h
  exact ⟨f.cleaned, ht, rfl, hf.kept⟩

end SpecFile

end TagSpec
