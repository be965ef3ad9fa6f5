import TagSpec.Proofs.Spec.Checking
import TagSpec.Proofs.Spec.Parsing

/-!
# Names that can be compiled

Which names the text of a spec file gives to variables, to the fields of struct types and to the
elements of their values, and when all of these can be compiled. A check settles this for fields; it
leaves open repeated specs, and blank names of packages and groups.
-/

namespace TagSpec

namespace Spec

/-- The names of the fields of each struct type in the text of a spec: the type of its groups, and
the type of the entries of each group. -/
def structTypes (s : Spec) : List (List String) :=
  s.groups.map Group.displayName :: s.groups.map fun g => g.entries.map Entry.field

/-- The keys of the elements in the values of a spec. -/
def keys (s : Spec) : List String := s.groups.flatMap Group.names

/-- Specs of different names have different variables. -/
theorem variableName_inj {s s' : Spec} : s.variableName = s'.variableName ↔ s.name = s'.name := by
  unfold variableName
  rw [List.append_left_inj, String.toList_inj]

/-- Variables have different names exactly if their structs have. -/
theorem nodup_variableNames_iff {ss : List Spec} :
    (ss.map variableName).Nodup ↔ (ss.map name).Nodup := by
  rw [List.Nodup, List.Nodup, List.pairwise_map, List.pairwise_map]
  simp only [ne_eq, variableName_inj]

/-- The fields of every struct type that is written for an accepted spec have different names. -/
theorem Accepted.nodup_structTypes {s : Spec} (h : s.Accepted) :
    ∀ names ∈ s.cleaned.structTypes, names.Nodup := by
  intro names hnames
  rcases List.mem_cons.1 hnames with rfl | hnames
  · exact fresh_nil_iff.1 h.groups.cleaned.fresh
  · obtain ⟨c, hc, rfl⟩ := List.mem_map.1 hnames
    obtain ⟨g, hg, rfl, -⟩ := mem_cleanedGroups.1 hc
    exact fresh_nil_iff.1 (h.groups.entries g hg).fresh

/-- The blank name is a key only if it is the name of a group that is written. -/
theorem blank_mem_keys_iff {s : Spec} :
    Identifier.blank ∈ s.cleaned.keys ↔
      ∃ g ∈ s.groups, g.displayName = Identifier.blank ∧
        ∃ e ∈ g.entries, e.field ≠ Identifier.blank := by
  constructor
  · intro hmem
    obtain ⟨c, hc, hmem⟩ := List.mem_flatMap.1 hmem
    obtain ⟨g, hg, rfl, hne⟩ := mem_cleanedGroups.1 hc
    rcases List.mem_cons.1 hmem with hname | hfield
    · obtain ⟨e, he⟩ := List.exists_mem_of_ne_nil _ hne
      exact ⟨g, hg, hname.symm, e, mem_referable.1 he⟩
    · obtain ⟨e, he, hblank⟩ := List.mem_map.1 hfield
      exact absurd hblank (mem_referable.1 he).2
  · rintro ⟨g, hg, hname, e, he⟩
    have hmem : e ∈ referable g.entries := mem_referable.2 he
    refine List.mem_flatMap.2 ⟨g.cleaned, ?_, hname ▸ List.mem_cons_self⟩
    exact mem_cleanedGroups.2 ⟨g, hg, rfl, List.ne_nil_of_mem hmem⟩

end Spec

namespace SpecFile

/-- The names in the text of a spec file can be compiled: variables and the fields of each struct
type have different names, and no package and no key is blank. -/
structure Compilable (f : SpecFile) : Prop where
  declared : (f.specs.map Spec.variableName).Nodup
  types : ∀ s ∈ f.specs, ∀ names ∈ s.structTypes, names.Nodup
  package : f.package ≠ Identifier.blank
  keys : ∀ s ∈ f.specs, Identifier.blank ∉ s.keys

theorem names_cleaned (f : SpecFile) : f.cleaned.specs.map Spec.name = f.specs.map Spec.name :=
  List.map_map

/-- The fields of rendered struct types have different names, none of them blank. All names can be
compiled exactly if specs have different names, and neither the package is blank nor a group that
holds a field that can be referred to. -/
theorem render_compilable_iff {f : SpecFile} {t : String} (h : f.render.result = .ok t) :
    t.toList = f.cleaned.text ∧
      (∀ s ∈ f.cleaned.specs, ∀ names ∈ s.structTypes, names.Nodup) ∧
      (∀ s ∈ f.cleaned.specs, ∀ g ∈ s.groups, ∀ e ∈ g.entries, e.field ≠ Identifier.blank) ∧
      (f.cleaned.Compilable ↔
        (f.specs.map Spec.name).Nodup ∧ f.package ≠ Identifier.blank ∧
          ∀ s ∈ f.specs, ∀ g ∈ s.groups, g.displayName = Identifier.blank →
            ∀ e ∈ g.entries, e.field = Identifier.blank) := by
  obtain ⟨hf, ht⟩ := render_eq_ok_iff.1 h
  have hfields : ∀ s ∈ f.cleaned.specs, ∀ names ∈ s.structTypes, names.Nodup := by
    intro c hc
    obtain ⟨s, hs, rfl⟩ := List.mem_map.1 hc
    exact (hf.specs s hs).nodup_structTypes
  refine ⟨ht, hfields, ?_, ?_⟩
  · intro c hc d hd e he
    obtain ⟨s, hs, rfl⟩ := List.mem_map.1 hc
    obtain ⟨g, hg, rfl, -⟩ := mem_cleanedGroups.1 hd
    exact (mem_referable.1 he).2
  · have hkeys : (∀ s ∈ f.cleaned.specs, Identifier.blank ∉ s.keys) ↔
        ∀ s ∈ f.specs, ∀ g ∈ s.groups, g.displayName = Identifier.blank →
          ∀ e ∈ g.entries, e.field = Identifier.blank := by
      have hspecs : f.cleaned.specs = f.specs.map Spec.cleaned := rfl
      simp only [hspecs, List.forall_mem_map, Spec.blank_mem_keys_iff, not_exists, not_and, not_not]
    constructor
    · rintro ⟨hdeclared, -, hpackage, hnone⟩
      exact ⟨names_cleaned f ▸ Spec.nodup_variableNames_iff.1 hdeclared, hpackage, hkeys.1 hnone⟩
    · rintro ⟨hnames, hpackage, hnone⟩
      have hdeclared := Spec.nodup_variableNames_iff.2 (names_cleaned f ▸ hnames)
      exact ⟨hdeclared, hfields, hpackage, hkeys.2 hnone⟩

/-- A blank field is left out, and with it a blank group that holds no other. -/
theorem render_compilable_blank :
    let f : SpecFile := ⟨"model",
      [⟨"User", [⟨"Json", [⟨"ID", "id"⟩, ⟨"_", "-"⟩]⟩, ⟨"_", [⟨"_", "x"⟩]⟩]⟩, ⟨"Empty", []⟩]⟩
    ∃ t, f.render.result = .ok t ∧ t.toList = f.cleaned.text ∧ f.cleaned.Compilable := by
  intro f
  obtain ⟨t, h⟩ := exists_eq_ok_of_isOk (by decide +kernel : f.render.result.isOk = true)
  obtain ⟨ht, -, -, hcompilable⟩ := render_compilable_iff h
  exact ⟨t, h, ht, hcompilable.2 (by decide +kernel)⟩

/-- A spec file is rendered although its names cannot be compiled. -/
def Miscompiles (f : SpecFile) : Prop :=
  (∃ t, f.render.result = .ok t ∧ t.toList = f.cleaned.text) ∧ ¬f.cleaned.Compilable

theorem Miscompiles.of_isOk {f : SpecFile} (h : f.render.result.isOk = true)
    (hnot : ¬f.cleaned.Compilable) : f.Miscompiles := by
  obtain ⟨t, ht⟩ := exists_eq_ok_of_isOk h
  exact ⟨⟨t, ht, (render_eq_ok_iff.1 ht).2⟩, hnot⟩

/-- A blank package, a blank group and a repeated spec are all rendered. -/
theorem render_uncompilable :
    Miscompiles ⟨"_", []⟩ ∧ Miscompiles ⟨"sample", [⟨"P", [⟨"_", [⟨"A", "a"⟩]⟩]⟩]⟩ ∧
      Miscompiles ⟨"sample", [⟨"A", []⟩, ⟨"A", []⟩]⟩ := by
  refine ⟨.of_isOk (by decide +kernel) fun h => ?_, .of_isOk (by decide +kernel) fun h => ?_,
    .of_isOk (by decide +kernel) fun h => ?_⟩
  · exact h.package rfl
  · exact h.keys _ List.mem_cons_self (by decide +kernel)
  · exact absurd h.declared (by decide +kernel)

end SpecFile

end TagSpec
