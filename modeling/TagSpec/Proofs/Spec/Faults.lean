import TagSpec.Generation
import TagSpec.Proofs.Spec.Checking

/-!
# Names that are refused

All faults of a spec file in the order of the document, whether they are found by a check or not. Main
statement: `Model.render_exact`, by which a model is rendered exactly if there is none and otherwise
fails with the first of them.
-/

namespace TagSpec

/-! ## The first fault -/

variable {ε α β : Type}

/-- A value if there are no faults, and else the first of them. -/
def unlessFault (faults : List ε) (a : α) : Except ε α :=
  match faults with
  | [] => .ok a
  | fault :: _ => .error fault

theorem unlessFault_eq_error_iff {faults : List ε} {a : α} {e : ε} :
    unlessFault faults a = .error e ↔ faults.head? = some e := by
  cases faults <;> simp [unlessFault]

/-- What is done after another thing adds its faults behind those of the other. -/
theorem unlessFault_bind {r : Except ε α} {k : α → Except ε β} {first second : List ε} {a : α} {b : β}
    (hr : r = unlessFault first a) (hk : k a = unlessFault second b) :
    r.bind k = unlessFault (first ++ second) b := by
  rw [hr]
  cases first with
  | nil => exact hk
  | cons fault faults => rfl

/-! ## All faults -/

/-- What is found for each item of a list and for those before it, one item after another. -/
def collect (f : List α → α → List β) : List α → List α → List β
  | _, [] => []
  | earlier, a :: as => f earlier a ++ collect f (earlier ++ [a]) as

/-- The fault of a name that is no identifier. -/
def nameFaults (role : NameRole) (name : String) : List RenderFault :=
  if Identifier.isValid name then [] else [.notIdentifier role name]

/-- The faults of an entry behind others: its field is no identifier, or it is the field of one of them.
A field that cannot be referred to has none. -/
def Entry.faults (struct group : String) (earlier : List Entry) (e : Entry) : List RenderFault :=
  if e.field = Identifier.blank then []
  else
    nameFaults (.field struct) e.field ++
      if e.field ∈ earlier.map Entry.field then [.repeatedField e.field group struct] else []

/-- The faults of a group behind others: its name is no identifier, or it is the name of one of them,
and then those of its entries. -/
def Group.faults (struct : String) (earlier : List Group) (g : Group) : List RenderFault :=
  nameFaults (.group struct) g.displayName ++
    ((if g.displayName ∈ earlier.map Group.displayName then
        [.repeatedGroup struct g.displayName] else []) ++
      collect (Entry.faults struct g.displayName) [] g.entries)

/-- The faults of a spec: of its name, and of its groups. -/
def Spec.faults (s : Spec) : List RenderFault :=
  nameFaults .struct s.name ++ collect (Group.faults s.name) [] s.groups

/-- The faults of a spec file: of the name of its package, and of its specs. -/
def SpecFile.faults (f : SpecFile) : List RenderFault :=
  nameFaults .package f.package ++ f.specs.flatMap Spec.faults

/-! ## Checks -/

theorem result_checkName (role : NameRole) (name : String) :
    (checkName role name).result = unlessFault (nameFaults role name) () := by
  unfold checkName nameFaults
  split <;> rfl

/-- Entries are kept unless one has a fault; `seen` are the fields of earlier ones that can be referred
to. -/
theorem result_checkEntries (struct group : String) (seen : List String) (earlier es : List Entry)
    (hseen : ∀ n, n ≠ Identifier.blank → (n ∈ seen ↔ n ∈ earlier.map Entry.field)) :
    (checkEntries struct group seen es).result =
      unlessFault (collect (Entry.faults struct group) earlier es) (referable es) := by
  induction es generalizing seen earlier with
  | nil => rfl
  | cons e es ih =>
    rw [checkEntries, collect, Entry.faults]
    by_cases hblank : e.field = Identifier.blank
    · have hskip : referable (e :: es) = referable es := by simp [referable, hblank]
      rw [if_pos hblank, if_pos hblank, Journal.result_bind, Journal.result_report, hskip]
      refine ih seen (earlier ++ [e]) fun n hn => ?_
      rw [hseen n hn, List.map_append, List.mem_append]
      simp [hblank, hn]
    · have hkeep : referable (e :: es) = e :: referable es := by simp [referable, hblank]
      have hrest := ih (e.field :: seen) (earlier ++ [e]) fun n hn => by
        simp [hseen n hn, or_comm]
      rw [if_neg hblank, if_neg hblank, List.append_assoc, hkeep, Journal.result_bind]
      refine unlessFault_bind (result_checkName _ _) ?_
      by_cases hmem : e.field ∈ earlier.map Entry.field
      · rw [if_pos hmem, if_pos (List.contains_iff_mem.2 ((hseen _ hblank).2 hmem))]
        rfl
      · rw [if_neg hmem, if_neg fun h => hmem ((hseen _ hblank).1 (List.contains_iff_mem.1 h)),
          List.nil_append, Journal.result_bind, hrest]
        cases collect (Entry.faults struct group) (earlier ++ [e]) es <;> rfl

/-- Groups are kept unless one has a fault; `seen` are the names of earlier ones. -/
theorem result_checkGroups (struct : String) (seen : List String) (earlier gs : List Group)
    (hseen : ∀ n, n ∈ seen ↔ n ∈ earlier.map Group.displayName) :
    (checkGroups struct seen gs).result =
      unlessFault (collect (Group.faults struct) earlier gs) (cleanedGroups gs) := by
  induction gs generalizing seen earlier with
  | nil => rfl
  | cons g gs ih =>
    have hentries := result_checkEntries struct g.displayName [] [] g.entries fun _ _ => Iff.rfl
    have hrest := ih (g.displayName :: seen) (earlier ++ [g]) fun n => by simp [hseen n, or_comm]
    rw [checkGroups, collect, Group.faults, List.append_assoc, List.append_assoc,
      Journal.result_bind]
    refine unlessFault_bind (result_checkName _ _) ?_
    by_cases hmem : g.displayName ∈ earlier.map Group.displayName
    · rw [if_pos hmem, if_pos (List.contains_iff_mem.2 ((hseen _).2 hmem))]
      rfl
    · rw [if_neg hmem, if_neg fun h => hmem ((hseen _).1 (List.contains_iff_mem.1 h)),
        List.nil_append, Journal.result_bind]
      refine unlessFault_bind hentries ?_
      rw [Journal.result_bind, hrest, cleanedGroups_cons]
      cases collect (Group.faults struct) (earlier ++ [g]) gs <;> rfl

/-- A spec is refused for its first fault, and cleaned if there is none. -/
theorem Spec.result_check (s : Spec) : s.check.result = unlessFault s.faults s.cleaned := by
  rw [check, faults, Journal.result_bind]
  refine unlessFault_bind (result_checkName _ _) ?_
  rw [Journal.result_bind, result_checkGroups s.name [] [] s.groups fun _ => Iff.rfl]
  cases collect (Group.faults s.name) [] s.groups <;> rfl

/-- Specs are refused for the first fault of any of them. -/
theorem result_checkSpecs (ss : List Spec) :
    (checkSpecs ss).result = unlessFault (ss.flatMap Spec.faults) (ss.map Spec.cleaned) := by
  induction ss with
  | nil => rfl
  | cons s ss ih =>
    rw [checkSpecs, List.flatMap_cons, List.map_cons, Journal.result_bind]
    refine unlessFault_bind s.result_check ?_
    rw [Journal.result_bind, ih]
    cases ss.flatMap Spec.faults <;> rfl

/-- A spec file is rendered unless it has a fault. -/
theorem SpecFile.result_render (f : SpecFile) :
    f.render.result = unlessFault f.faults (String.ofList f.cleaned.text) := by
  have hcheck : f.check.result = unlessFault f.faults f.cleaned := by
    rw [check, faults, Journal.result_bind]
    refine unlessFault_bind (result_checkName _ _) ?_
    rw [Journal.result_bind, result_checkSpecs]
    cases f.specs.flatMap Spec.faults <;> rfl
  rw [render, Journal.result_bind, hcheck]
  cases f.faults <;> rfl

/-- A model is rendered exactly if the name of its package and those of its specs are identifiers, and
in each spec the names of groups are different identifiers, and in each group so are the names of the
fields that can be referred to. Otherwise it fails with the first fault in the order of the document.
Groups of which nothing is written are no exception. -/
theorem Model.render_exact (m : Model) :
    ((∃ t, m.render.result = .ok t) ↔ m.file.Accepted) ∧
      ∀ e, m.render.result = .error e ↔
        ∃ fault, m.file.faults.head? = some fault ∧ e = .render fault := by
  refine ⟨?_, fun e => ?_⟩
  · simp only [render, Journal.result_mapError, mapError_eq_ok_iff, SpecFile.render_eq_ok_iff,
      exists_and_left]
    exact and_iff_left ⟨_, String.toList_ofList⟩
  · rw [render, Journal.result_mapError, mapError_eq_error_iff, SpecFile.result_render]
    simp only [unlessFault_eq_error_iff]

/-- Faults of a group of which nothing is written, and of one that repeats its name. -/
example : SpecFile.faults ⟨"model", [⟨"User", [⟨"1", [⟨"_", "-"⟩]⟩, ⟨"1", [⟨"A", "a"⟩, ⟨"A", "b"⟩]⟩]⟩]⟩ =
    [.notIdentifier (.group "User") "1", .notIdentifier (.group "User") "1", .repeatedGroup "User" "1",
      .repeatedField "A" "1" "User"] := by
  decide +kernel

end TagSpec
