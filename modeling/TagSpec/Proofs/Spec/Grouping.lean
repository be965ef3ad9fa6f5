import Mathlib.Data.List.Induction
import TagSpec.Proofs.Sorting
import TagSpec.Spec.Grouping

/-!
# The groups of a struct

What becomes of the tags of a struct, said without gathering them one by one. Main statement:
`Struct.spec_exact`, by which the spec of a struct has one group for each key that is met on the
fields and is asked for, with the fields that carry the key, in the order of the display names and of
the first meetings.
-/

namespace TagSpec

/-! ## What a struct carries -/

/-- The keys of a struct as a walk through the fields and the tags of each meets them. -/
def Struct.walk (s : Struct) : List String := s.fields.flatMap fun f => f.tags.keys

/-- What the tags of a struct say, in the order of the walk: each key with the field that carries it
and the name that it gives to the field. -/
def Struct.carried (s : Struct) : List (String × Entry) :=
  s.fields.flatMap fun f => f.tags.entries.map fun e => (e.1, ⟨f.name, e.2.name⟩)

/-- The fields that carry a key, in declaration order. -/
def Struct.entriesOf (s : Struct) (key : String) : List Entry :=
  s.fields.filterMap fun f => (f.tags.get? key).map fun v => ⟨f.name, v.name⟩

/-- The groups of a struct for the keys that are requested; `keys` are the keys of the groups. -/
structure Struct.Regrouped (s : Struct) (requested keys : List String) (groups : List Group) :
    Prop where
  /-- no two groups are of one key -/
  nodup : keys.Nodup
  /-- there is a group for each key that a field carries and that is asked for, and for no other -/
  mem_iff : ∀ k, k ∈ keys ↔ (∃ f ∈ s.fields, k ∈ f.tags.keys) ∧ (requested ≠ [] → k ∈ requested)
  groups_eq : groups = keys.map fun k => ⟨displayName k, s.entriesOf k⟩
  /-- groups of one display name are in the order in which their keys are met first -/
  ordered : keys.Pairwise fun a b => displayName a < displayName b ∨
    displayName a = displayName b ∧ s.walk.idxOf a < s.walk.idxOf b
  /-- nothing is lost, repeated or moved to another group -/
  kept : ((keys.zip groups).flatMap fun g => g.2.entries.map fun e => (g.1, e)).Perm
    (s.carried.filter fun p => p.1 ∈ keys)
  filled : ∀ g ∈ groups, g.entries ≠ []

theorem Struct.map_fst_carried (s : Struct) : s.carried.map Prod.fst = s.walk := by
  rw [carried, walk, List.map_flatMap]
  congr 1
  funext f
  rw [List.map_map]
  rfl

/-- The walk meets the keys of all fields. -/
theorem Struct.mem_walk {s : Struct} {k : String} : k ∈ s.walk ↔ ∃ f ∈ s.fields, k ∈ f.tags.keys :=
  List.mem_flatMap

/-- Among entries without a repeated key at most one is found under a key. -/
theorem filter_key_entries {es : List (String × TagValue)} (h : (es.map Prod.fst).Nodup)
    (k : String) : es.filter (fun e => e.1 = k) = ((es.lookup k).map fun v => (k, v)).toList := by
  induction es with
  | nil => rfl
  | cons e es ih =>
    obtain ⟨j, v⟩ := e
    rw [List.map_cons, List.nodup_cons] at h
    by_cases hj : j = k
    · subst hj
      have hnone : es.filter (fun e => e.1 = j) = [] := by
        rw [List.filter_eq_nil_iff]
        intro e he hk
        exact h.1 (List.mem_map.2 ⟨e, he, of_decide_eq_true hk⟩)
      simp [hnone]
    · simp [hj, ih h.2, List.lookup_cons, beq_eq_false_iff_ne.2 (Ne.symm hj)]

theorem Struct.entriesOf_eq (s : Struct) (k : String) :
    s.entriesOf k = (s.carried.filter fun p => p.1 = k).map Prod.snd := by
  unfold entriesOf carried
  induction s.fields with
  | nil => rfl
  | cons f fs ih =>
    have hfield := congrArg (List.map fun e => (⟨f.name, e.2.name⟩ : Entry))
      (filter_key_entries f.tags.nodup k)
    rw [List.filterMap_cons, List.flatMap_cons, List.filter_append, List.map_append, ← ih,
      List.filter_map, List.map_map]
    cases hv : f.tags.get? k with
    | none =>
      rw [show f.tags.entries.lookup k = none from hv] at hfield
      exact (congrArg (· ++ _) hfield).symm
    | some v =>
      rw [show f.tags.entries.lookup k = some v from hv] at hfield
      exact (congrArg (· ++ _) hfield).symm

/-- A key that is met has an entry. -/
theorem Struct.entriesOf_ne_nil {s : Struct} {k : String} (h : k ∈ s.walk) : s.entriesOf k ≠ [] := by
  rw [← map_fst_carried] at h
  obtain ⟨p, hp, rfl⟩ := List.mem_map.1 h
  rw [entriesOf_eq]
  intro hnil
  exact List.not_mem_nil (hnil ▸ List.mem_map_of_mem (f := Prod.snd)
    (List.mem_filter.2 ⟨hp, decide_eq_true rfl⟩))

/-! ## Gathering -/

theorem eraseDups_append_singleton (l : List String) (a : String) :
    (l ++ [a]).eraseDups = if a ∈ l then l.eraseDups else l.eraseDups ++ [a] := by
  rw [List.eraseDups_append]
  by_cases h : a ∈ l <;> simp [List.removeAll, h, List.eraseDups_cons]

/-- Without repetitions a list is in the order of first meetings. -/
theorem pairwise_eraseDups (l : List String) :
    l.eraseDups.Pairwise fun a b => l.idxOf a < l.idxOf b := by
  induction l using List.reverseRecOn with
  | nil => exact List.Pairwise.nil
  | append_singleton l c ih =>
    have hold : ∀ a ∈ l, (l ++ [c]).idxOf a = l.idxOf a := fun a ha => by
      rw [List.idxOf_append, if_pos ha]
    have hl : l.eraseDups.Pairwise fun a b => (l ++ [c]).idxOf a < (l ++ [c]).idxOf b := by
      refine ih.imp_of_mem fun {a b} ha hb hlt => ?_
      rwa [hold a (List.mem_eraseDups.1 ha), hold b (List.mem_eraseDups.1 hb)]
    rw [eraseDups_append_singleton]
    split
    · exact hl
    · next hc =>
      refine List.pairwise_append.2 ⟨hl, List.pairwise_singleton _ _, fun a ha b hb => ?_⟩
      rw [List.mem_singleton.1 hb, hold a (List.mem_eraseDups.1 ha), List.idxOf_append, if_neg hc]
      exact Nat.lt_of_lt_of_le (List.idxOf_lt_length_of_mem (List.mem_eraseDups.1 ha))
        (Nat.le_add_left _ _)

theorem nodup_eraseDups (l : List String) : l.eraseDups.Nodup := by
  refine (pairwise_eraseDups l).imp fun {a b} hlt heq => ?_
  rw [heq] at hlt
  exact Nat.lt_irrefl _ hlt

namespace Gathered

/-- An entry under a key that is not there comes last. -/
theorem add_of_notMem {key : String} {gs : Gathered} (h : key ∉ gs.map Prod.fst) (e : Entry) :
    add key e gs = gs ++ [(key, [e])] := by
  induction gs with
  | nil => rfl
  | cons g gs ih =>
    obtain ⟨k, es⟩ := g
    rw [List.map_cons, List.mem_cons, not_or] at h
    rw [add, if_neg (Ne.symm h.1), ih h.2, List.cons_append]

/-- An entry under a key that is there comes behind those of the key. -/
theorem add_of_mem {key : String} {keys : List String} (hnodup : keys.Nodup) (h : key ∈ keys)
    (under : String → List Entry) (e : Entry) :
    add key e (keys.map fun k => (k, under k)) =
      keys.map fun k => (k, under k ++ if k = key then [e] else []) := by
  induction keys with
  | nil => cases h
  | cons k keys ih =>
    rw [List.nodup_cons] at hnodup
    rw [List.map_cons, List.map_cons, add]
    by_cases hk : k = key
    · subst hk
      have hrest : ∀ j ∈ keys, (j, under j) = (j, under j ++ if j = k then [e] else []) := by
        intro j hj
        have hne : j ≠ k := fun heq => hnodup.1 (heq ▸ hj)
        rw [if_neg hne, List.append_nil]
      rw [if_pos rfl, if_pos rfl, List.map_congr_left hrest]
    · have hmem : key ∈ keys := (List.mem_cons.1 h).resolve_left (Ne.symm hk)
      rw [if_neg hk, if_neg hk, List.append_nil, ih hnodup.2 hmem]

/-- What is gathered one by one: each key once, with its entries in the order in which they came. -/
theorem foldl_add (ps : List (String × Entry)) :
    ps.foldl (fun gs p => add p.1 p.2 gs) [] =
      (ps.map Prod.fst).eraseDups.map fun k => (k, (ps.filter fun p => p.1 = k).map Prod.snd) := by
  induction ps using List.reverseRecOn with
  | nil => rfl
  | append_singleton ps p ih =>
    obtain ⟨key, e⟩ := p
    have hunder : ∀ k, (((ps ++ [(key, e)]).filter fun p => p.1 = k).map Prod.snd) =
        (ps.filter fun p => p.1 = k).map Prod.snd ++ if k = key then [e] else [] := by
      intro k
      rw [List.filter_append, List.map_append]
      by_cases hk : k = key
      · simp [hk]
      · simp [hk, Ne.symm hk]
    simp only [hunder]
    rw [List.foldl_append, ih, List.map_append, List.map_singleton, eraseDups_append_singleton]
    simp only [List.foldl_cons, List.foldl_nil]
    split
    · next hmem => exact add_of_mem (nodup_eraseDups _) (List.mem_eraseDups.2 hmem) _ e
    · next hmem =>
      have hnew : ∀ k ∈ (ps.map Prod.fst).eraseDups,
          (k, (ps.filter fun p => p.1 = k).map Prod.snd ++ if k = key then [e] else []) =
            (k, (ps.filter fun p => p.1 = k).map Prod.snd) := by
        intro k hk
        have hne : k ≠ key := fun heq => hmem (heq ▸ List.mem_eraseDups.1 hk)
        rw [if_neg hne, List.append_nil]
      have hnone : (ps.filter fun p => p.1 = key) = [] := by
        rw [List.filter_eq_nil_iff]
        intro p hp hk
        exact hmem (List.mem_map.2 ⟨p, hp, of_decide_eq_true hk⟩)
      rw [add_of_notMem (by simpa using hmem), List.map_append, List.map_congr_left hnew,
        List.map_singleton, hnone, if_pos rfl]
      rfl

end Gathered

/-- The keys of a struct are gathered in the order of first meetings, each with its fields. -/
theorem Struct.gathered_eq (s : Struct) :
    s.gathered = s.walk.eraseDups.map fun k => (k, s.entriesOf k) := by
  have hfold : s.gathered = s.carried.foldl (fun gs p => Gathered.add p.1 p.2 gs) [] := by
    rw [gathered, carried, List.foldl_flatMap]
    congr 1
    funext gs f
    rw [List.foldl_map]
    rfl
  rw [hfold, Gathered.foldl_add, map_fst_carried]
  exact List.map_congr_left fun k _ => by rw [entriesOf_eq]

/-! ## The spec -/

/-- What is carried is parted among the keys that it is carried under. -/
theorem flatMap_filter_perm {keys : List String} (h : keys.Nodup) (ps : List (String × Entry)) :
    (keys.flatMap fun k => ps.filter fun p => p.1 = k).Perm (ps.filter fun p => p.1 ∈ keys) := by
  induction keys with
  | nil => simp
  | cons k keys ih =>
    rw [List.nodup_cons] at h
    have hparts := List.filter_append_perm (fun p => decide (p.1 = k))
      (ps.filter fun p => p.1 ∈ k :: keys)
    have hfirst : (ps.filter fun p => p.1 ∈ k :: keys).filter (fun p => p.1 = k) =
        ps.filter fun p => p.1 = k := by
      rw [List.filter_filter]
      refine List.filter_congr fun p _ => ?_
      by_cases hp : p.1 = k <;> simp [hp]
    have hrest : (ps.filter fun p => p.1 ∈ k :: keys).filter (fun p => !decide (p.1 = k)) =
        ps.filter fun p => p.1 ∈ keys := by
      rw [List.filter_filter]
      refine List.filter_congr fun p _ => ?_
      by_cases hp : p.1 = k
      · simp [hp, h.1]
      · simp [hp]
    rw [hfirst, hrest] at hparts
    exact ((ih h.2).append_left _).trans hparts

/-- Every key is requested where none is. -/
theorem isRequested_iff {requested : List String} {k : String} :
    isRequested requested k = true ↔ (requested ≠ [] → k ∈ requested) := by
  cases requested <;> simp [isRequested]

/-- The keys of the groups of a struct, group by group. -/
def Struct.groupKeys (requested : List String) (s : Struct) : List String :=
  (s.walk.eraseDups.filter (isRequested requested)).mergeSort
    fun a b => decide (displayName a ≤ displayName b)

/-- The groups of a spec are those of its keys, each with the fields that carry the key. -/
theorem Struct.groups_spec (requested : List String) (s : Struct) :
    (s.spec requested).groups =
      (s.groupKeys requested).map fun k => ⟨displayName k, s.entriesOf k⟩ := by
  rw [spec, groupKeys, gathered_eq, List.filter_map, List.map_map]
  refine (List.map_mergeSort fun a _ b _ => ?_).symm
  rfl

/-- There are groups for the keys that are carried and requested. -/
theorem Struct.mem_groupKeys {requested : List String} {s : Struct} {k : String} :
    k ∈ s.groupKeys requested ↔ k ∈ s.walk ∧ (requested ≠ [] → k ∈ requested) := by
  rw [groupKeys, List.mem_mergeSort, List.mem_filter, List.mem_eraseDups, isRequested_iff]

/-- The keys are in the order of their display names, and of their first meetings where the display
names are equal. -/
theorem Struct.pairwise_groupKeys (requested : List String) (s : Struct) :
    (s.groupKeys requested).Pairwise fun a b => displayName a < displayName b ∨
      displayName a = displayName b ∧ s.walk.idxOf a < s.walk.idxOf b := by
  have hmet : (s.walk.eraseDups.filter (isRequested requested)).Pairwise
      fun a b => s.walk.idxOf a < s.walk.idxOf b := (pairwise_eraseDups _).filter _
  have hsorted := @pairwise_mergeSort_of_pairwise _
    (fun a b => decide (displayName a ≤ displayName b))
    (fun a b c hab hbc => decide_eq_true
      (String.le_trans (of_decide_eq_true hab) (of_decide_eq_true hbc)))
    (fun a b => by simpa using String.le_total (displayName a) (displayName b)) _ _ hmet
  refine hsorted.imp fun {a b} h => ?_
  obtain ⟨hle, hstable⟩ := h
  by_cases hba : displayName b ≤ displayName a
  · exact .inr ⟨String.le_antisymm (of_decide_eq_true hle) hba, hstable (decide_eq_true hba)⟩
  · exact .inl (String.not_le.1 hba)

theorem Struct.nodup_groupKeys (requested : List String) (s : Struct) :
    (s.groupKeys requested).Nodup :=
  (List.mergeSort_perm _ _).nodup_iff.2 ((nodup_eraseDups _).filter _)

/-- The spec of a struct regroups what its fields carry. -/
theorem Struct.regrouped_spec (requested : List String) (s : Struct) :
    s.Regrouped requested (s.groupKeys requested) (s.spec requested).groups where
  nodup := s.nodup_groupKeys requested
  mem_iff k := by rw [mem_groupKeys, mem_walk]
  groups_eq := s.groups_spec requested
  ordered := s.pairwise_groupKeys requested
  kept := by
    have hcarried : ∀ k, ((s.entriesOf k).map fun e => (k, e)) =
        s.carried.filter fun p => p.1 = k := by
      intro k
      rw [entriesOf_eq, List.map_map]
      refine (List.map_congr_left fun p hp => ?_).trans (List.map_id _)
      have hk : p.1 = k := by simpa using (List.mem_filter.1 hp).2
      simp [← hk]
    have hzip : ((s.groupKeys requested).zip (s.spec requested).groups).flatMap
        (fun g => g.2.entries.map fun e => (g.1, e)) =
          (s.groupKeys requested).flatMap fun k => s.carried.filter fun p => p.1 = k := by
      rw [groups_spec, List.zip, List.zipWith_map_right, List.zipWith_self, List.flatMap_map]
      simp only [hcarried]
    rw [hzip]
    exact flatMap_filter_perm (s.nodup_groupKeys requested) s.carried
  filled g hg := by
    rw [groups_spec] at hg
    obtain ⟨k, hk, rfl⟩ := List.mem_map.1 hg
    exact entriesOf_ne_nil (mem_groupKeys.1 hk).1

/-- There is one way to regroup what the fields of a struct carry. -/
theorem Struct.Regrouped.unique {s : Struct} {requested keys keys' : List String}
    {groups groups' : List Group} (h : s.Regrouped requested keys groups)
    (h' : s.Regrouped requested keys' groups') : groups = groups' := by
  have hperm : keys.Perm keys' := (List.perm_ext_iff_of_nodup h.nodup h'.nodup).2
    fun k => (h.mem_iff k).trans (h'.mem_iff k).symm
  have hkeys : keys = keys' := by
    refine hperm.eq_of_pairwise (fun a b _ _ hab hba => ?_) h.ordered h'.ordered
    rcases hab with hlt | ⟨heq, hmet⟩
    · rcases hba with hlt' | ⟨heq', -⟩
      · exact absurd hlt' (String.lt_asymm hlt)
      · exact absurd (heq' ▸ hlt) (String.lt_irrefl _)
    · rcases hba with hlt' | ⟨-, hmet'⟩
      · exact absurd (heq ▸ hlt') (String.lt_irrefl _)
      · exact absurd hmet' (Nat.lt_asymm hmet)
  rw [h.groups_eq, h'.groups_eq, hkeys]

/-- The spec of a struct has its name, and regroups what its fields carry. -/
theorem Struct.spec_exact (requested : List String) (s : Struct) (sp : Spec) :
    s.spec requested = sp ↔ sp.name = s.name ∧ ∃ keys, s.Regrouped requested keys sp.groups := by
  constructor
  · rintro rfl
    exact ⟨rfl, _, s.regrouped_spec requested⟩
  · rintro ⟨hname, keys, h⟩
    have hgroups := (s.regrouped_spec requested).unique h
    obtain ⟨name, groups⟩ := sp
    exact congrArg₂ Spec.mk hname.symm hgroups

end TagSpec
