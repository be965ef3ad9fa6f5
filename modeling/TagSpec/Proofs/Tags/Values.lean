import Mathlib.Data.List.Induction
import TagSpec.Proofs.Text.Pieces
import TagSpec.Tags.Reading

/-!
# The tags of pairs

What becomes of pairs that are put one after another: each key stands where it first appeared and has
the value of its last pair.
-/

namespace TagSpec.Tags

/-- The value that a pair gives a key: the text of its bytes, cut at every comma. -/
def Pair.Denotes (p : Pair) (v : TagValue) : Prop :=
  (v.name :: v.options).map String.toList = (Utf8.decodeLossy p.bytes).splitOn ','

/-- The tags of pairs: the keys in the order of their first pairs, each with the value of its last
pair. -/
structure Holds (t : Tags) (ps : List Pair) : Prop where
  keys : t.keys = (ps.map fun p => String.ofList p.key).eraseDups
  last : ∀ before p after, ps = before ++ p :: after → (∀ q ∈ after, q.key ≠ p.key) →
    ∃ v, t.get? (String.ofList p.key) = some v ∧ p.Denotes v

theorem Pair.denotes_iff {p : Pair} {v : TagValue} : p.Denotes v ↔ v = p.entry.2 := by
  obtain ⟨name, options⟩ := v
  unfold Denotes entry valueOf
  rw [← pieces_eq_splitOn]
  cases hp : pieces ',' (Utf8.decodeLossy p.bytes) with
  | nil => exact absurd hp (pieces_ne_nil _ _)
  | cons q qs =>
    simp only [List.map_cons, List.cons.injEq, TagValue.mk.injEq]
    constructor
    · rintro ⟨rfl, rfl⟩
      simp
    · rintro ⟨rfl, rfl⟩
      simp [Function.comp_def]

theorem ofList_append_singleton (es : List (String × TagValue)) (e : String × TagValue) :
    ofList (es ++ [e]) = (ofList es).insert e.1 e.2 := by
  simp [ofList]

/-- The keys are those of the list, each where it comes first. -/
theorem keys_ofList (es : List (String × TagValue)) :
    (ofList es).keys = (es.map Prod.fst).eraseDups := by
  induction es using List.reverseRecOn with
  | nil => rfl
  | append_singleton es e ih =>
    rw [ofList_append_singleton, keys, entries_insert, keys_put]
    rw [keys] at ih
    rw [ih, List.map_append, List.map_singleton, List.eraseDups_append]
    by_cases h : e.1 ∈ es.map Prod.fst
    · simp only [List.mem_eraseDups, if_pos h]
      simp [List.removeAll, h]
    · simp only [List.mem_eraseDups, if_neg h]
      simp [List.removeAll, h, List.eraseDups_cons]

theorem lookup_put (key : String) (value : TagValue) (es : List (String × TagValue))
    (k : String) : (put key value es).lookup k = if k = key then some value else es.lookup k := by
  induction es with
  | nil =>
    by_cases h : k = key
    · simp [put, h]
    · simp [put, h, List.lookup_cons, beq_eq_false_iff_ne.2 h]
  | cons e es ih =>
    obtain ⟨k', v⟩ := e
    rw [put]
    split
    · next h =>
      subst h
      by_cases hk : k = k'
      · simp [hk]
      · simp [List.lookup_cons, beq_eq_false_iff_ne.2 hk, hk]
    · next h =>
      by_cases hk : k = k'
      · subst hk
        simp [h]
      · simp [List.lookup_cons, beq_eq_false_iff_ne.2 hk, ih]

/-- Under a key lies the last value that the list has for it. -/
theorem get?_ofList (es : List (String × TagValue)) (k : String) :
    (ofList es).get? k = es.reverse.lookup k := by
  induction es using List.reverseRecOn with
  | nil => rfl
  | append_singleton es e ih =>
    rw [ofList_append_singleton, get?, entries_insert, lookup_put]
    rw [get?] at ih
    obtain ⟨key, value⟩ := e
    rw [ih, List.reverse_append, List.reverse_singleton, List.singleton_append]
    by_cases h : k = key
    · simp [h]
    · simp [h, List.lookup_cons, beq_eq_false_iff_ne.2 h]

/-- Tags are known by their keys and by the value of each. -/
theorem ext_get? {t u : Tags} (hkeys : t.keys = u.keys)
    (h : ∀ k ∈ t.keys, t.get? k = u.get? k) : t = u := by
  obtain ⟨es, hes⟩ := t
  obtain ⟨fs, hfs⟩ := u
  simp only [keys, get?] at hkeys h
  refine Tags.ext ?_
  show es = fs
  clear hfs
  induction es generalizing fs with
  | nil => simpa using hkeys.symm
  | cons e es ih =>
    cases fs with
    | nil => simp at hkeys
    | cons f fs =>
      obtain ⟨k, v⟩ := e
      obtain ⟨k', v'⟩ := f
      simp only [List.map_cons, List.cons.injEq] at hkeys
      obtain ⟨rfl, hkeys⟩ := hkeys
      rw [List.map_cons, List.nodup_cons] at hes
      have hv := h k (by simp)
      simp only [List.lookup_cons_self, Option.some.injEq] at hv
      have htail : es = fs := by
        refine ih hes.2 fs hkeys fun j hj => ?_
        have hne : j ≠ k := by
          rintro rfl
          exact hes.1 hj
        simpa [List.lookup_cons, beq_eq_false_iff_ne.2 hne] using h j (by simp [hj])
      rw [hv, htail]

/-- Among the pairs with one key there is a last one. -/
theorem exists_last {ps : List Pair} {p : Pair} (h : p ∈ ps) :
    ∃ before q after, ps = before ++ q :: after ∧ q.key = p.key ∧ ∀ r ∈ after, r.key ≠ q.key := by
  induction ps using List.reverseRecOn with
  | nil => cases h
  | append_singleton ps q ih =>
    by_cases hkey : q.key = p.key
    · exact ⟨ps, q, [], rfl, hkey, by simp⟩
    · have hp : p ∈ ps := by
        rcases List.mem_append.1 h with hp | hp
        · exact hp
        · rw [List.mem_singleton] at hp
          exact absurd (congrArg Pair.key hp.symm) hkey
      obtain ⟨before, q', after, rfl, hq', hafter⟩ := ih hp
      refine ⟨before, q', after ++ [q], by simp, hq', fun r hr => ?_⟩
      rcases List.mem_append.1 hr with hr | hr
      · exact hafter r hr
      · rw [List.mem_singleton.1 hr, hq']
        exact hkey

/-- The value of a key is that of the last pair with the key. -/
theorem get?_ofList_last {before after : List Pair} {p : Pair}
    (h : ∀ q ∈ after, q.key ≠ p.key) :
    (ofList ((before ++ p :: after).map Pair.entry)).get? (String.ofList p.key) =
      some p.entry.2 := by
  have hafter : (after.map Pair.entry).reverse.lookup (String.ofList p.key) = none := by
    rw [List.lookup_eq_none_iff]
    intro e he
    obtain ⟨q, hq, rfl⟩ := List.mem_map.1 (List.mem_reverse.1 he)
    rw [bne_iff_ne]
    exact fun heq => h q hq (String.ofList_injective heq).symm
  have hp : (p.entry :: (before.map Pair.entry).reverse).lookup (String.ofList p.key) =
      some p.entry.2 := List.lookup_cons_self
  rw [get?_ofList, List.map_append, List.map_cons, List.reverse_append, List.reverse_cons,
    List.append_assoc, List.lookup_append, hafter, List.singleton_append, hp]
  rfl

/-- The tags of pairs are those that are made of them one by one. -/
theorem holds_iff {t : Tags} {ps : List Pair} : t.Holds ps ↔ t = ofList (ps.map Pair.entry) := by
  have hkeys : (ofList (ps.map Pair.entry)).keys =
      (ps.map fun p => String.ofList p.key).eraseDups := by
    rw [keys_ofList, List.map_map]
    rfl
  constructor
  · intro h
    refine ext_get? (h.keys.trans hkeys.symm) fun k hk => ?_
    rw [h.keys, List.mem_eraseDups, List.mem_map] at hk
    obtain ⟨p, hp, rfl⟩ := hk
    obtain ⟨before, q, after, rfl, hq, hafter⟩ := exists_last hp
    obtain ⟨v, hv, hdenotes⟩ := h.last before q after rfl hafter
    rw [← hq, hv, get?_ofList_last hafter, Pair.denotes_iff.1 hdenotes]
  · rintro rfl
    refine ⟨hkeys, ?_⟩
    rintro before p after rfl hafter
    exact ⟨p.entry.2, get?_ofList_last hafter, Pair.denotes_iff.2 rfl⟩

end TagSpec.Tags
