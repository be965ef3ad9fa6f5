import TagSpec.Text.Pieces

/-!
# Pieces put together again

`pieces` is the splitting of the library, so cutting and putting together undo each other.
-/

namespace TagSpec

variable {α : Type} [DecidableEq α]

theorem pieces_eq_splitOn (sep : α) (xs : List α) : pieces sep xs = xs.splitOn sep := by
  induction xs with
  | nil => simp [pieces]
  | cons x xs ih =>
    rw [pieces, List.splitOn_cons_eq_if_modifyHead, ih]
    simp only [beq_iff_eq]
    split
    · rfl
    · cases h : xs.splitOn sep with
      | nil => exact absurd h (List.splitOn_ne_nil _ _)
      | cons p ps => rfl

/-- Pieces without the separator in them come back from what they were put together to. -/
theorem pieces_intercalate {sep : α} {ps : List (List α)} (h : ∀ p ∈ ps, sep ∉ p) (hps : ps ≠ []) :
    pieces sep ([sep].intercalate ps) = ps := by
  rw [pieces_eq_splitOn]
  exact List.splitOn_intercalate sep h hps

/-- The pieces with separators between them make the text again. -/
theorem intercalate_pieces (sep : α) (xs : List α) : [sep].intercalate (pieces sep xs) = xs := by
  rw [pieces_eq_splitOn]
  exact List.intercalate_splitOn sep

/-- No piece has the separator in it. -/
theorem not_mem_of_mem_pieces {sep : α} {xs p : List α} (h : p ∈ pieces sep xs) : sep ∉ p := by
  induction xs generalizing p with
  | nil =>
    have hp : p = [] := by simpa [pieces] using h
    simp [hp]
  | cons x xs ih =>
    unfold pieces at h
    split at h
    · rcases List.mem_cons.1 h with rfl | hp
      · exact List.not_mem_nil
      · exact ih hp
    · next hx =>
      split at h
      · next hnil => exact absurd hnil (pieces_ne_nil sep xs)
      · next q qs hq =>
        rcases List.mem_cons.1 h with rfl | hp
        · intro hm
          rcases List.mem_cons.1 hm with rfl | hm
          · exact hx rfl
          · exact ih (hq ▸ List.mem_cons_self) hm
        · exact ih (hq ▸ List.mem_cons_of_mem _ hp)

omit [DecidableEq α] in
/-- What is put together holds nothing but the separators and the pieces. -/
theorem mem_of_mem_intercalate {sep : List α} {ps : List (List α)} {x : α}
    (h : x ∈ sep.intercalate ps) : x ∈ sep ∨ ∃ p ∈ ps, x ∈ p := by
  induction ps with
  | nil => cases h
  | cons p ps ih =>
    cases ps with
    | nil =>
      rw [List.intercalate_singleton] at h
      exact .inr ⟨p, List.mem_cons_self, h⟩
    | cons q qs =>
      rw [List.intercalate_cons_cons, List.append_assoc] at h
      rcases List.mem_append.1 h with hp | h
      · exact .inr ⟨p, List.mem_cons_self, hp⟩
      rcases List.mem_append.1 h with hsep | h
      · exact .inl hsep
      rcases ih h with hsep | ⟨r, hr, hx⟩
      · exact .inl hsep
      · exact .inr ⟨r, List.mem_cons_of_mem p hr, hx⟩

omit [DecidableEq α] in
/-- What is put together from a first part of the pieces begins the whole. -/
theorem intercalate_begins (sep : List α) {ps : List (List α)} (hps : ps ≠ [])
    (qs : List (List α)) : sep.intercalate ps <+: sep.intercalate (ps ++ qs) := by
  induction ps with
  | nil => exact absurd rfl hps
  | cons p ps ih =>
    by_cases h : ps = []
    · subst h
      cases qs with
      | nil => exact List.prefix_rfl
      | cons q qs => exact ⟨sep ++ sep.intercalate (q :: qs), by simp [List.intercalate_cons_cons]⟩
    · rw [List.cons_append, List.intercalate_cons_of_ne_nil h,
        List.intercalate_cons_of_ne_nil (by simp [h])]
      exact (List.prefix_append_right_inj _).2 (ih h)

omit [DecidableEq α] in
/-- The last piece is empty only where the separator stands at the end, or nothing at all. -/
theorem suffix_of_empty_piece {sep : α} {ps : List (List α)} (hps : ps ≠ []) :
    [sep] <:+ [sep].intercalate (ps ++ [[]]) := by
  induction ps with
  | nil => exact absurd rfl hps
  | cons p ps ih =>
    by_cases h : ps = []
    · subst h
      exact ⟨p, by simp [List.intercalate_cons_cons]⟩
    · rw [List.cons_append, List.intercalate_cons_of_ne_nil (by simp)]
      exact (ih h).trans (List.suffix_append _ _)

end TagSpec
