import Mathlib.Data.List.Forall2

/-!
# Outcomes of lists of steps

What is done for each item of a list comes to a result exactly if all the items do, and otherwise fails
as the first item does that fails.
-/

namespace TagSpec

variable {ε α β : Type} {f : α → Except ε β} {as : List α}

/-- Everything in a list succeeds if and only if each of its elements does. -/
theorem mapM_eq_ok_iff {bs : List β} :
    as.mapM f = .ok bs ↔ List.Forall₂ (fun a b => f a = .ok b) as bs := by
  induction as generalizing bs with
  | nil => cases bs <;> simp [pure, Except.pure]
  | cons a as ih =>
    rw [List.mapM_cons]
    cases ha : f a with
    | error e => cases bs <;> simp [bind, Except.bind, ha]
    | ok b =>
      cases has : as.mapM f with
      | error e => cases bs <;> simp [bind, Except.bind, ← ih, has, ha]
      | ok cs => cases bs <;> simp [bind, Except.bind, pure, Except.pure, ← ih, has, ha]

/-- There is a list of results exactly if there is a result for each item. -/
theorem exists_forall₂_iff {R : α → β → Prop} :
    (∃ bs, List.Forall₂ R as bs) ↔ ∀ a ∈ as, ∃ b, R a b := by
  induction as with
  | nil => exact iff_of_true ⟨[], .nil⟩ nofun
  | cons a as ih =>
    rw [List.forall_mem_cons, ← ih]
    constructor
    · rintro ⟨_, h | ⟨hab, hrest⟩⟩
      exact ⟨⟨_, hab⟩, _, hrest⟩
    · rintro ⟨⟨b, hab⟩, bs, hrest⟩
      exact ⟨b :: bs, .cons hab hrest⟩

/-- A list fails as the first of its elements that does. -/
theorem mapM_eq_error_iff {e : ε} :
    as.mapM f = .error e ↔ ∃ front a back, as = front ++ a :: back ∧
      (∀ x ∈ front, ∃ b, f x = .ok b) ∧ f a = .error e := by
  induction as with
  | nil => simp [pure, Except.pure]
  | cons a as ih =>
    rw [List.mapM_cons]
    constructor
    · intro h
      cases ha : f a with
      | error e' =>
        rw [ha] at h
        cases h
        exact ⟨[], a, as, rfl, nofun, ha⟩
      | ok b =>
        cases has : as.mapM f with
        | ok bs =>
          rw [ha, has] at h
          cases h
        | error e' =>
          rw [ha, has] at h
          cases h
          obtain ⟨front, x, back, rfl, hfront, hx⟩ := ih.1 has
          exact ⟨a :: front, x, back, rfl, List.forall_mem_cons.2 ⟨⟨b, ha⟩, hfront⟩, hx⟩
    · rintro ⟨_ | ⟨x, front⟩, y, back, hsame, hfront, hy⟩
      · cases hsame
        rw [hy]
        rfl
      · cases hsame
        obtain ⟨⟨b, hb⟩, hfront⟩ := List.forall_mem_cons.1 hfront
        rw [hb, ih.2 ⟨front, y, back, rfl, hfront, hy⟩]
        rfl

end TagSpec
