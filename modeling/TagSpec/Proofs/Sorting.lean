/-!
# Stable sorting

A stable sort keeps elements that are equal in its order as they stand, and it does not care whether
part of a list is left out before it or after it.
-/

namespace TagSpec

variable {α : Type} {le : α → α → Bool}

/-- Of two lists with an element between elements that do not stand behind it and elements that do,
the one is known from the other. -/
private theorem eq_of_append_eq_append {a : α} {l₁ l₂ m₁ m₂ : List α} (h : l₁ ++ l₂ = m₁ ++ m₂)
    (hl₁ : ∀ b ∈ l₁, le a b = false) (hl₂ : ∀ b ∈ l₂, le a b = true)
    (hm₁ : ∀ b ∈ m₁, le a b = false) (hm₂ : ∀ b ∈ m₂, le a b = true) : l₁ = m₁ ∧ l₂ = m₂ := by
  have hno : ∀ l : List α, (∀ b ∈ l, le a b = false) →
      l.filter (le a) = [] ∧ l.filter (fun b => !le a b) = l := by
    intro l hl
    exact ⟨List.filter_eq_nil_iff.2 (by simpa using hl), List.filter_eq_self.2 (by simpa using hl)⟩
  have hyes : ∀ l : List α, (∀ b ∈ l, le a b = true) →
      l.filter (le a) = l ∧ l.filter (fun b => !le a b) = [] := by
    intro l hl
    exact ⟨List.filter_eq_self.2 hl, List.filter_eq_nil_iff.2 (by simpa using hl)⟩
  have hbehind := congrArg (List.filter (le a)) h
  have hbefore := congrArg (List.filter fun b => !le a b) h
  rw [List.filter_append, List.filter_append, (hno l₁ hl₁).1, (hno m₁ hm₁).1, (hyes l₂ hl₂).1,
    (hyes m₂ hm₂).1] at hbehind
  rw [List.filter_append, List.filter_append, (hno l₁ hl₁).2, (hno m₁ hm₁).2, (hyes l₂ hl₂).2,
    (hyes m₂ hm₂).2] at hbefore
  exact ⟨by simpa using hbefore, by simpa using hbehind⟩

/-- In a sorted list with the new element between the two parts, the second part stands behind
it. -/
private theorem le_of_mem_behind (trans : ∀ a b c, le a b → le b c → le a c)
    (total : ∀ a b, le a b || le b a) {a : α} {l l₁ l₂ : List α}
    (h : (a :: l).mergeSort le = l₁ ++ a :: l₂) : ∀ b ∈ l₂, le a b = true := by
  have hsorted := List.pairwise_mergeSort trans total (a :: l)
  rw [h, List.pairwise_append, List.pairwise_cons] at hsorted
  exact hsorted.2.1.1

/-- Elements that are equal in the order of the sort stay in the order in which they were. -/
theorem pairwise_mergeSort_of_pairwise (trans : ∀ a b c, le a b → le b c → le a c)
    (total : ∀ a b, le a b || le b a) {r : α → α → Prop} {l : List α} (h : l.Pairwise r) :
    (l.mergeSort le).Pairwise fun a b => le a b = true ∧ (le b a = true → r a b) := by
  induction h with
  | nil => simp
  | @cons a l ha _ ih =>
    obtain ⟨l₁, l₂, hcons, htail, hbefore⟩ := List.mergeSort_cons trans total a l
    have hbehind := le_of_mem_behind trans total hcons
    rw [htail, List.pairwise_append] at ih
    obtain ⟨ih₁, ih₂, ih₁₂⟩ := ih
    have hfirst : ∀ b ∈ l₁, le b a = true ∧ (le a b = true → r b a) := by
      intro b hb
      have hno : le a b = false := by simpa using hbefore b hb
      exact ⟨by simpa [hno] using total a b, fun hle => by simp [hno] at hle⟩
    have hsecond : ∀ b ∈ l₂, le a b = true ∧ (le b a = true → r a b) := by
      intro b hb
      have hmem : b ∈ l := List.mem_mergeSort.1 (htail ▸ List.mem_append_right l₁ hb)
      exact ⟨hbehind b hb, fun _ => ha b hmem⟩
    rw [hcons, List.pairwise_append]
    refine ⟨ih₁, List.pairwise_cons.2 ⟨hsecond, ih₂⟩, fun b hb c hc => ?_⟩
    rcases List.mem_cons.1 hc with rfl | hc
    · exact hfirst b hb
    · exact ih₁₂ b hb c hc

/-- It is the same to sort and to leave some out, or the other way round. -/
theorem filter_mergeSort (trans : ∀ a b c, le a b → le b c → le a c)
    (total : ∀ a b, le a b || le b a) (keep : α → Bool) (l : List α) :
    (l.mergeSort le).filter keep = (l.filter keep).mergeSort le := by
  induction l with
  | nil => simp
  | cons a l ih =>
    obtain ⟨l₁, l₂, hcons, htail, hbefore⟩ := List.mergeSort_cons trans total a l
    have hbehind := le_of_mem_behind trans total hcons
    rw [hcons, List.filter_append]
    rw [htail, List.filter_append] at ih
    cases hk : keep a with
    | false => simpa [hk] using ih
    | true =>
      rw [List.filter_cons_of_pos hk, List.filter_cons_of_pos hk]
      obtain ⟨m₁, m₂, hcons', htail', hbefore'⟩ :=
        List.mergeSort_cons trans total a (l.filter keep)
      have hbehind' := le_of_mem_behind trans total hcons'
      have hparts := eq_of_append_eq_append (a := a) (ih.trans htail')
        (fun b hb => by simpa using hbefore b (List.mem_filter.1 hb).1)
        (fun b hb => hbehind b (List.mem_filter.1 hb).1)
        (fun b hb => by simpa using hbefore' b hb) hbehind'
      rw [hcons', hparts.1, hparts.2]

end TagSpec
