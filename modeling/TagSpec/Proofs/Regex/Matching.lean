import TagSpec.Regex.Pattern

/-!
# Where patterns match

A pattern matches between two places of a text or it does not: `Matches` says so for each form of
pattern. Main statement: `mem_ends_iff`, by which `ends` finds the places at which a match can end.
-/

namespace TagSpec.Regex

/-- A number of steps of a relation from one place to another. -/
inductive Steps (R : Nat → Nat → Prop) : Nat → Nat → Nat → Prop
  | none {i : Nat} : Steps R 0 i i
  | step {n i j k : Nat} : R i j → Steps R n j k → Steps R (n + 1) i k

/-- The pattern matches the characters between two places. -/
def Pattern.Matches (text : Array Char) : Pattern → Nat → Nat → Prop
  | .empty, i, j => j = i
  | .set s, i, j => (∃ c, text[i]? = some c ∧ s c = true) ∧ j = i + 1
  | .look l, i, j => l.holds (charBefore text i) text[i]? = true ∧ j = i
  | .seq a b, i, k => ∃ j, a.Matches text i j ∧ b.Matches text j k
  | .alt a b, i, j => a.Matches text i j ∨ b.Matches text i j
  | .repeated a least most, i, j =>
    ∃ n, least ≤ n ∧ (∀ m, most = some m → n ≤ m) ∧ Steps (a.Matches text) n i j

/-- The bounds of every repetition are in order. -/
def Pattern.Ordered : Pattern → Prop
  | .seq a b => a.Ordered ∧ b.Ordered
  | .alt a b => a.Ordered ∧ b.Ordered
  | .repeated a least most => a.Ordered ∧ ∀ m, most = some m → least ≤ m
  | _ => True

/-! ## Steps -/

section Steps

variable {R : Nat → Nat → Prop} {step : List Nat → List Nat}

theorem Steps.append {m n i j k : Nat} (h : Steps R m i j) (h' : Steps R n j k) :
    Steps R (m + n) i k := by
  induction h with
  | none => simpa using h'
  | step hr _ ih =>
    rw [Nat.add_right_comm]
    exact .step hr (ih h')

theorem Steps.split {m n i k : Nat} (h : Steps R (m + n) i k) :
    ∃ j, Steps R m i j ∧ Steps R n j k := by
  induction m generalizing i with
  | zero => exact ⟨i, .none, by simpa using h⟩
  | succ m ih =>
    rw [Nat.add_right_comm] at h
    cases h with
    | step hr hrest =>
      obtain ⟨j, hm, hn⟩ := ih hrest
      exact ⟨j, .step hr hm, hn⟩

/-- Steps that lead nowhere can be left out, so that there are no more than places between. -/
theorem Steps.shorten (hmono : ∀ {i j}, R i j → i ≤ j) {n i j : Nat} (h : Steps R n i j) :
    i ≤ j ∧ ∃ m, m ≤ j - i ∧ Steps R m i j := by
  induction h with
  | none => exact ⟨Nat.le_refl _, 0, Nat.zero_le _, .none⟩
  | @step n i j k hr hsteps ih =>
    obtain ⟨hjk, m, hm, hshort⟩ := ih
    have hij := hmono hr
    refine ⟨Nat.le_trans hij hjk, ?_⟩
    by_cases heq : i = j
    · subst heq
      exact ⟨m, hm, hshort⟩
    · exact ⟨m + 1, by omega, .step hr hshort⟩

/-- Where a step changes nothing, no number of steps does. -/
theorem exists_steps_iff_of_fixed {places : List Nat}
    (hstep : ∀ x, x ∈ places ↔ ∃ i ∈ places, R i x) (n x : Nat) :
    (∃ i ∈ places, Steps R n i x) ↔ x ∈ places := by
  induction n generalizing x with
  | zero =>
    constructor
    · rintro ⟨i, hi, ⟨⟩⟩
      exact hi
    · exact fun hx => ⟨x, hx, .none⟩
  | succ n ih =>
    rw [← ih]
    constructor
    · rintro ⟨i, hi, h⟩
      cases h with
      | step hr hrest => exact ⟨_, (hstep _).2 ⟨i, hi, hr⟩, hrest⟩
    · rintro ⟨j, hj, hrest⟩
      obtain ⟨i, hi, hr⟩ := (hstep j).1 hj
      exact ⟨i, hi, .step hr hrest⟩

/-- Applying a step a number of times leads where so many steps lead. -/
theorem mem_times_iff (hstep : ∀ places x, x ∈ step places ↔ ∃ i ∈ places, R i x) (n : Nat)
    (places : List Nat) (x : Nat) :
    x ∈ times step n places ↔ ∃ i ∈ places, Steps R n i x := by
  induction n generalizing places with
  | zero =>
    rw [times]
    constructor
    · exact fun hx => ⟨x, hx, .none⟩
    · rintro ⟨i, hi, ⟨⟩⟩
      exact hi
  | succ n ih =>
    simp only [times]
    split
    · next hfixed =>
      refine (exists_steps_iff_of_fixed (fun x => ?_) (n + 1) x).symm
      rw [← hstep, hfixed]
    · rw [ih]
      constructor
      · rintro ⟨j, hj, hrest⟩
        obtain ⟨i, hi, hr⟩ := (hstep places j).1 hj
        exact ⟨i, hi, .step hr hrest⟩
      · rintro ⟨i, hi, h⟩
        cases h with
        | step hr hrest => exact ⟨_, (hstep places _).2 ⟨i, hi, hr⟩, hrest⟩

/-- What steps from all places but the recent ones lead to has been reached already. -/
theorem mem_upTo_iff (hstep : ∀ places x, x ∈ step places ↔ ∃ i ∈ places, R i x) (n : Nat)
    {reached recent : List Nat} (hrecent : recent ⊆ reached)
    (hdone : ∀ i ∈ reached, i ∈ recent ∨ ∀ x, R i x → x ∈ reached) (x : Nat) :
    x ∈ upTo step n reached recent ↔ ∃ k, k ≤ n ∧ ∃ i ∈ reached, Steps R k i x := by
  induction n generalizing reached recent with
  | zero =>
    rw [upTo]
    constructor
    · exact fun hx => ⟨0, Nat.le_refl 0, x, hx, .none⟩
    · rintro ⟨k, hk, i, hi, h⟩
      cases Nat.le_zero.1 hk
      cases h
      exact hi
  | succ n ih =>
    have hnew : ∀ i ∈ reached, ∀ x, R i x → x ∈ reached ∨ x ∈ without (step recent) reached := by
      intro i hi x hr
      rcases hdone i hi with hi | hall
      · exact mem_or_mem_without ((hstep recent x).2 ⟨i, hi, hr⟩)
      · exact .inl (hall x hr)
    simp only [upTo]
    split
    · next hempty =>
      -- nothing is new, so that no steps lead out of what is reached
      rw [List.isEmpty_iff] at hempty
      have hclosed : ∀ {k i x}, Steps R k i x → i ∈ reached → x ∈ reached := by
        intro k i x h
        induction h with
        | none => exact id
        | step hr _ ih =>
          intro hi
          refine ih ((hnew _ hi _ hr).resolve_right ?_)
          simp [hempty]
      constructor
      · exact fun hx => ⟨0, Nat.zero_le _, x, hx, .none⟩
      · rintro ⟨k, -, i, hi, h⟩
        exact hclosed h hi
    · rw [ih (fun i hi => mem_merge.2 (.inr hi))]
      · constructor
        · rintro ⟨k, hk, i, hi, h⟩
          rcases mem_merge.1 hi with hi | hi
          · exact ⟨k, Nat.le_succ_of_le hk, i, hi, h⟩
          · obtain ⟨j, hj, hr⟩ := (hstep recent i).1 (mem_of_mem_without hi)
            exact ⟨k + 1, Nat.succ_le_succ hk, j, hrecent hj, .step hr h⟩
        · rintro ⟨k, hk, i, hi, h⟩
          cases h with
          | none => exact ⟨0, Nat.zero_le _, x, mem_merge.2 (.inl hi), .none⟩
          | step hr hrest =>
            exact ⟨_, Nat.le_of_succ_le_succ hk, _, mem_merge.2 (hnew i hi _ hr), hrest⟩
      · intro i hi
        rcases mem_merge.1 hi with hi | hi
        · exact .inr fun x hr => mem_merge.2 (hnew i hi x hr)
        · exact .inl hi

end Steps

/-! ## Matches -/

namespace Pattern

variable {text : Array Char}

/-- A match ends behind its beginning or there, and within the text if it is not empty. -/
theorem Matches.bounds {p : Pattern} {i j : Nat} (h : p.Matches text i j) :
    i ≤ j ∧ (i < j → j ≤ text.size) := by
  induction p generalizing i j with
  | empty =>
    cases h
    exact ⟨Nat.le_refl _, fun h => absurd h (Nat.lt_irrefl _)⟩
  | set s =>
    obtain ⟨⟨c, hc, -⟩, rfl⟩ := h
    have hlt := (Array.getElem?_eq_some_iff.1 hc).1
    exact ⟨Nat.le_succ _, fun _ => hlt⟩
  | look l =>
    obtain ⟨-, rfl⟩ := h
    exact ⟨Nat.le_refl _, fun h => absurd h (Nat.lt_irrefl _)⟩
  | seq a b iha ihb =>
    obtain ⟨k, ha, hb⟩ := h
    have hfirst := iha ha
    have hsecond := ihb hb
    omega
  | alt a b iha ihb =>
    rcases h with h | h
    · exact iha h
    · exact ihb h
  | repeated a least most ih =>
    obtain ⟨n, -, -, hsteps⟩ := h
    induction hsteps with
    | none => exact ⟨Nat.le_refl _, fun h => absurd h (Nat.lt_irrefl _)⟩
    | step hr _ ihrest =>
      have hfirst := ih hr
      omega

/-- What matches nothing anywhere is a pattern that may match nothing. -/
theorem Matches.mayBeEmpty {p : Pattern} {i : Nat} (h : p.Matches text i i) :
    p.mayBeEmpty = true := by
  induction p with
  | empty => rfl
  | set s => exact absurd h.2 (Nat.ne_of_lt (Nat.lt_succ_self i))
  | look l => rfl
  | seq a b iha ihb =>
    obtain ⟨k, ha, hb⟩ := h
    obtain rfl : k = i := Nat.le_antisymm hb.bounds.1 ha.bounds.1
    rw [Pattern.mayBeEmpty, iha ha, ihb hb]
    rfl
  | alt a b iha ihb => exact Bool.or_eq_true_iff.2 (h.imp iha ihb)
  | repeated a least most ih =>
    obtain ⟨n, hleast, -, hsteps⟩ := h
    rw [Pattern.mayBeEmpty, Bool.or_eq_true_iff]
    cases hsteps with
    | none => exact .inl (by simpa using hleast)
    | @step n i j k hr hrest =>
      have hback := (hrest.shorten fun h => h.bounds.1).1
      obtain rfl : j = i := Nat.le_antisymm hback hr.bounds.1
      exact .inr (ih hr)

/-- The places at which a match ends are those to which some match leads. -/
theorem mem_ends_iff {p : Pattern} (hp : p.Ordered) (places : List Nat) (j : Nat) :
    j ∈ p.ends text places ↔ ∃ i ∈ places, p.Matches text i j := by
  induction p generalizing places j with
  | empty => simp [ends, Matches]
  | set s =>
    simp only [ends, List.mem_filterMap, Matches]
    constructor
    · rintro ⟨i, hi, h⟩
      split at h
      · next hany =>
        cases h
        obtain ⟨c, hc, hs⟩ := Option.any_eq_true .. |>.1 hany
        exact ⟨i, hi, ⟨c, hc, hs⟩, rfl⟩
      · cases h
    · rintro ⟨i, hi, ⟨c, hc, hs⟩, rfl⟩
      exact ⟨i, hi, by simp [hc, hs]⟩
  | look l =>
    simp only [ends, List.mem_filter, Matches]
    constructor
    · rintro ⟨hj, hl⟩
      exact ⟨j, hj, hl, rfl⟩
    · rintro ⟨i, hi, hl, rfl⟩
      exact ⟨hi, hl⟩
  | seq a b iha ihb =>
    simp only [ends, ihb hp.2, iha hp.1, Matches]
    constructor
    · rintro ⟨k, ⟨i, hi, ha⟩, hb⟩
      exact ⟨i, hi, k, ha, hb⟩
    · rintro ⟨i, hi, k, ha, hb⟩
      exact ⟨k, ⟨i, hi, ha⟩, hb⟩
  | alt a b iha ihb =>
    simp only [ends, mem_merge, iha hp.1, ihb hp.2, Matches]
    constructor
    · rintro (⟨i, hi, h⟩ | ⟨i, hi, h⟩)
      · exact ⟨i, hi, .inl h⟩
      · exact ⟨i, hi, .inr h⟩
    · rintro ⟨i, hi, h | h⟩
      · exact .inl ⟨i, hi, h⟩
      · exact .inr ⟨i, hi, h⟩
  | repeated a least most ih =>
    have hstep := ih hp.1
    have hupTo (n : Nat) := mem_upTo_iff hstep n (List.Subset.refl (times (a.ends text) least places))
      (fun i hi => .inl hi) j
    simp only [ends, Matches]
    cases most with
    | none =>
      simp only [hupTo, mem_times_iff hstep]
      constructor
      · rintro ⟨k, -, i, ⟨h, hh, hleast⟩, hmore⟩
        exact ⟨h, hh, least + k, Nat.le_add_right _ _, nofun, hleast.append hmore⟩
      · rintro ⟨h, hh, n, hn, -, hsteps⟩
        obtain ⟨k, rfl⟩ := Nat.exists_eq_add_of_le hn
        obtain ⟨i, hleast, hmore⟩ := hsteps.split
        obtain ⟨-, m, hm, hshort⟩ := hmore.shorten fun h => h.bounds.1
        have hbounds : (repeated a 0 none).Matches text i j := ⟨k, Nat.zero_le _, nofun, hmore⟩
        have hsize := hbounds.bounds.2
        exact ⟨m, by omega, i, ⟨h, hh, hleast⟩, hshort⟩
    | some m =>
      have hm := hp.2 m rfl
      simp only [hupTo, mem_times_iff hstep]
      constructor
      · rintro ⟨k, hk, i, ⟨h, hh, hleast⟩, hmore⟩
        refine ⟨h, hh, least + k, Nat.le_add_right _ _, ?_, hleast.append hmore⟩
        rintro _ ⟨⟩
        omega
      · rintro ⟨h, hh, n, hn, hmost, hsteps⟩
        obtain ⟨k, rfl⟩ := Nat.exists_eq_add_of_le hn
        obtain ⟨i, hleast, hmore⟩ := hsteps.split
        have hle := hmost m rfl
        exact ⟨k, by omega, i, ⟨h, hh, hleast⟩, hmore⟩

/-- A pattern is found in a text exactly if it matches between two of its places. -/
theorem isMatch_iff {p : Pattern} (hp : p.Ordered) (text : List Char) :
    p.isMatch text = true ↔ ∃ i j, i ≤ text.length ∧ p.Matches text.toArray i j := by
  rw [isMatch, Bool.not_eq_true', List.isEmpty_eq_false_iff_exists_mem]
  simp only [mem_ends_iff hp, List.mem_range]
  constructor
  · rintro ⟨j, i, hi, h⟩
    exact ⟨i, j, Nat.le_of_lt_succ hi, h⟩
  · rintro ⟨i, j, hi, h⟩
    exact ⟨j, i, Nat.lt_succ_of_le hi, h⟩

end Pattern

end TagSpec.Regex
