import Mathlib.Data.List.Basic
import Mathlib.Data.List.TakeWhile
import TagSpec.Source.Lexing

/-!
# Where a scan ends

What a scan finds at the start of a text hardly depends on what is behind the text. A longest run of
characters is another one only if it goes on there: `Scans`. What has an end of its own is the same
whatever is there: `Settles`.
-/

namespace TagSpec.Source

/-! ## Lengths -/

/-- A text begins with so many characters of a kind. -/
structure Run (ok : Char → Bool) (n : Nat) (cs : List Char) : Prop where
  le : n ≤ cs.length
  chars : ∀ c ∈ cs.take n, ok c = true

namespace Run

variable {ok ok' : Char → Bool} {n m : Nat} {c : Char} {cs : List Char}

theorem zero (cs : List Char) : Run ok 0 cs := ⟨Nat.zero_le _, by simp⟩

theorem cons (hc : ok c = true) (h : Run ok n cs) : Run ok (n + 1) (c :: cs) := by
  refine ⟨Nat.succ_le_succ h.le, ?_⟩
  rw [List.take_succ_cons]
  exact List.forall_mem_cons.2 ⟨hc, h.chars⟩

theorem add (h : Run ok n cs) (h' : Run ok m (cs.drop n)) : Run ok (n + m) cs := by
  have hle := h'.le
  rw [List.length_drop] at hle
  refine ⟨by have := h.le; omega, fun c hc => ?_⟩
  rw [List.take_add] at hc
  exact (List.mem_append.1 hc).elim (h.chars c) (h'.chars c)

theorem mono (h : Run ok n cs) (hok : ∀ c, ok c = true → ok' c = true) : Run ok' n cs :=
  ⟨h.le, fun c hc => hok c (h.chars c hc)⟩

/-- What goes on behind a text holds all of the text. -/
theorem all_of_lt {ds : List Char} (h : Run ok n (cs ++ ds)) (hlt : cs.length < n) :
    ∀ c ∈ cs, ok c = true := by
  intro c hc
  refine h.chars c ?_
  rw [List.take_append, List.take_of_length_le (Nat.le_of_lt hlt)]
  exact List.mem_append_left _ hc

/-- What goes on behind a text holds what stands there. -/
theorem head_of_lt {ds : List Char} (h : Run ok n (cs ++ c :: ds)) (hlt : cs.length < n) :
    ok c = true := by
  refine h.chars c ?_
  obtain ⟨k, hk⟩ := Nat.exists_eq_add_of_lt hlt
  rw [hk, Nat.add_assoc, List.take_append, Nat.add_sub_cancel_left, List.take_succ_cons]
  exact List.mem_append_right _ List.mem_cons_self

end Run

/-- A length of the start of a text which holds characters of a kind, and which is another one with
more text behind it only if it goes on there. -/
structure Scans (ok : Char → Bool) (f : List Char → Nat) : Prop where
  run : ∀ cs, Run ok (f cs) cs
  behind : ∀ cs ds, f (cs ++ ds) = f cs ∨ cs.length < f (cs ++ ds)

/-- What is scanned in a text ends in the same way before a character that it cannot hold. -/
theorem Scans.stop {ok : Char → Bool} {f : List Char → Nat} (h : Scans ok f) {c : Char}
    (hc : ok c = false) {cs ds : List Char} (hle : f (cs ++ ds) ≤ cs.length) (es : List Char) :
    f (cs ++ c :: es) = f (cs ++ ds) := by
  have hshort : ¬ cs.length < f (cs ++ c :: es) := by
    intro hlonger
    rw [(h.run _).head_of_lt hlonger] at hc
    cases hc
  have hds := h.behind cs ds
  have hes := h.behind cs (c :: es)
  omega

theorem Scans.nil {ok : Char → Bool} {f : List Char → Nat} (h : Scans ok f) : f [] = 0 :=
  Nat.le_zero.1 (h.run []).le

/-! ## What has an end -/

/-- A length that is found in a text is found there whatever follows the text. -/
structure Settles (f : List Char → Option Nat) : Prop where
  le : ∀ cs n, f cs = some n → n ≤ cs.length
  append : ∀ cs ds es n, f (cs ++ ds) = some n → n ≤ cs.length → f (cs ++ es) = some n

theorem two_le_blockCommentLength? {cs : List Char} {n : Nat} (h : blockCommentLength? cs = some n) :
    2 ≤ n := by
  fun_induction blockCommentLength? cs generalizing n with
  | case1 => cases h
  | case2 => cases h; exact Nat.le_refl 2
  | case3 c cs _ ih =>
    obtain ⟨m, hm, rfl⟩ := Option.map_eq_some_iff.1 h
    exact Nat.le_succ_of_le (ih hm)

theorem settles_blockCommentLength? : Settles blockCommentLength? := by
  refine ⟨fun cs n h => ?_, fun cs ds es => ?_⟩
  · fun_induction blockCommentLength? cs generalizing n with
    | case1 => cases h
    | case2 c cs hend =>
      cases h
      simp only [Bool.and_eq_true, decide_eq_true_eq] at hend
      obtain ⟨t, rfl⟩ := List.head?_eq_some_iff.1 hend.2
      simp
    | case3 c cs _ ih =>
      obtain ⟨m, hm, rfl⟩ := Option.map_eq_some_iff.1 h
      exact Nat.succ_le_succ (ih m hm)
  induction cs with
  | nil =>
    intro n h hle
    have htwo := two_le_blockCommentLength? h
    simp at hle
    omega
  | cons c cs ih =>
    intro n h hle
    rw [List.length_cons] at hle
    have htwo := two_le_blockCommentLength? h
    have hne : cs ≠ [] := List.length_pos_iff.1 (by omega)
    rw [List.cons_append, blockCommentLength?, List.head?_append_of_ne_nil _ hne] at h ⊢
    split at h
    · next hend =>
      rw [if_pos hend]
      exact h
    · next hend =>
      obtain ⟨m, hm, rfl⟩ := Option.map_eq_some_iff.1 h
      rw [if_neg hend, ih m hm (by omega)]
      rfl

/-- A character that is found is found whatever follows. -/
theorem settles_lengthThrough? (mark : Char) : Settles (lengthThrough? mark) := by
  refine ⟨fun cs n h => ?_, fun cs ds es n h hle => ?_⟩
  · unfold lengthThrough? at h
    simp only at h
    split at h
    · cases h
      assumption
    · cases h
  unfold lengthThrough? at h ⊢
  simp only at h ⊢
  split at h
  · cases h
    have hshort : (cs.takeWhile (· != mark)).length ≠ cs.length := by
      intro hall
      rw [List.takeWhile_append, if_pos hall, List.length_append] at hle
      omega
    rw [List.takeWhile_append, if_neg hshort] at hle ⊢
    rw [List.takeWhile_append, if_neg hshort, if_pos (by rw [List.length_append]; omega)]
  · cases h

theorem isSome_readDigits {base count acc acc' : Nat} {cs ds : List Char} (hle : count ≤ cs.length)
    (h : (readDigits base count acc (cs ++ ds)).isSome = true) (es : List Char) :
    (readDigits base count acc' (cs ++ es)).isSome = true := by
  induction count generalizing cs acc acc' with
  | zero => rfl
  | succ count ih =>
    obtain ⟨c, cs, rfl⟩ := List.exists_cons_of_length_pos (show 0 < cs.length by omega)
    rw [List.cons_append, readDigits] at h ⊢
    cases hc : digit? base c with
    | none => simp [hc] at h
    | some d =>
      rw [hc] at h
      exact ih (Nat.le_of_succ_le_succ hle) h

theorem one_le_stringLength? {cs : List Char} {n : Nat} (h : stringLength? cs = some n) : 1 ≤ n := by
  fun_induction stringLength? cs generalizing n with
  | case2 => cases h; exact Nat.le_refl 1
  | case5 =>
    obtain ⟨m, -, rfl⟩ := Option.map_eq_some_iff.1 h
    omega
  | case7 =>
    obtain ⟨m, -, rfl⟩ := Option.map_eq_some_iff.1 h
    omega
  | _ => cases h

/-- The digits of an escape stand in front of the closing quote. -/
theorem lt_stringLength? {count acc m : Nat} {cs : List Char} (h : stringLength? cs = some m)
    (hdigits : (readDigits 16 count acc cs).isSome = true) : count < m := by
  induction count generalizing acc m cs with
  | zero => exact one_le_stringLength? h
  | succ count ih =>
    cases cs with
    | nil => cases h
    | cons c cs =>
      rw [readDigits] at hdigits
      cases hc : digit? 16 c with
      | none => simp [hc] at hdigits
      | some d =>
        rw [hc] at hdigits
        have hother : c ≠ '"' ∧ c ≠ '\n' ∧ c ≠ '\\' := by
          refine ⟨?_, ?_, ?_⟩ <;> rintro rfl <;> cases hc
        rw [stringLength?.eq_def] at h
        simp only [if_neg hother.1, if_neg hother.2.1, if_neg hother.2.2] at h
        obtain ⟨k, hk, rfl⟩ := Option.map_eq_some_iff.1 h
        exact Nat.succ_lt_succ (ih hk hdigits)

theorem stringLength?_le (cs : List Char) (n : Nat) (h : stringLength? cs = some n) :
    n ≤ cs.length := by
  fun_induction stringLength? cs generalizing n with
  | case2 =>
    cases h
    simp
  | case5 _ _ _ _ _ _ ih =>
    obtain ⟨m, hm, rfl⟩ := Option.map_eq_some_iff.1 h
    exact Nat.add_le_add_right (ih m hm) 2
  | case7 c cs _ _ _ ih =>
    obtain ⟨m, hm, rfl⟩ := Option.map_eq_some_iff.1 h
    exact Nat.succ_le_succ (ih m hm)
  | _ => cases h

/-- A string that ends within a text ends there whatever follows the text. -/
theorem stringLength?_append (cs ds es : List Char) (n : Nat)
    (h : stringLength? (cs ++ ds) = some n) (hle : n ≤ cs.length) :
    stringLength? (cs ++ es) = some n := by
  induction hlen : cs.length using Nat.strong_induction_on generalizing cs n with
  | _ k ih =>
  subst hlen
  have hone := one_le_stringLength? h
  obtain ⟨c, cs, rfl⟩ := List.exists_cons_of_length_pos (show 0 < cs.length by omega)
  rw [List.cons_append, stringLength?.eq_def] at h ⊢
  simp only [List.length_cons] at h hle ih ⊢
  split
  · next hc => rwa [if_pos hc] at h
  next hquote =>
  rw [if_neg hquote] at h
  split
  · next hc => rwa [if_pos hc] at h
  next hnewline =>
  rw [if_neg hnewline] at h
  split
  · next hc =>
    rw [if_pos hc] at h
    cases cs with
    | nil =>
      -- an escape and the closing quote are longer than the backslash
      cases ds with
      | nil => cases h
      | cons d ds =>
        simp only [List.nil_append] at h
        generalize (if d = 'x' then 2 else if d = 'u' then 4 else if d = 'U' then 8 else 0) = count at h
        split at h
        · obtain ⟨m, -, rfl⟩ := Option.map_eq_some_iff.1 h
          simp at hle
        · cases h
    | cons d cs =>
      simp only [List.cons_append] at h ⊢
      generalize (if d = 'x' then 2 else if d = 'u' then 4 else if d = 'U' then 8 else 0) = count at h ⊢
      split at h
      · next hdigits =>
        obtain ⟨m, hm, rfl⟩ := Option.map_eq_some_iff.1 h
        have hcount := lt_stringLength? hm hdigits
        simp only [List.length_cons] at hle ih
        rw [if_pos (isSome_readDigits (by omega) hdigits es),
          ih cs.length (by omega) cs m hm (by omega) rfl]
        rfl
      · cases h
  next hback =>
  rw [if_neg hback] at h
  obtain ⟨m, hm, rfl⟩ := Option.map_eq_some_iff.1 h
  rw [ih cs.length (by omega) cs m hm (by omega) rfl]
  rfl

theorem settles_stringLength? : Settles stringLength? := ⟨stringLength?_le, stringLength?_append⟩

/-- A length that goes with digits is found whatever follows the digits. -/
theorem map_readDigits_append {base count acc k n : Nat} {cs ds : List Char}
    (h : (readDigits base count acc (cs ++ ds)).map (fun _ => k) = some n)
    (hle : count ≤ cs.length) (es : List Char) :
    (readDigits base count acc (cs ++ es)).map (fun _ => k) = some n := by
  obtain ⟨r, hr, rfl⟩ := Option.map_eq_some_iff.1 h
  have hsome : (readDigits base count acc (cs ++ es)).isSome = true :=
    isSome_readDigits hle (by rw [hr]; rfl) es
  obtain ⟨r', hr'⟩ := Option.isSome_iff_exists.1 hsome
  rw [hr']
  rfl

theorem le_of_map_readDigits {base count acc k n : Nat} {cs : List Char}
    (h : (readDigits base count acc cs).map (fun _ => k) = some n) : k = n ∧ count ≤ cs.length := by
  obtain ⟨r, hr, rfl⟩ := Option.map_eq_some_iff.1 h
  have hlength := readDigits_length hr
  exact ⟨rfl, by omega⟩

theorem one_le_runeEscapeLength? {cs : List Char} {n : Nat} (h : runeEscapeLength? cs = some n) :
    1 ≤ n := by
  unfold runeEscapeLength? at h
  repeat' split at h
  all_goals first
    | cases h
    | have hn := le_of_map_readDigits h
      omega
  exact Nat.le_refl 1

theorem settles_runeEscapeLength? : Settles runeEscapeLength? := by
  refine ⟨fun cs n h => ?_, fun cs ds es n h hle => ?_⟩
  · unfold runeEscapeLength? at h
    repeat' split at h
    all_goals first
      | cases h
      | have hn := le_of_map_readDigits h
        simp only [List.length_cons] at hn ⊢
        omega
    simp
  cases cs with
  | nil => exact absurd (one_le_runeEscapeLength? h) (by simpa using hle)
  | cons c cs =>
    rw [List.length_cons] at hle
    rw [List.cons_append, runeEscapeLength?] at h ⊢
    split
    · next hc =>
      rw [if_pos hc] at h
      have hn := le_of_map_readDigits h
      exact map_readDigits_append h (by omega) es
    next hx =>
    rw [if_neg hx] at h
    split
    · next hc =>
      rw [if_pos hc] at h
      have hn := le_of_map_readDigits h
      exact map_readDigits_append h (by omega) es
    next hu =>
    rw [if_neg hu] at h
    split
    · next hc =>
      rw [if_pos hc] at h
      have hn := le_of_map_readDigits h
      exact map_readDigits_append h (by omega) es
    next hU =>
    rw [if_neg hU] at h
    split
    · next hc =>
      rw [if_pos hc] at h
      have hn := le_of_map_readDigits h
      rw [← List.cons_append] at h ⊢
      exact map_readDigits_append h (by rw [List.length_cons]; omega) es
    next hoctal =>
    rw [if_neg hoctal] at h
    exact h

/-- The length of what stands between the quotes of a rune. -/
def runeBody? : List Char → Option Nat
  | [] => none
  | c :: r =>
    if c = '\'' then none else if c = '\\' then (runeEscapeLength? r).map (· + 1) else some 1

theorem runeLength?_eq (cs : List Char) :
    runeLength? cs = (runeBody? cs).bind fun n =>
      if (cs.drop n).head? = some '\'' then some (n + 1) else none := by
  cases cs with
  | nil => rfl
  | cons c r =>
    rw [runeLength?, runeBody?]
    generalize (if c = '\'' then none
      else if c = '\\' then (runeEscapeLength? r).map (· + 1) else some 1) = body
    cases body <;> rfl

theorem settles_runeBody? : Settles runeBody? := by
  refine ⟨fun cs n h => ?_, fun cs ds es n h hle => ?_⟩
  · unfold runeBody? at h
    split at h
    · cases h
    split at h
    · cases h
    split at h
    · obtain ⟨m, hm, rfl⟩ := Option.map_eq_some_iff.1 h
      exact Nat.succ_le_succ (settles_runeEscapeLength?.le _ m hm)
    · cases h
      simp
  cases cs with
  | nil =>
    have hone : 1 ≤ n := by
      unfold runeBody? at h
      split at h
      · cases h
      split at h
      · cases h
      split at h
      · obtain ⟨m, -, rfl⟩ := Option.map_eq_some_iff.1 h
        exact Nat.le_add_left 1 m
      · cases h
        exact Nat.le_refl 1
    exact absurd hone (by simpa using hle)
  | cons c cs =>
    rw [List.length_cons] at hle
    rw [List.cons_append, runeBody?] at h ⊢
    split
    · next hc =>
      rw [if_pos hc] at h
      cases h
    next hquote =>
    rw [if_neg hquote] at h
    split
    · next hc =>
      rw [if_pos hc] at h
      obtain ⟨m, hm, rfl⟩ := Option.map_eq_some_iff.1 h
      rw [settles_runeEscapeLength?.append cs ds es m hm (by omega)]
      rfl
    next hback =>
    rw [if_neg hback] at h
    exact h

/-- A rune is closed at the same place whatever follows. -/
theorem settles_runeLength? : Settles runeLength? := by
  refine ⟨fun cs n h => ?_, fun cs ds es n h hle => ?_⟩
  · rw [runeLength?_eq] at h
    obtain ⟨k, -, hend⟩ := Option.bind_eq_some_iff.1 h
    split at hend
    · next hquote =>
      cases hend
      by_contra hlt
      rw [List.drop_eq_nil_of_le (by omega)] at hquote
      cases hquote
    · cases hend
  rw [runeLength?_eq] at h ⊢
  obtain ⟨k, hk, hend⟩ := Option.bind_eq_some_iff.1 h
  split at hend
  · next hquote =>
    cases hend
    have hne : cs.drop k ≠ [] := by
      rw [ne_eq, List.drop_eq_nil_iff]
      omega
    have hdrop : ∀ fs, ((cs ++ fs).drop k).head? = (cs.drop k).head? := by
      intro fs
      rw [List.drop_append_of_le_length (by omega), List.head?_append_of_ne_nil _ hne]
    rw [hdrop] at hquote
    rw [settles_runeBody?.append cs ds es k hk (by omega), Option.bind_some, hdrop, if_pos hquote]
  · cases hend

/-! ## Signs -/

/-- A slash stands in no sign but as its first character. -/
theorem prefix_of_prefix_slash {s : String} (hs : s ∈ signs) {cs es : List Char} (hne : cs ≠ [])
    (h : s.toList <+: cs ++ '/' :: es) : s.toList <+: cs := by
  have hslash : ∀ t ∈ signs, '/' ∉ t.toList.tail := by decide
  rcases Nat.le_total s.toList.length cs.length with hle | hle
  · exact List.prefix_of_prefix_length_le h (List.prefix_append _ _) hle
  · obtain ⟨more, hmore⟩ := List.prefix_of_prefix_length_le (List.prefix_append _ _) h hle
    cases more with
    | nil => exact ⟨[], by rw [← hmore]; simp⟩
    | cons d more =>
      rw [← hmore, List.prefix_append_right_inj, List.cons_prefix_cons] at h
      obtain ⟨c, cs, rfl⟩ := List.exists_cons_of_ne_nil hne
      refine absurd ?_ (hslash s hs)
      rw [← hmore, h.1]
      simp

/-- A sign in front of a place is cut in the same way if a slash stands there. -/
theorem sign?_slash {cs ds : List Char} {s : String} (hne : cs ≠ [])
    (h : sign? (cs ++ ds) = some s) (hle : s.length ≤ cs.length) (es : List Char) :
    sign? (cs ++ '/' :: es) = some s := by
  obtain ⟨hs, before, behind, hsigns, hbefore⟩ := List.find?_eq_some_iff_append.1 h
  refine List.find?_eq_some_iff_append.2 ⟨?_, before, behind, hsigns, fun t ht => ?_⟩
  · rw [List.isPrefixOf_iff_prefix] at hs ⊢
    rw [← String.length_toList] at hle
    exact (List.prefix_of_prefix_length_le hs (List.prefix_append _ _) hle).trans
      (List.prefix_append _ _)
  · have hnone := hbefore t ht
    rw [Bool.not_eq_true', ← Bool.not_eq_true, List.isPrefixOf_iff_prefix] at hnone ⊢
    intro hprefix
    have hsign : t ∈ signs := by
      rw [hsigns]
      exact List.mem_append_left _ ht
    exact hnone ((prefix_of_prefix_slash hsign hne hprefix).trans (List.prefix_append _ _))

end TagSpec.Source
