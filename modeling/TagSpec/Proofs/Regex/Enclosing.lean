import TagSpec.Proofs.Regex.Classes

/-!
# Patterns in a group

What is read of a pattern when it stands in a group. While it is read, the two readings take the same
steps, with what is around the group below all that is around the parts. At its end the group is
closed, unless the text has closed it before or ends in a comment.
-/

namespace TagSpec.Regex

/-! ## Tokens -/

theorem readBracketed_local (f : Flags) : Local [] (readBracketed f) := bracketed_local f

theorem readToken_local (f : Flags) {c : Char} (hc : c ≠ '\\') : Local [] (readToken f c) := by
  unfold readToken
  split
  · exact (readOpening_local f).bind fun o => .pure (Token.opening o)
  · exact .pure Token.closing
  · exact .pure Token.bar
  · exact (readBracketed_local f).bind fun o => .pure (Token.item (Item.ofSet o.set o.depth o.cost))
  · exact trims_dropLazy.pure (Token.repetition 0 (some 1))
  · exact trims_dropLazy.pure (Token.repetition 0 none)
  · exact trims_dropLazy.pure (Token.repetition 1 none)
  · exact (readBounds_local f).bind fun b => .pure (Token.repetition b.1 b.2)
  · exact absurd rfl hc
  · exact .lift f.dot fun i => .pure (Token.item i)
  · exact .pure (Token.item f.caret)
  · exact .pure (Token.item f.dollar)
  · exact .pure (Token.item (f.char _))

/-- What a token leaves is the end of the text. -/
theorem readToken_shortens (f : Flags) (c : Char) : Shortens (readToken f c) := by
  by_cases hc : c = '\\'
  · subst hc
    have hitem (e : Escape) : Local [] _ := .pure (Token.item (f.escaped e))
    exact (readEscape_shortens f).bind fun e => (hitem e).shortens
  · exact (readToken_local f hc).shortens

/-- Only a parenthesis closes a group. -/
theorem readToken_closing {f : Flags} {c : Char} {cs rest : List Char}
    (h : readToken f c cs = .ok (.closing, rest)) : c = ')' := by
  unfold readToken at h
  split at h
  case h_2 => rfl
  case h_1 | h_4 | h_8 | h_9 | h_10 =>
    obtain ⟨a, -, ha⟩ := bind_eq_ok_iff.1 h
    cases ha
  all_goals cases h

/-! ## Progress in a group -/

namespace Progress

variable {p : Progress} {bottom : Around}

/-- The progress in a group: it stands below all that is around the parts. -/
def within (p : Progress) (bottom : Around) : Progress := { p with around := p.around ++ [bottom] }

theorem around_within : (p.within bottom).around ≠ [] :=
  List.append_ne_nil_of_right_ne_nil _ (List.cons_ne_nil _ _)

/-- The parts of a group are put together in the same way, up to the parenthesis that closes it. -/
theorem advance_within {t : Token} (h : t = .closing → p.around ≠ []) :
    (p.within bottom).advance t = (p.advance t).map (·.within bottom) := by
  cases t with
  | opening o =>
    cases o with
    | flags f => rfl
    | group f captures name =>
      by_cases hname : name.any p.names.contains = true
      · simp only [advance, opened, within, hname, if_true]
        rfl
      · simp only [advance, opened, within, hname]
        rfl
  | closing =>
    obtain ⟨a, as, has⟩ := List.exists_cons_of_ne_nil (h rfl)
    simp only [advance, closed, within, has]
    rfl
  | bar => rfl
  | item i => rfl
  | repetition least most =>
    simp only [advance, repeatLast, within]
    split
    · rfl
    · split <;> rfl

end Progress

theorem advance_local (p : Progress) (t : Token) : Local [] fun cs =>
    p.advance t >>= fun p' => .ok (p', cs) :=
  .lift (p.advance t) .pure

theorem readPart_eq (p : Progress) {c : Char} (h : ¬ (c = '\x7b' && !p.repeatable) = true)
    (cs : List Char) : readPart p c cs =
      readToken p.flags c cs >>= fun t => p.advance t.1 >>= fun p' => .ok (p', t.2) :=
  if_neg h

theorem readPart_of_ne (p : Progress) {c : Char} (hc : c ≠ '\x7b') (cs : List Char) :
    readPart p c cs =
      readToken p.flags c cs >>= fun t => p.advance t.1 >>= fun p' => .ok (p', t.2) :=
  readPart_eq p (by simp [hc]) cs

theorem readPart_shortens (p : Progress) (c : Char) : Shortens (readPart p c) := by
  by_cases h : (c = '\x7b' && !p.repeatable) = true
  · intro cs p' rest hread
    rw [readPart, if_pos h] at hread
    cases hread
  · intro cs p' rest hread
    rw [readPart_eq p h] at hread
    exact (readToken_shortens p.flags c).bind (fun t => (advance_local p t).shortens) cs p' rest hread

/-- A part is read alike in front of a parenthesis, unless it waits for the name of a boundary. -/
theorem readPart_extends {p : Progress} {c : Char} {cs : List Char}
    (hcs : ¬ (c = '\\' ∧ OpensBoundary p.flags cs)) : Extends [] (readPart p c) cs := by
  by_cases h : (c = '\x7b' && !p.repeatable) = true
  · exact .of_errors (if_pos h) fun more _ => ⟨_, if_pos h⟩
  · have htoken : Extends [] (readToken p.flags c) cs := by
      by_cases hc : c = '\\'
      · subst hc
        exact (readEscape_extends p.flags fun ho => hcs ⟨rfl, ho⟩).bind_local fun e =>
          .pure (Token.item (p.flags.escaped e))
      · exact (readToken_local p.flags hc).extend cs
    exact .of_eq (readPart_eq p h cs) (fun more _ => readPart_eq p h _)
      (htoken.bind_local fun t => advance_local p t)

/-- In a group a part is read as it is without one. -/
theorem readPart_within {p : Progress} {bottom : Around} {c : Char} (hc : c = ')' → p.around ≠ [])
    (cs : List Char) : readPart (p.within bottom) c cs =
      (readPart p c cs).map fun r => (r.1.within bottom, r.2) := by
  by_cases h : (c = '\x7b' && !p.repeatable) = true
  · rw [readPart, readPart, if_pos h]
    exact if_pos h
  · rw [readPart_eq p h, readPart_eq (p.within bottom) h]
    cases hread : readToken p.flags c cs with
    | error e =>
      rw [show (p.within bottom).flags = p.flags from rfl, hread]
      rfl
    | ok t =>
      rw [show (p.within bottom).flags = p.flags from rfl, hread]
      have hclosing (ht : t.1 = .closing) : readToken p.flags c cs = .ok (.closing, t.2) := by
        rw [hread, ← ht]
      simp only [bind, Except.bind]
      rw [Progress.advance_within fun ht => hc (readToken_closing (hclosing ht))]
      cases p.advance t.1 with
      | error e => rfl
      | ok p' => rfl

/-! ## Parts -/

/-- At the end of the text all groups have to be closed. -/
theorem readParts_of_skip_nil {p : Progress} {cs : List Char} (h : p.flags.skip cs = []) (n : Nat) :
    readParts (n + 1) p cs = if p.around.isEmpty then .ok p.group else .error .unclosedGroup := by
  simp only [readParts, h]

theorem readParts_of_skip_cons {p : Progress} {c : Char} {cs r : List Char}
    (h : p.flags.skip cs = c :: r) (n : Nat) :
    readParts (n + 1) p cs = readPart p c r >>= fun x => readParts n x.1 x.2 := by
  simp only [readParts, h]

/-- A group that is open at the end of the text is refused. -/
theorem readParts_of_open {p : Progress} (hp : p.around ≠ []) {cs : List Char}
    (h : p.flags.skip cs = []) (n : Nat) : ∃ e, readParts n p cs = .error e := by
  cases n with
  | zero => exact ⟨_, rfl⟩
  | succ n =>
    refine ⟨.unclosedGroup, ?_⟩
    rw [readParts_of_skip_nil h, if_neg fun hempty => hp (List.isEmpty_iff.1 hempty)]

/-- Nothing that stands behind the parenthesis closes a group. -/
theorem readParts_tail {p : Progress} (hp : p.around ≠ []) (n : Nat) {more cs : List Char}
    (hm : more ∈ tails) (hcs : cs <:+ more) : ∃ e, readParts n p cs = .error e := by
  have hcases : cs = [] ∨ cs = ['$'] := by
    rcases List.mem_cons.1 hm with rfl | hm
    · exact .inl (List.suffix_nil.1 hcs)
    · rw [List.mem_singleton.1 hm, List.suffix_cons_iff] at hcs
      exact hcs.symm.imp_left List.suffix_nil.1
  rcases hcases with rfl | rfl
  · exact readParts_of_open hp (skip_nil _) n
  · cases n with
    | zero => exact ⟨_, rfl⟩
    | succ n =>
      rw [readParts_of_skip_cons (skip_cons p.flags (by decide) (by decide) [])]
      exact readParts_of_open (p := { p with items := p.flags.dollar :: p.items }) hp (skip_nil _) n

/-- A brace that a boundary leaves is no repetition. -/
theorem readParts_brace {p : Progress} {t more : List Char} (h : p.flags.skip t = ')' :: more)
    (n : Nat) : ∃ e, readParts n p ('\x7b' :: t) = .error e := by
  cases n with
  | zero => exact ⟨_, rfl⟩
  | succ n =>
    rw [readParts_of_skip_cons (skip_cons p.flags (by decide) (by decide) t)]
    by_cases hrep : ('\x7b' = '\x7b' && !p.repeatable) = true
    · exact ⟨_, by rw [readPart, if_pos hrep]; rfl⟩
    · have hcount : readBounds p.flags t = .error .count := by
        rw [readBounds, h]
        rfl
      refine ⟨.count, ?_⟩
      rw [readPart_eq p hrep]
      simp only [readToken, hcount]
      rfl

/-- Without an open group there is nothing to close. -/
theorem readPart_unopened {p : Progress} (hp : p.around = []) (cs : List Char) :
    readPart p ')' cs = .error .unopenedGroup := by
  simp only [readPart_of_ne p (by decide : ')' ≠ '\x7b'), readToken, Progress.advance,
    Progress.closed, hp]
  rfl

/-- What is read without a fault closes no group that is not open. -/
theorem around_of_readPart {p p' : Progress} {c : Char} {cs rest : List Char}
    (h : readPart p c cs = .ok (p', rest)) (hc : c = ')') : p.around ≠ [] := by
  rintro hp
  rw [hc, readPart_unopened hp] at h
  cases h

/-- One step in a group. -/
theorem readParts_step_within {p p' : Progress} {bottom : Around} {c : Char} {cs r rest : List Char}
    (hskip : p.flags.skip cs = c :: r) (hread : readPart p c r = .ok (p', rest)) (m : Nat) :
    readParts (m + 1) (p.within bottom) cs = readParts m (p'.within bottom) rest := by
  rw [readParts_of_skip_cons (p := p.within bottom) hskip,
    readPart_within (around_of_readPart hread), hread]
  rfl

/-- One step in a group, when nothing that may follow it is accepted. -/
theorem readParts_step_error {p : Progress} {bottom : Around} {c : Char} {cs r : List Char} {m : Nat}
    (hskip : p.flags.skip cs = c :: r) (hc : c = ')' → p.around ≠ [])
    (hnext : ∀ p' rest, readPart p c r = .ok (p', rest) →
      ∃ e, readParts m (p'.within bottom) rest = .error e) :
    ∃ e, readParts (m + 1) (p.within bottom) cs = .error e := by
  cases hread : readPart p c r with
  | error e =>
    refine ⟨e, ?_⟩
    rw [readParts_of_skip_cons (p := p.within bottom) hskip, readPart_within hc, hread]
    rfl
  | ok x =>
    rw [readParts_step_within hskip hread]
    exact hnext x.1 x.2 hread

theorem readPart_of_opensBoundary {p : Progress} {cs : List Char} (ho : OpensBoundary p.flags cs) :
    readPart p '\\' cs = .error .escape := by
  simp only [readPart_of_ne p (by decide : '\\' ≠ '\x7b'), readToken, ho.error]
  rfl

/-- A boundary that waits for its name gets none in front of a parenthesis. -/
theorem readPart_opensBoundary {p p' : Progress} {cs more rest : List Char}
    (ho : OpensBoundary p.flags cs) (hm : more ∈ tails)
    (h : readPart p '\\' (cs ++ ')' :: more) = .ok (p', rest)) :
    ∃ t, rest = '\x7b' :: t ∧ p'.flags.skip t = ')' :: more := by
  rw [readPart_of_ne p (by decide)] at h
  obtain ⟨x, htoken, hadvance⟩ := bind_eq_ok_iff.1 h
  obtain ⟨y, hescape, hy⟩ := bind_eq_ok_iff.1 htoken
  cases hy
  cases hadvance
  obtain ⟨-, t, ht, hskip⟩ := ho.extend p.flags hm hescape
  exact ⟨t, ht, hskip⟩

/-- The parenthesis that closes an open group. -/
theorem readPart_opened {p : Progress} {a : Around} {as : List Around} (hp : p.around = a :: as)
    (cs : List Char) : readPart p ')' cs =
      .ok (⟨as, p.group.grouped a.captures :: a.items, a.branches, a.flags, p.names⟩, cs) := by
  simp only [readPart_of_ne p (by decide : ')' ≠ '\x7b'), readToken, Progress.advance,
    Progress.closed, hp]
  rfl

/-- Where a group of the text itself is open, the parenthesis closes no more than that one. -/
theorem readParts_closing {p : Progress} (hp : p.around ≠ []) {cs more : List Char}
    (hm : more ∈ tails) (hskip : p.flags.skip cs = ')' :: more) (bottom : Around) (m : Nat) :
    ∃ e, readParts (m + 1) (p.within bottom) cs = .error e := by
  obtain ⟨a, as, has⟩ := List.exists_cons_of_ne_nil hp
  rw [readParts_step_within hskip (readPart_opened has more)]
  exact readParts_tail Progress.around_within m hm (List.suffix_refl more)

/-- What is refused is refused in a group too, if it does not close the group. -/
theorem readParts_within_error {p : Progress} {cs : List Char} {n : Nat} {e : Fault}
    (h : readParts n p cs = .error e) (hn : cs.length < n) (he : e ≠ .unopenedGroup)
    {more : List Char} (hm : more ∈ tails) (bottom : Around) (m : Nat) :
    ∃ e', readParts m (p.within bottom) (cs ++ ')' :: more) = .error e' := by
  induction n generalizing p cs m with
  | zero => exact absurd hn (Nat.not_lt_zero _)
  | succ n ih =>
    rcases m with _ | m
    · exact ⟨_, rfl⟩
    rcases (trims_skip p.flags).extend cs with hmore | ⟨-, hmore⟩
    · have hskip := hmore more hm
      cases hcs : p.flags.skip cs with
      | nil =>
        rw [hcs, List.nil_append] at hskip
        rw [readParts_of_skip_nil hcs] at h
        refine readParts_closing (fun hp => ?_) hm hskip bottom m
        rw [hp] at h
        cases h
      | cons c r =>
        have hlength := ((trims_skip p.flags).suffix cs).length_le
        rw [hcs, List.length_cons] at hlength
        rw [hcs, List.cons_append] at hskip
        rw [readParts_of_skip_cons hcs] at h
        by_cases ho : c = '\\' ∧ OpensBoundary p.flags r
        · obtain ⟨rfl, ho⟩ := ho
          refine readParts_step_error hskip (fun hc => absurd hc (by decide)) fun p' rest hread => ?_
          obtain ⟨t, rfl, ht⟩ := readPart_opensBoundary ho hm hread
          exact readParts_brace (p := p'.within bottom) ht m
        rcases readPart_extends ho with ⟨p', rest, hok, hext⟩ | ⟨p', hok, hext⟩ | ⟨herr, hext⟩
        · have hrest := (readPart_shortens p c r p' rest hok).length_le
          have hlt : rest.length < n := by omega
          rw [hok] at h
          rw [readParts_step_within hskip (hext more hm)]
          exact ih h hlt m
        · rw [readParts_step_within hskip (hext more hm)]
          exact readParts_of_open Progress.around_within (skip_nil _) m
        · refine readParts_step_error hskip (fun hc hp => ?_) fun p' rest hread =>
            readParts_tail Progress.around_within m hm (hext more hm p' rest hread)
          rw [hc, readPart_unopened hp] at h
          exact he (Except.error.inj h).symm
    · exact readParts_of_open Progress.around_within (hmore more hm) (m + 1)

/-- In a group the text is read as the part `i`, and the parenthesis behind it closes the group. -/
def ReadsInGroup (p : Progress) (cs : List Char) (i : Item) : Prop :=
  ∀ more ∈ tails, ∀ (b : Around) (m : Nat), cs.length + 1 + more.length < m →
    ∃ k names, more.length < k ∧ readParts m (p.within b) (cs ++ ')' :: more) =
      readParts k ⟨[], i.grouped b.captures :: b.items, b.branches, b.flags, names⟩ more

/-- The text ends in a comment, to which the parenthesis behind it belongs: without a group it is read
as the part `i` still, and a group stays open. -/
structure EndsInComment (p : Progress) (cs : List Char) (i : Item) : Prop where
  alone (m : Nat) : cs.length < m → readParts m p (cs ++ [')']) = .ok i
  open_group (more : List Char) : more ∈ tails → ∀ (b : Around) (m : Nat),
    ∃ e, readParts m (p.within b) (cs ++ ')' :: more) = .error e

/-- At the end of the text the parenthesis closes the group. -/
theorem ReadsInGroup.of_end {p : Progress} {cs : List Char} (hp : p.around = [])
    (hskip : ∀ more ∈ tails, p.flags.skip (cs ++ ')' :: more) = ')' :: more) :
    ReadsInGroup p cs p.group := by
  intro more hm b m hlt
  obtain ⟨m, rfl⟩ := Nat.exists_eq_add_one_of_ne_zero (Nat.ne_zero_of_lt hlt)
  have hb : (p.within b).around = [b] := by rw [Progress.within, hp, List.nil_append]
  refine ⟨m, p.names, by omega, ?_⟩
  rw [readParts_of_skip_cons (p := p.within b) (hskip more hm), readPart_opened hb]
  rfl

/-- What is read in a group behind one step is read in it from the step on. -/
theorem ReadsInGroup.of_step {p p' : Progress} {c : Char} {cs r rest : List Char} {i : Item}
    (hskip : ∀ more ∈ tails, p.flags.skip (cs ++ ')' :: more) = c :: (r ++ ')' :: more))
    (hread : ∀ more ∈ tails, readPart p c (r ++ ')' :: more) = .ok (p', rest ++ ')' :: more))
    (hlength : rest.length < cs.length) (h : ReadsInGroup p' rest i) : ReadsInGroup p cs i := by
  intro more hm b m hlt
  obtain ⟨m, rfl⟩ := Nat.exists_eq_add_one_of_ne_zero (Nat.ne_zero_of_lt hlt)
  rw [readParts_step_within (hskip more hm) (hread more hm)]
  exact h more hm b m (by omega)

/-- A text that ends in a comment does so with a step in front of it. -/
theorem EndsInComment.of_step {p p' : Progress} {c : Char} {cs r rest : List Char} {i : Item}
    (hskip : ∀ more ∈ tails, p.flags.skip (cs ++ ')' :: more) = c :: (r ++ ')' :: more))
    (hread : ∀ more ∈ tails, readPart p c (r ++ ')' :: more) = .ok (p', rest ++ ')' :: more))
    (hlength : rest.length < cs.length) (h : EndsInComment p' rest i) : EndsInComment p cs i where
  alone m hlt := by
    obtain ⟨m, rfl⟩ := Nat.exists_eq_add_one_of_ne_zero (Nat.ne_zero_of_lt hlt)
    have hnil : [] ∈ tails := List.mem_cons_self
    rw [readParts_of_skip_cons (hskip [] hnil), hread [] hnil]
    exact h.alone m (by omega)
  open_group more hm b m := by
    cases m with
    | zero => exact ⟨_, rfl⟩
    | succ m =>
      rw [readParts_step_within (hskip more hm) (hread more hm)]
      exact h.open_group more hm b m

/-- A comment between the parts takes the parenthesis. -/
theorem EndsInComment.of_end {p : Progress} {cs : List Char} {i : Item} {n : Nat}
    (hcs : p.flags.skip cs = [])
    (hskip : ∀ more ∈ tails, p.flags.skip (cs ++ ')' :: more) = [])
    (h : readParts (n + 1) p cs = .ok i) : EndsInComment p cs i where
  alone m hlt := by
    obtain ⟨m, rfl⟩ := Nat.exists_eq_add_one_of_ne_zero (Nat.ne_zero_of_lt hlt)
    rw [readParts_of_skip_nil hcs] at h
    exact (readParts_of_skip_nil (hskip [] List.mem_cons_self) m).trans h
  open_group more hm b m := readParts_of_open Progress.around_within (hskip more hm) m

/-- A comment that begins within the last part takes the parenthesis. -/
theorem EndsInComment.of_part {p p' : Progress} {c : Char} {cs r : List Char} {i : Item} {n : Nat}
    (hskip : ∀ more ∈ tails, p.flags.skip (cs ++ ')' :: more) = c :: (r ++ ')' :: more))
    (hread : ∀ more ∈ tails, readPart p c (r ++ ')' :: more) = .ok (p', []))
    (hcs : cs ≠ []) (h : readParts n p' [] = .ok i) : EndsInComment p cs i where
  alone m hlt := by
    have hpos := List.length_pos_iff.2 hcs
    obtain ⟨m, rfl⟩ : ∃ k, m = k + 2 := ⟨m - 2, by omega⟩
    have hnil : [] ∈ tails := List.mem_cons_self
    rw [readParts_of_skip_cons (hskip [] hnil), hread [] hnil]
    cases n with
    | zero => cases h
    | succ n =>
      rw [readParts_of_skip_nil (skip_nil _)] at h
      exact (readParts_of_skip_nil (skip_nil _) m).trans h
  open_group more hm b m := by
    cases m with
    | zero => exact ⟨_, rfl⟩
    | succ m =>
      rw [readParts_step_within (hskip more hm) (hread more hm)]
      exact readParts_of_open Progress.around_within (skip_nil _) m

/-- What is read of a text is read of it in a group too, unless it ends in a comment. -/
theorem readParts_within_ok {p : Progress} {cs : List Char} {n : Nat} {i : Item}
    (h : readParts n p cs = .ok i) : ReadsInGroup p cs i ∨ EndsInComment p cs i := by
  induction n generalizing p cs with
  | zero => cases h
  | succ n ih =>
    rcases (trims_skip p.flags).extend cs with hmore | ⟨hcs, hmore⟩
    · cases hcs : p.flags.skip cs with
      | nil =>
        simp only [hcs, List.nil_append] at hmore
        rw [readParts_of_skip_nil hcs] at h
        split at h
        · next hempty =>
          cases h
          exact .inl (.of_end (List.isEmpty_iff.1 hempty) hmore)
        · cases h
      | cons c r =>
        have hlength := ((trims_skip p.flags).suffix cs).length_le
        rw [hcs, List.length_cons] at hlength
        simp only [hcs, List.cons_append] at hmore
        rw [readParts_of_skip_cons hcs] at h
        by_cases ho : c = '\\' ∧ OpensBoundary p.flags r
        · rw [ho.1, readPart_of_opensBoundary ho.2] at h
          cases h
        rcases readPart_extends ho with ⟨p', rest, hok, hext⟩ | ⟨p', hok, hext⟩ | ⟨herr, -⟩
        · have hrest := (readPart_shortens p c r p' rest hok).length_le
          rw [hok] at h
          exact (ih h).imp (.of_step hmore hext (by omega)) (.of_step hmore hext (by omega))
        · have hne : cs ≠ [] := fun h => by simp [h] at hlength
          rw [hok] at h
          exact .inr (.of_part hmore hext hne h)
        · rw [herr] at h
          cases h
    · exact .inr (.of_end hcs hmore h)

end TagSpec.Regex
