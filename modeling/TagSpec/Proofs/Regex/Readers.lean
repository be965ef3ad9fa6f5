import TagSpec.Regex.Reading
import TagSpec.Proofs.Regex.Extending

/-!
# Counts, escapes and groups in front of a parenthesis

The readers of what stands outside of brackets are local: a parenthesis behind the text ends what they
read. The exception is `\b` with an opening brace behind it at the end of a text, which waits for the
name of a kind of boundary and gets none.
-/

namespace TagSpec.Regex

variable {kept : List Char} (f : Flags)

/-! ## Counts -/

theorem readDecimal_local (n : Nat) (acc : Option Nat) :
    Local kept fun cs => .ok (readDecimal f n acc cs) := by
  induction n generalizing acc with
  | zero => exact .pure acc
  | succ n ih =>
    refine .of_head (B := fun cs => .ok (acc, cs)) (fun c => (digit? 10 c).isSome) (by decide)
      (fun c hc => ?_) (.pure acc) fun cs hcs => ?_
    · obtain ⟨d, hd⟩ := Option.isSome_iff_exists.1 hc
      simpa only [readDecimal, hd] using (ih (some (acc.getD 0 * 10 + d))).trim (trims_skip f)
    · cases cs with
      | nil => rfl
      | cons c r =>
        have hnone : digit? 10 c = none := by simpa using hcs c r rfl
        simp only [readDecimal, hnone]

theorem readDecimal_fuel (n m : Nat) (acc : Option Nat) (cs : List Char) (hn : cs.length ≤ n)
    (hm : cs.length ≤ m) : readDecimal f n acc cs = readDecimal f m acc cs := by
  induction n generalizing m acc cs with
  | zero =>
    obtain rfl := List.length_eq_zero_iff.1 (Nat.le_zero.1 hn)
    cases m <;> rfl
  | succ n ih =>
    cases cs with
    | nil => cases m <;> rfl
    | cons c r =>
      obtain ⟨m, rfl⟩ := Nat.exists_eq_add_one_of_ne_zero (Nat.ne_zero_of_lt hm)
      simp only [readDecimal]
      split
      · have hskip := ((trims_skip f).suffix r).length_le
        rw [List.length_cons] at hn hm
        exact ih m _ _ (by omega) (by omega)
      · rfl

theorem countOf_local (n : Option Nat) : Local kept (countOf f n) := by
  cases n with
  | none => exact .error .count
  | some n =>
    by_cases h : n ≤ countLimit
    · exact (((trims_skip f).comp trims_dropBlanks).pure n).congr fun cs => if_pos h
    · exact (Local.error .count).congr fun cs => if_neg h

theorem readCount_local : Local kept (readCount f) := by
  have hdigits : Local kept fun cs => .ok (readDecimal f cs.length none cs) :=
    .of_fuel (F := fun n cs => .ok (readDecimal f n none cs)) (fun n => readDecimal_local f n none)
      fun n m cs hn hm => by rw [readDecimal_fuel f n m none cs hn hm]
  exact ((hdigits.bind (countOf_local f)).trim trims_dropBlanks).congr fun _ => rfl

theorem trims_dropLazy : Trims dropLazy where
  suffix cs := by
    unfold dropLazy
    split
    · exact List.suffix_cons _ _
    · exact List.suffix_refl _
  extend cs := .inl fun more _ => by
    cases cs with
    | nil => rfl
    | cons c cs =>
      by_cases hc : c = '?'
      · subst hc
        rfl
      · simp [dropLazy, hc]

theorem readMost_local : Local kept (readMost f) := by
  refine .of_choice (· = '\x7d') (by decide) (.pure none)
    ((readCount_local f).bind fun n => .pure (some n)) (by rintro _ r rfl; rfl) fun cs hcs => ?_
  unfold readMost
  split
  · exact absurd rfl (hcs _ _ rfl)
  · rfl

theorem readUpper_local (least : Nat) : Local kept (readUpper f least) := by
  refine .of_head (· = ',') (by decide) ?_ (.pure (some least)) fun cs hcs => ?_
  · rintro _ rfl
    exact Local.trim (R := readMost f) (trims_skip f) (readMost_local f)
  · unfold readUpper
    split
    · exact absurd rfl (hcs _ _ rfl)
    · rfl

theorem closeBounds_local (least : Nat) (most : Option Nat) :
    Local kept (closeBounds f least most) := by
  refine .of_head (· = '\x7d') (by decide) ?_ (.error .count) fun cs hcs => ?_
  · rintro _ rfl
    by_cases h : most.all (least ≤ ·)
    · exact ((trims_dropLazy.comp (trims_skip f)).pure _).congr fun cs => if_pos h
    · exact (Local.error .count).congr fun cs => if_neg h
  · unfold closeBounds
    split
    · exact absurd rfl (hcs _ _ rfl)
    · rfl

theorem readBounds_local : Local kept (readBounds f) := by
  have hbounds : Local kept _ := (readCount_local f).bind fun least =>
    (readUpper_local f least).bind fun most => closeBounds_local f least most
  exact (hbounds.trim (trims_skip f)).congr fun _ => rfl

/-! ## Escapes -/

theorem readHexDigits_local (n acc : Nat) : Local kept (readHexDigits f n acc) := by
  induction n generalizing acc with
  | zero => exact .pure acc
  | succ n ih =>
    refine .of_cons ⟨_, rfl⟩ fun c => ?_
    cases hd : digit? 16 c with
    | none => simpa only [readHexDigits, hd] using .error .escape
    | some d => simpa only [readHexDigits, hd] using (ih (acc * 16 + d)).trim (trims_skip f)

theorem readHexBrace_local (n : Nat) (acc : Option Nat) : Local kept (readHexBrace f n acc) := by
  induction n generalizing acc with
  | zero => exact .error .escape
  | succ n ih =>
    refine .of_cons ⟨_, rfl⟩ fun c => ?_
    by_cases hc : c = '\x7d'
    · cases acc with
      | none => simpa only [readHexBrace, hc, if_true] using .error .escape
      | some n => simpa only [readHexBrace, hc, if_true] using (trims_skip f).pure n
    · cases hd : digit? 16 c with
      | none => simpa only [readHexBrace, hc, hd, if_false] using .error .escape
      | some d =>
        simpa only [readHexBrace, hc, hd, if_false] using
          (ih (some (acc.getD 0 * 16 + d))).trim (trims_skip f)

theorem readHexBrace_fuel (n m : Nat) (acc : Option Nat) (cs : List Char) (hn : cs.length < n)
    (hm : cs.length < m) : readHexBrace f n acc cs = readHexBrace f m acc cs := by
  induction n generalizing m acc cs with
  | zero => exact absurd hn (Nat.not_lt_zero _)
  | succ n ih =>
    obtain ⟨m, rfl⟩ := Nat.exists_eq_add_one_of_ne_zero (Nat.ne_zero_of_lt hm)
    cases cs with
    | nil => rfl
    | cons c r =>
      have hskip := ((trims_skip f).suffix r).length_le
      rw [List.length_cons] at hn hm
      simp only [readHexBrace]
      split
      · rfl
      · split
        · rfl
        · exact ih m _ _ (by omega) (by omega)

theorem readBraced_local (n : Nat) : Local kept (readBraced f n) := by
  induction n with
  | zero => exact .error .escape
  | succ n ih =>
    refine .of_cons ⟨_, rfl⟩ fun c => ?_
    by_cases hc : c = '\x7d'
    · exact (Local.pure []).congr fun cs => if_pos hc
    · exact ((ih.bind fun text => .pure (c :: text)).trim (trims_skip f)).congr fun cs => if_neg hc

theorem readBraced_fuel (n m : Nat) (cs : List Char) (hn : cs.length < n) (hm : cs.length < m) :
    readBraced f n cs = readBraced f m cs := by
  induction n generalizing m cs with
  | zero => exact absurd hn (Nat.not_lt_zero _)
  | succ n ih =>
    obtain ⟨m, rfl⟩ := Nat.exists_eq_add_one_of_ne_zero (Nat.ne_zero_of_lt hm)
    cases cs with
    | nil => rfl
    | cons c r =>
      have hskip := ((trims_skip f).suffix r).length_le
      rw [List.length_cons] at hn hm
      simp only [readBraced]
      rw [ih m (f.skip r) (by omega) (by omega)]

/-- Braces are read with as much fuel as the text in front of blanks has characters. -/
theorem braced_local : Local kept fun cs => readBraced f (cs.length + 1) (f.skip cs) := by
  have hbraced : Local kept fun cs => readBraced f (cs.length + 1) cs :=
    .of_fuel (F := fun n => readBraced f (n + 1)) (fun n => readBraced_local f _)
      fun n m cs hn hm => readBraced_fuel f _ _ cs (by omega) (by omega)
  refine (hbraced.trim (trims_skip f)).congr fun cs => ?_
  have hskip := ((trims_skip f).suffix cs).length_le
  exact readBraced_fuel f _ _ _ (by omega) (by omega)

theorem hexBrace_local : Local kept fun cs => readHexBrace f (cs.length + 1) none (f.skip cs) := by
  have hhex : Local kept fun cs => readHexBrace f (cs.length + 1) none cs :=
    .of_fuel (F := fun n => readHexBrace f (n + 1) none) (fun n => readHexBrace_local f _ _)
      fun n m cs hn hm => readHexBrace_fuel f _ _ none cs (by omega) (by omega)
  refine (hhex.trim (trims_skip f)).congr fun cs => ?_
  have hskip := ((trims_skip f).suffix cs).length_le
  exact readHexBrace_fuel f _ _ _ _ (by omega) (by omega)

theorem readDigits_local (mark : Char) : Local kept (readDigits f mark) := by
  have hplain : Local kept fun cs =>
      readHexDigits f (if mark = 'x' then 2 else if mark = 'u' then 4 else 8) 0 cs >>= fun r =>
        .ok ((r.1, decide (mark = 'x')), r.2) :=
    (readHexDigits_local f _ 0).bind fun n => .pure (n, decide (mark = 'x'))
  refine .of_head (· = '\x7b') (by decide) ?_ hplain fun cs hcs => ?_
  · rintro _ rfl
    exact ((hexBrace_local f).bind fun n => .pure (n, false)).congr fun _ => rfl
  · unfold readDigits
    split
    · exact absurd rfl (hcs _ _ rfl)
    · rfl

theorem readCode_local (mark : Char) : Local kept (readCode f mark) := by
  have hcode : Local kept _ := (readDigits_local f mark).bind fun d =>
    .lift (charEscape f d.2 d.1) .pure
  exact (hcode.trim (trims_skip f)).congr fun _ => rfl

theorem readPropertyName_local : Local kept (readPropertyName f) := by
  refine .of_cons ⟨_, rfl⟩ fun c => ?_
  by_cases hbrace : c = '\x7b'
  · exact (braced_local f).congr fun cs => if_pos hbrace
  · by_cases hslash : c = '\\'
    · exact (Local.error .escape).congr fun cs => (if_neg hbrace).trans (if_pos hslash)
    · exact ((trims_skip f).pure [c]).congr fun cs => (if_neg hbrace).trans (if_neg hslash)

theorem readProperty_local (negated : Bool) : Local kept (readProperty f negated) := by
  have hproperty : Local kept _ := (readPropertyName_local f).bind fun text =>
    .lift (propertyEscape f negated text) .pure
  exact (hproperty.trim (trims_skip f)).congr fun _ => rfl

/-! ### Boundaries -/

theorem readBoundaryName_local : Local kept (readBoundaryName f) := by
  have hname : Local kept _ := (braced_local f).bind fun name => .lift (boundaryEscape f name) .pure
  exact hname.congr fun _ => rfl

theorem readBoundary_shortens : Shortens (readBoundary f) := by
  intro cs a rest h
  unfold readBoundary at h
  split at h
  · next r =>
    split at h
    · cases h
    · split at h
      · have hname : Local [] (readBoundaryName f) := readBoundaryName_local f
        exact (hname.shortens r a rest h).trans (List.suffix_cons _ _)
      · cases h
        exact List.suffix_refl _
  · cases h
    exact List.suffix_refl _

/-- A boundary is read alike in front of a parenthesis unless it waits for its name. -/
theorem readBoundary_extends {cs : List Char} (hcs : ∀ r, cs = '\x7b' :: r → f.skip r ≠ []) :
    Extends kept (readBoundary f) cs := by
  cases cs with
  | nil => exact .left _ [] rfl fun _ _ => rfl
  | cons c r =>
    by_cases hc : c = '\x7b'
    · subst hc
      obtain ⟨d, t, hskip⟩ := List.exists_cons_of_ne_nil (hcs r rfl)
      have hmore := ((trims_skip f).extend r).resolve_right fun h => hcs r rfl h.1
      rw [hskip] at hmore
      by_cases hd : isBoundaryChar d = true
      · refine .of_eq (S := readBoundaryName f) ?_ (fun more hm => ?_)
          ((readBoundaryName_local f).extend r)
        · simp only [readBoundary, hskip, hd, if_true]
        · simp only [readBoundary, List.cons_append, hmore more hm, hd, if_true]
      · refine .left (.look (.boundary (!f.unicode) false)) ('\x7b' :: r) ?_
          fun more hm => ?_
        · simp [readBoundary, hskip, hd]
        · simp [readBoundary, hmore more hm, hd]
    · refine .left (.look (.boundary (!f.unicode) false)) (c :: r) ?_ fun more _ => ?_
      · simp [readBoundary, hc]
      · simp [readBoundary, hc]

/-- The text behind a backslash is `\b` with a brace behind which nothing stands. -/
def OpensBoundary (cs : List Char) : Prop :=
  ∃ r, cs = 'b' :: '\x7b' :: r ∧ f.skip r = []

/-- Behind a backslash any letter but `b` says how much is read. -/
theorem readEscape_cons_local {c : Char} (hc : c ≠ 'b') :
    Local kept fun cs => readEscape f (c :: cs) := by
  by_cases hdigit : c.isDigit = true
  · exact (Local.error .backReference).congr fun cs => if_pos hdigit
  by_cases hcode : (c = 'x' || c = 'u' || c = 'U') = true
  · exact (readCode_local f c).congr fun cs => (if_neg hdigit).trans (if_pos hcode)
  by_cases hproperty : (c = 'p' || c = 'P') = true
  · exact (readProperty_local f (c = 'P')).congr fun cs =>
      (if_neg hdigit).trans ((if_neg hcode).trans (if_pos hproperty))
  · exact (Local.lift (simpleEscape f c) .pure).congr fun cs =>
      (if_neg hdigit).trans ((if_neg hcode).trans ((if_neg hproperty).trans (if_neg hc)))

theorem readEscape_shortens : Shortens (readEscape f) := by
  intro cs a rest h
  cases cs with
  | nil => cases h
  | cons c r =>
    refine List.IsSuffix.trans ?_ (List.suffix_cons c r)
    by_cases hc : c = 'b'
    · subst hc
      exact readBoundary_shortens f r a rest h
    · have hrest : Local [] _ := readEscape_cons_local f hc
      exact hrest.shortens r a rest h

/-- An escape is read alike in front of a parenthesis unless it waits for the name of a boundary. -/
theorem readEscape_extends {cs : List Char} (hcs : ¬ OpensBoundary f cs) :
    Extends kept (readEscape f) cs := by
  cases cs with
  | nil =>
    refine .failed rfl fun more _ a rest h => ?_
    have hparen : Local kept _ := readEscape_cons_local f (by decide : ')' ≠ 'b')
    exact (hparen.shortens more a rest h).trans (List.suffix_append kept more)
  | cons c r =>
    by_cases hc : c = 'b'
    · subst hc
      refine .of_eq (S := readBoundary f) rfl (fun _ _ => rfl) (readBoundary_extends f ?_)
      exact fun t ht hskip => hcs ⟨t, by rw [ht], hskip⟩
    · exact .of_eq (S := fun cs => readEscape f (c :: cs)) rfl (fun _ _ => rfl)
        ((readEscape_cons_local f hc).extend r)

/-- A boundary that waits for its name is refused at the end of the text. -/
theorem OpensBoundary.error {cs : List Char} (h : OpensBoundary f cs) :
    readEscape f cs = .error .escape := by
  obtain ⟨r, rfl, hskip⟩ := h
  simp [readEscape, readBoundary, hskip]

/-- With a parenthesis behind it there is a boundary without a name, and the brace is left. -/
theorem OpensBoundary.extend {cs : List Char} (h : OpensBoundary f cs) {more : List Char}
    (hm : more ∈ tails) {e : Escape} {rest : List Char}
    (hread : readEscape f (cs ++ ')' :: more) = .ok (e, rest)) :
    (∃ l, e = .look l) ∧ ∃ t, rest = '\x7b' :: t ∧ f.skip t = ')' :: more := by
  obtain ⟨r, rfl, hskip⟩ := h
  change readBoundary f ('\x7b' :: (r ++ ')' :: more)) = _ at hread
  rcases (trims_skip f).extend r with hmore | ⟨-, hmore⟩
  · have hparen := hmore more hm
    rw [hskip, List.nil_append] at hparen
    simp only [readBoundary, hparen, show isBoundaryChar ')' = false by decide] at hread
    cases hread
    exact ⟨⟨_, rfl⟩, _, rfl, hparen⟩
  · simp only [readBoundary, hmore more hm] at hread
    cases hread

/-! ## Groups -/

/-- One character of a list of flags is refused, ends the list or sets something. -/
theorem readFlags_cons (value : Bool) (seen : List Char) (c : Char) :
    (∃ e, ∀ cs, readFlags f value seen (c :: cs) = .error e) ∨
      (∃ l, ∀ cs, readFlags f value seen (c :: cs) = .ok (l, cs)) ∨
      ∃ f' value' seen', ∀ cs, readFlags f value seen (c :: cs) = readFlags f' value' seen' cs := by
  by_cases hmark : (c = ':' || c = ')') = true
  · by_cases hdash : seen.head? = some '-'
    · exact .inl ⟨_, fun cs => (if_pos hmark).trans (if_pos hdash)⟩
    · exact .inr (.inl ⟨_, fun cs => (if_pos hmark).trans (if_neg hdash)⟩)
  by_cases hseen : seen.contains c = true
  · exact .inl ⟨_, fun cs => (if_neg hmark).trans (if_pos hseen)⟩
  by_cases hminus : c = '-'
  · exact .inr (.inr ⟨f, false, '-' :: seen, fun cs =>
      (if_neg hmark).trans ((if_neg hseen).trans (if_pos hminus))⟩)
  cases hset : f.set? value c with
  | none => exact .inl ⟨.flags, fun cs => by simp only [readFlags, hmark, hseen, hminus, hset]; rfl⟩
  | some f' =>
    exact .inr (.inr ⟨f', value, c :: seen, fun cs => by
      simp only [readFlags, hmark, hseen, hminus, hset]; rfl⟩)

theorem readFlags_shortens (value : Bool) (seen : List Char) : Shortens (readFlags f value seen) := by
  intro cs l rest h
  induction cs generalizing f value seen with
  | nil => cases h
  | cons c cs ih =>
    refine List.IsSuffix.trans ?_ (List.suffix_cons c cs)
    rcases readFlags_cons f value seen c with ⟨e, hc⟩ | ⟨l', hc⟩ | ⟨f', value', seen', hc⟩
    · rw [hc] at h
      cases h
    · rw [hc] at h
      cases h
      exact List.suffix_refl _
    · rw [hc] at h
      exact ih f' value' seen' h

theorem readFlags_local (value : Bool) (seen : List Char) :
    Local kept (readFlags f value seen) where
  shortens := readFlags_shortens f value seen
  extend cs := by
    induction cs generalizing f value seen with
    | nil =>
      refine .failed rfl fun more _ l rest h => List.IsSuffix.trans ?_ (List.suffix_append kept more)
      rw [List.nil_append] at h
      rcases readFlags_cons f value seen ')' with ⟨e, hc⟩ | ⟨l', hc⟩ | ⟨f', value', seen', hc⟩
      · rw [hc] at h
        cases h
      · rw [hc] at h
        cases h
        exact List.suffix_refl _
      · rw [hc] at h
        exact readFlags_shortens f' value' seen' _ _ _ h
    | cons c cs ih =>
      rcases readFlags_cons f value seen c with ⟨e, hc⟩ | ⟨l', hc⟩ | ⟨f', value', seen', hc⟩
      · exact .of_errors (hc cs) fun more _ => ⟨e, hc _⟩
      · exact .left l' cs (hc cs) fun more _ => hc _
      · exact .of_eq (hc cs) (fun more _ => hc _) (ih f' value' seen')

theorem readFlagList_local : Local kept (readFlagList f) := by
  have hflags : Local kept _ := (readFlags_local f true []).bind fun l => .lift l.opening .pure
  exact hflags.congr fun _ => rfl

theorem takeWhile_of_not_mem {mark : Char} {front : List Char} (h : mark ∉ front)
    (rest : List Char) : (front ++ rest).takeWhile (· != mark) = front ++ rest.takeWhile (· != mark) :=
  List.takeWhile_append_of_pos fun c hc => bne_iff_ne.2 fun (heq : c = mark) => h (heq ▸ hc)

/-- Without the bracket that ends it no name of a group is read. -/
theorem readGroupName_of_not_mem {cs : List Char} (h : '>' ∉ cs) :
    readGroupName cs = .error .groupName := by
  have hall := takeWhile_of_not_mem h []
  simp only [List.append_nil, List.takeWhile_nil] at hall
  simp [readGroupName, hall]

/-- The name of a group ends at the first bracket that closes it. -/
theorem readGroupName_append {name : List Char} (h : '>' ∉ name) (rest : List Char) :
    readGroupName (name ++ '>' :: rest) =
      if name.head?.any isGroupNameStart && name.tail.all isGroupNameTail then .ok (name, rest)
      else .error .groupName := by
  have hname : (name ++ '>' :: rest).takeWhile (· != '>') = name := by
    rw [takeWhile_of_not_mem h]
    simp
  unfold readGroupName
  simp only [hname, List.drop_left]
  cases name with
  | nil => rfl
  | cons c tail => simp

theorem readGroupName_local : Local kept readGroupName where
  shortens := by
    intro cs name rest h
    by_cases hmem : '>' ∈ cs
    · obtain ⟨before, after, rfl, hnot⟩ := List.eq_append_cons_of_mem hmem
      rw [readGroupName_append hnot] at h
      split at h
      · cases h
        exact (List.suffix_cons _ _).trans (List.suffix_append _ _)
      · cases h
    · rw [readGroupName_of_not_mem hmem] at h
      cases h
  extend cs := by
    by_cases hmem : '>' ∈ cs
    · obtain ⟨before, after, rfl, hnot⟩ := List.eq_append_cons_of_mem hmem
      have happend (more : List Char) :
          before ++ '>' :: after ++ more = before ++ '>' :: (after ++ more) := by simp
      cases hname : before.head?.any isGroupNameStart && before.tail.all isGroupNameTail with
      | true =>
        refine .left before after ?_ fun more _ => ?_
        · rw [readGroupName_append hnot, hname, if_pos rfl]
        · rw [happend, readGroupName_append hnot, hname, if_pos rfl]
      | false =>
        refine .of_errors (e := .groupName) ?_ fun more _ => ⟨.groupName, ?_⟩
        · rw [readGroupName_append hnot, hname, if_neg Bool.false_ne_true]
        · rw [happend, readGroupName_append hnot, hname, if_neg Bool.false_ne_true]
    · exact .of_errors (readGroupName_of_not_mem hmem) fun more hm =>
        ⟨_, readGroupName_of_not_mem (not_mem_append_tail hm (by decide) hmem)⟩

theorem readNamed_local : Local kept (readNamed f) := by
  have hnamed : Local kept _ := readGroupName_local.bind fun name =>
    .pure (Opening.group f true (some name))
  exact hnamed.congr fun _ => rfl

theorem readAngle_local : Local kept (readAngle f) := by
  refine .of_head (fun c => c = '=' ∨ c = '!') (by decide) ?_ (readNamed_local f) fun cs hcs => ?_
  · rintro _ (rfl | rfl)
    · exact .error .lookAround
    · exact .error .lookAround
  · unfold readAngle
    split
    · exact absurd (.inl rfl) (hcs _ _ rfl)
    · exact absurd (.inr rfl) (hcs _ _ rfl)
    · rfl

theorem readExtension_local : Local kept (readExtension f) := by
  refine .of_head (fun c => c = '=' ∨ c = '!' ∨ c = '<' ∨ c = 'P') (by decide) ?_
    (readFlagList_local f) fun cs hcs => ?_
  · rintro _ (rfl | rfl | rfl | rfl)
    · exact .error .lookAround
    · exact .error .lookAround
    · exact readAngle_local f
    · -- no flag is written with this letter
      refine .of_head (· = '<') (by decide) ?_ (.error .flags) fun cs hcs => ?_
      · rintro _ rfl
        exact readNamed_local f
      · unfold readExtension
        split
        · next h => cases h
        · next h => cases h
        · next h => cases h
        · next h =>
          cases h
          exact absurd rfl (hcs _ _ rfl)
        · rfl
  · unfold readExtension
    split
    · exact absurd (.inl rfl) (hcs _ _ rfl)
    · exact absurd (.inr (.inl rfl)) (hcs _ _ rfl)
    · exact absurd (.inr (.inr (.inl rfl))) (hcs _ _ rfl)
    · exact absurd (.inr (.inr (.inr rfl))) (hcs _ _ rfl)
    · rfl

theorem readGroupStart_local : Local kept (readGroupStart f) := by
  refine .of_head (· = '?') (by decide) ?_ (.pure (.group f true none)) fun cs hcs => ?_
  · rintro _ rfl
    exact readExtension_local f
  · unfold readGroupStart
    split
    · exact absurd rfl (hcs _ _ rfl)
    · rfl

theorem readOpening_local : Local kept (readOpening f) :=
  Local.trim (R := readGroupStart f) (trims_skip f) (readGroupStart_local f)

end TagSpec.Regex
