import TagSpec.Proofs.Regex.Readers

/-!
# Classes in front of a parenthesis

A parenthesis in brackets stands for itself, so that a class that is not closed takes it for a member.
No bracket follows that closes the class: what is read of a class whole is local, though its parts are
so only up to the parenthesis.
-/

namespace TagSpec.Regex

variable {kept : List Char} (f : Flags)

/-! ## The start of a class -/

theorem readHyphens_local (n : Nat) (items : List Operand) :
    Local kept fun cs => .ok (readHyphens f n items cs) := by
  induction n generalizing items with
  | zero => exact .pure items
  | succ n ih =>
    refine .of_head (B := fun cs => .ok (items, cs)) (· = '-') (by decide) ?_ (.pure items)
      fun cs hcs => ?_
    · rintro _ rfl
      exact (ih (Operand.ofChar '-' :: items)).trim (trims_skip f)
    · cases cs with
      | nil => rfl
      | cons c r => simp [readHyphens, hcs c r rfl]

theorem readHyphens_fuel (n m : Nat) (items : List Operand) (cs : List Char) (hn : cs.length ≤ n)
    (hm : cs.length ≤ m) : readHyphens f n items cs = readHyphens f m items cs := by
  induction n generalizing m items cs with
  | zero =>
    obtain rfl := List.length_eq_zero_iff.1 (Nat.le_zero.1 hn)
    cases m <;> rfl
  | succ n ih =>
    cases cs with
    | nil => cases m <;> rfl
    | cons c r =>
      obtain ⟨m, rfl⟩ := Nat.exists_eq_add_one_of_ne_zero (Nat.ne_zero_of_lt hm)
      have hskip := ((trims_skip f).suffix r).length_le
      rw [List.length_cons] at hn hm
      by_cases hc : c = '-'
      · subst hc
        exact ih m _ _ (by omega) (by omega)
      · simp [readHyphens, hc]

theorem continuing_local {α : Type} (a : α) : Local [')'] (continuing a) where
  shortens := by
    intro cs b rest h
    unfold continuing at h
    split at h
    · cases h
    · cases h
      exact List.suffix_refl _
  extend cs := by
    cases cs with
    | nil =>
      refine .failed rfl fun more _ b rest h => ?_
      cases h
      exact List.suffix_refl _
    | cons c cs => exact .left a (c :: cs) rfl fun _ _ => rfl

theorem readFirstBracket_local (negated : Bool) (hyphens : List Operand) :
    Local [')'] (readFirstBracket f negated hyphens) := by
  cases hyphens with
  | nil =>
    refine .of_head (· = ']') (by decide) ?_ (continuing_local ⟨negated, none, []⟩)
      fun cs hcs => ?_
    · rintro _ rfl
      exact ((continuing_local _).trim (trims_skip f)).congr fun _ => rfl
    · unfold readFirstBracket
      split
      · exact absurd rfl (hcs _ _ rfl)
      · rfl
  | cons i is => exact continuing_local _

theorem openMembers_local (negated : Bool) : Local [')'] (openMembers f negated) := by
  have hhyphens : Local [')'] fun cs => .ok (readHyphens f cs.length [] cs) :=
    .of_fuel (F := fun n cs => .ok (readHyphens f n [] cs)) (fun n => readHyphens_local f n [])
      fun n m cs hn hm => by rw [readHyphens_fuel f n m [] cs hn hm]
  exact (hhyphens.bind (readFirstBracket_local f negated)).congr fun _ => rfl

theorem openNegated_local : Local [')'] (openNegated f) := by
  refine .of_head (· = '^') (by decide) ?_ (openMembers_local f false) fun cs hcs => ?_
  · rintro _ rfl
    exact ((openMembers_local f true).trim (trims_skip f)).congr fun _ => rfl
  · unfold openNegated
    split
    · exact absurd rfl (hcs _ _ rfl)
    · rfl

theorem openClass_local : Local [')'] (openClass f) :=
  Local.trim (R := openNegated f) (trims_skip f) (openNegated_local f)

/-! ## Classes by their names -/

theorem dropWhile_of_not_mem {mark : Char} {front : List Char} (h : mark ∉ front)
    (rest : List Char) : (front ++ rest).dropWhile (· != mark) = rest.dropWhile (· != mark) :=
  List.dropWhile_append_of_pos fun c hc => bne_iff_ne.2 fun (heq : c = mark) => h (heq ▸ hc)

/-- A parenthesis behind the text changes nothing in what is recognized, or that nothing is. -/
def Recognizes {α : Type} (R : List Char → Option (α × List Char)) : Prop :=
  ∀ cs, (R cs = none ∧ ∀ more ∈ tails, R (cs ++ ')' :: more) = none) ∨
    ∃ a rest, R cs = some (a, rest) ∧ rest <:+ cs ∧
      ∀ more ∈ tails, R (cs ++ ')' :: more) = some (a, rest ++ ')' :: more)

theorem Recognizes.map {α β : Type} {R : List Char → Option (α × List Char)} (hR : Recognizes R)
    (g : α → β) : Recognizes fun cs => (R cs).map fun r => (g r.1, r.2) := by
  intro cs
  rcases hR cs with ⟨hnone, hmore⟩ | ⟨a, rest, hsome, hrest, hmore⟩
  · exact .inl ⟨by simp [hnone], fun more hm => by simp [hmore more hm]⟩
  · exact .inr ⟨g a, rest, by simp [hsome], hrest, fun more hm => by simp [hmore more hm]⟩

/-- One thing is recognized behind a character, and another where it does not stand. -/
theorem Recognizes.of_choice {α : Type} {R S : List Char → Option (α × List Char)} (mark : Char)
    (hmark : mark ≠ ')') (hcons : Recognizes fun cs => R (mark :: cs)) (hS : Recognizes S)
    (hother : ∀ cs, cs.head? ≠ some mark → R cs = S cs) : Recognizes R := by
  intro cs
  by_cases hc : cs.head? = some mark
  · obtain ⟨cs, rfl⟩ := List.head?_eq_some_iff.1 hc
    rcases hcons cs with hnone | ⟨a, rest, hsome, hrest, hmore⟩
    · exact .inl hnone
    · exact .inr ⟨a, rest, hsome, hrest.trans (List.suffix_cons mark cs), hmore⟩
  · have happend (more : List Char) : R (cs ++ ')' :: more) = S (cs ++ ')' :: more) := by
      refine hother _ ?_
      cases cs with
      | nil => simpa using hmark.symm
      | cons c cs => exact hc
    simpa only [hother cs hc, happend] using hS cs

/-- What is recognized decides what is read. -/
theorem Local.of_recognizes {α β : Type} {Q : List Char → Option (α × List Char)} {R : Reader β}
    {A : α → Reader β} {B : Reader β} (hQ : Recognizes Q) (hA : ∀ a, Local kept (A a))
    (hB : Local kept B) (hsome : ∀ cs a rest, Q cs = some (a, rest) → R cs = A a rest)
    (hnone : ∀ cs, Q cs = none → R cs = B cs) : Local kept R where
  shortens cs b rest h := by
    rcases hQ cs with ⟨hno, -⟩ | ⟨a, text, hyes, htext, -⟩
    · exact hB.shortens _ _ _ ((hnone cs hno).symm.trans h)
    · exact ((hA a).shortens _ _ _ ((hsome cs a text hyes).symm.trans h)).trans htext
  extend cs := by
    rcases hQ cs with ⟨hno, hmore⟩ | ⟨a, text, hyes, -, hmore⟩
    · exact .of_eq (hnone cs hno) (fun more hm => hnone _ (hmore more hm)) (hB.extend cs)
    · exact .of_eq (hsome cs a text hyes) (fun more hm => hsome _ a _ (hmore more hm))
        ((hA a).extend text)

theorem readAsciiName_append {front : List Char} (h : ':' ∉ front) (rest : List Char) :
    readAsciiName? (front ++ ':' :: rest) =
      match rest with
      | ']' :: r => (CharSet.asciiClass? front).map (·, r)
      | _ => none := by
  have hdrop : (front ++ ':' :: rest).dropWhile (· != ':') = ':' :: rest :=
    dropWhile_of_not_mem h (':' :: rest)
  have htake : (front ++ ':' :: rest).takeWhile (· != ':') = front :=
    (takeWhile_of_not_mem h (':' :: rest)).trans (List.append_nil front)
  rw [readAsciiName?, hdrop, htake]
  rcases rest with _ | ⟨c, r⟩
  · rfl
  · by_cases hc : c = ']'
    · subst hc
      rfl
    · simp [hc]

/-- Without a colon nothing is named. -/
theorem readAsciiName_of_not_mem {cs : List Char} (h : ':' ∉ cs) : readAsciiName? cs = none := by
  have hnil := dropWhile_of_not_mem h []
  simp only [List.append_nil, List.dropWhile_nil] at hnil
  simp [readAsciiName?, hnil]

theorem recognizes_readAsciiName : Recognizes readAsciiName? := by
  intro cs
  by_cases hmem : ':' ∈ cs
  · obtain ⟨front, rest, rfl, hnot⟩ := List.eq_append_cons_of_mem hmem
    have happend (more : List Char) : front ++ ':' :: rest ++ more = front ++ ':' :: (rest ++ more) :=
      by simp
    simp only [happend, readAsciiName_append hnot]
    rcases rest with _ | ⟨c, rest⟩
    · exact .inl ⟨rfl, fun _ _ => rfl⟩
    by_cases hc : c = ']'
    · subst hc
      cases hclass : CharSet.asciiClass? front with
      | none => exact .inl ⟨rfl, fun _ _ => rfl⟩
      | some s =>
        exact .inr ⟨s, rest, rfl, ⟨front ++ [':', ']'], by simp⟩, fun _ _ => rfl⟩
    · exact .inl ⟨by simp [hc], fun more _ => by simp [hc]⟩
  · exact .inl ⟨readAsciiName_of_not_mem hmem, fun more hm =>
      readAsciiName_of_not_mem (not_mem_append_tail hm (by decide) hmem)⟩

theorem recognizes_readNegated : Recognizes readNegated? := by
  refine .of_choice '^' (by decide) (recognizes_readAsciiName.map (true, ·))
    (recognizes_readAsciiName.map (false, ·)) fun cs hcs => ?_
  unfold readNegated?
  split
  · exact absurd rfl hcs
  · rfl

theorem recognizes_readAsciiClass : Recognizes readAsciiClass? := by
  refine .of_choice ':' (by decide) recognizes_readNegated
    (fun _ => .inl ⟨rfl, fun _ _ => rfl⟩) fun cs hcs => ?_
  unfold readAsciiClass?
  split
  · exact absurd rfl hcs
  · rfl

theorem recognizes_signOf : Recognizes signOf? := by
  rintro (_ | ⟨a, _ | ⟨b, r⟩⟩)
  · exact .inl ⟨rfl, by decide⟩
  · refine .inl ⟨rfl, fun more _ => ?_⟩
    by_cases ha : a = ')'
    · simp [signOf?, ha, SetSign.ofChar?]
    · simp [signOf?, ha]
  · by_cases hab : a = b
    · cases hsign : SetSign.ofChar? a with
      | none => exact .inl ⟨by simp [signOf?, hsign], fun more _ => by simp [signOf?, hsign]⟩
      | some s =>
        refine .inr ⟨s, r, ?_, ?_, fun more _ => ?_⟩
        · simp [signOf?, ← hab, hsign]
        · exact (List.suffix_cons b r).trans (List.suffix_cons a (b :: r))
        · simp [signOf?, ← hab, hsign]
    · exact .inl ⟨by simp [signOf?, hab], fun more _ => by simp [signOf?, hab]⟩

/-! ## Members -/

/-- The text is a member that waits for the name of a boundary. -/
def OpensBoundaryMember (cs : List Char) : Prop :=
  ∃ r, cs = '\\' :: r ∧ OpensBoundary f r

/-- A member has at least one character. -/
theorem readClassMember_tail {cs : List Char} {e : Escape} {rest : List Char}
    (h : readClassMember f cs = .ok (e, rest)) : rest <:+ cs.tail := by
  unfold readClassMember at h
  split at h
  · cases h
  · exact readEscape_shortens f _ _ _ h
  · cases h
    exact List.suffix_refl _

theorem readClassMember_extends {cs : List Char} (hcs : ¬ OpensBoundaryMember f cs) :
    Extends kept (readClassMember f) cs := by
  rcases cs with _ | ⟨c, r⟩
  · refine .failed rfl fun more _ e rest h => ?_
    exact (readClassMember_tail f h).trans (List.suffix_append kept more)
  · by_cases hc : c = '\\'
    · subst hc
      exact .of_eq (S := readEscape f) rfl (fun _ _ => rfl)
        (readEscape_extends f fun hr => hcs ⟨r, rfl, hr⟩)
    · exact .left (.char c) r (by simp [readClassMember]) fun more _ => by simp [readClassMember]

/-- Neither a range nor a member can be made of a boundary. -/
theorem OpensBoundaryMember.refused {cs : List Char} (h : OpensBoundaryMember f cs) :
    readClassMember f cs = .error .escape ∧ ∀ more ∈ tails, ∀ e rest,
      readClassMember f (cs ++ ')' :: more) = .ok (e, rest) →
        (∃ l, e = .look l) ∧ ∃ t, rest = '\x7b' :: t := by
  obtain ⟨r, rfl, hr⟩ := h
  refine ⟨hr.error f, fun more hm e rest hread => ?_⟩
  obtain ⟨hlook, t, ht, -⟩ := hr.extend f hm hread
  exact ⟨hlook, t, ht⟩

/-- No range ends in a look. -/
theorem classRange_look (first : Escape) (l : Look) : ∃ e, classRange f first (.look l) = .error e := by
  unfold classRange
  cases classChar f first with
  | error e => exact ⟨e, rfl⟩
  | ok a => exact ⟨.classRange, rfl⟩

theorem readClassMember_shortens : Shortens (readClassMember f) := fun cs _ _ h =>
  (readClassMember_tail f h).trans (List.tail_suffix cs)

theorem readRangeTo_local (first : Escape) : Local kept (readRangeTo f first) where
  shortens := by
    have hlift (last : Escape) : Local kept _ := .lift (classRange f first last) .pure
    exact (readClassMember_shortens f).bind fun last => (hlift last).shortens
  extend cs := by
    by_cases hcs : OpensBoundaryMember f cs
    · obtain ⟨herr, hmore⟩ := hcs.refused f
      refine .of_errors (e := .escape) (by rw [readRangeTo, herr]; rfl) fun more hm => ?_
      cases hread : readClassMember f (cs ++ ')' :: more) with
      | error e => exact ⟨e, by rw [readRangeTo, hread]; rfl⟩
      | ok r =>
        obtain ⟨⟨l, hl⟩, -⟩ := hmore more hm r.1 r.2 hread
        obtain ⟨e, he⟩ := classRange_look f first l
        refine ⟨e, ?_⟩
        simp only [readRangeTo, hread, bind, Except.bind, hl, he]
    · exact (readClassMember_extends f hcs).bind_local fun last => .lift (classRange f first last) .pure

theorem single_local (first : Escape) : Local kept fun cs =>
    classOperand f first >>= fun o => .ok (o, cs) :=
  .lift (classOperand f first) .pure

/-- What follows a member is no range, if it begins with no dash. -/
theorem readRangeEnd_of_ne {first : Escape} {c : Char} (hc : c ≠ '-') (r : List Char) :
    readRangeEnd f first (c :: r) = classOperand f first >>= fun o => .ok (o, c :: r) := by
  unfold readRangeEnd
  split
  · next h => cases h
  · next h =>
    cases h
    exact absurd rfl hc
  · rfl

/-- Behind a dash a range ends, unless a bracket or another dash follows. -/
theorem readRangeEnd_dash {first : Escape} {d : Char} {r t : List Char} (h : f.skip r = d :: t) :
    readRangeEnd f first ('-' :: r) =
      if d = ']' || d = '-' then classOperand f first >>= fun o => .ok (o, '-' :: r)
      else readRangeTo f first (d :: t) := by
  simp only [readRangeEnd, h]
  rfl

theorem readRangeEnd_shortens (first : Escape) : Shortens (readRangeEnd f first) := by
  rintro (_ | ⟨c, r⟩) o rest h
  · cases h
  have hsingle : Local [] _ := single_local f first
  have hto : Local [] _ := readRangeTo_local f first
  by_cases hc : c = '-'
  · subst hc
    cases hskip : f.skip r with
    | nil =>
      simp only [readRangeEnd, hskip] at h
      cases h
    | cons d t =>
      rw [readRangeEnd_dash f hskip] at h
      split at h
      · exact hsingle.shortens _ _ _ h
      · have hrest := hto.shortens _ _ _ h
        rw [← hskip] at hrest
        exact (hrest.trans ((trims_skip f).suffix r)).trans (List.suffix_cons '-' r)
  · rw [readRangeEnd_of_ne f hc] at h
    exact hsingle.shortens _ _ _ h

theorem readRangeEnd_local (first : Escape) : Local [')'] (readRangeEnd f first) where
  shortens := readRangeEnd_shortens f first
  extend cs := by
    rcases cs with _ | ⟨c, r⟩
    · exact .failed rfl fun more _ o rest h => readRangeEnd_shortens f first _ _ _ h
    by_cases hc : c = '-'
    · subst hc
      cases hskip : f.skip r with
      | nil =>
        -- at most the parenthesis ends the range
        refine .failed (by simp only [readRangeEnd, hskip]; rfl) fun more hm o rest h => ?_
        rw [List.cons_append] at h
        rcases (trims_skip f).extend r with hmore | ⟨-, hmore⟩
        · have hparen := hmore more hm
          rw [hskip, List.nil_append] at hparen
          rw [readRangeEnd_dash f hparen] at h
          have hto : Local [] _ := readRangeTo_local f first
          exact hto.shortens _ _ _ h
        · simp only [readRangeEnd, hmore more hm] at h
          cases h
      | cons d t =>
        have hmore := ((trims_skip f).extend r).resolve_right fun h => by simp [hskip] at h
        rw [hskip] at hmore
        by_cases hd : (d = ']' || d = '-') = true
        · refine .of_eq ?_ (fun more hm => ?_) ((single_local f first).extend ('-' :: r))
          · rw [readRangeEnd_dash f hskip, if_pos hd]
          · rw [List.cons_append, readRangeEnd_dash f (hmore more hm), if_pos hd]
        · refine .of_eq ?_ (fun more hm => ?_) ((readRangeTo_local f first).extend (d :: t))
          · rw [readRangeEnd_dash f hskip, if_neg hd]
          · rw [List.cons_append, readRangeEnd_dash f (hmore more hm), if_neg hd]
            rfl
    · exact .of_eq (readRangeEnd_of_ne f hc r) (fun more _ => readRangeEnd_of_ne f hc _)
        ((single_local f first).extend (c :: r))

theorem readClassRange_tail {cs : List Char} {o : Operand} {rest : List Char}
    (h : readClassRange f cs = .ok (o, rest)) : rest <:+ cs.tail := by
  obtain ⟨r, hmember, hend⟩ := bind_eq_ok_iff.1 h
  exact (readRangeEnd_shortens f r.1 _ _ _ hend).trans
    (((trims_skip f).suffix r.2).trans (readClassMember_tail f hmember))

theorem readClassRange_local : Local [')'] (readClassRange f) where
  shortens cs _ _ h := (readClassRange_tail f h).trans (List.tail_suffix cs)
  extend cs := by
    by_cases hcs : OpensBoundaryMember f cs
    · obtain ⟨herr, hmore⟩ := hcs.refused f
      refine .of_errors (e := .escape) (by rw [readClassRange, herr]; rfl) fun more hm => ?_
      cases hread : readClassMember f (cs ++ ')' :: more) with
      | error e => exact ⟨e, by rw [readClassRange, hread]; rfl⟩
      | ok r =>
        obtain ⟨first, rest⟩ := r
        obtain ⟨⟨l, rfl⟩, t, rfl⟩ := hmore more hm first rest hread
        refine ⟨.classItem, ?_⟩
        have hbrace : f.skip ('\x7b' :: t) = '\x7b' :: t := skip_cons f (by decide) (by decide) t
        rw [readClassRange, hread]
        simp only [bind, Except.bind, hbrace]
        rw [readRangeEnd_of_ne f (by decide)]
        rfl
    · exact (readClassMember_extends f hcs).bind_local fun first =>
        ((readRangeEnd_local f first).trim (trims_skip f)).congr fun _ => rfl

/-! ## Parts -/

variable (o : OpenClass) (outer : List OpenClass)

theorem readInner_local : Local [')'] (readInner f o outer) := by
  refine .of_recognizes recognizes_readAsciiClass
    (fun x => .lift (asciiOperand f x.1 x.2) fun operand => .pure (o.push operand, outer))
    ((openClass_local f).bind fun inner => .pure (inner, o :: outer)) (fun cs x rest h => ?_)
    fun cs h => ?_
  · simp only [readInner, h]
    rfl
  · simp only [readInner, h]
    rfl

theorem signOf_tail {cs : List Char} {sign : SetSign} {rest : List Char}
    (h : signOf? cs = some (sign, rest)) : rest <:+ cs.tail := by
  unfold signOf? at h
  split at h
  · next a b r =>
    split at h
    · obtain ⟨_, -, heq⟩ := Option.map_eq_some_iff.1 h
      cases heq
      exact List.suffix_cons b _
    · cases h
  · cases h

theorem readMember_tail {cs : List Char} {o' : OpenClass} {rest : List Char}
    (h : readMember f o cs = .ok (o', rest)) : rest <:+ cs.tail := by
  unfold readMember at h
  split at h
  · next hsign =>
    cases h
    exact signOf_tail hsign
  · obtain ⟨r, hrange, hr⟩ := bind_eq_ok_iff.1 h
    cases hr
    exact readClassRange_tail f hrange

theorem readMember_local : Local [')'] (readMember f o) := by
  refine .of_recognizes recognizes_signOf (fun sign => .pure (o.signed f sign))
    ((readClassRange_local f).bind fun operand => .pure (o.push operand)) (fun cs sign rest h => ?_)
    fun cs h => ?_
  · simp only [readMember, h]
  · simp only [readMember, h]
    rfl

theorem readClassPart_local : Local [')'] (readClassPart f o outer) := by
  have hmember : Local [')'] _ := (readMember_local f o).bind fun o' => .pure (o', outer)
  refine .of_head (· = '[') (by decide) ?_ hmember fun cs hcs => ?_
  · rintro _ rfl
    exact readInner_local f o outer
  · unfold readClassPart
    split
    · rfl
    · exact absurd rfl (hcs _ _ rfl)
    · rfl

/-- A part of a class has at least one character. -/
theorem readClassPart_tail {cs : List Char} {state : OpenClass × List OpenClass} {rest : List Char}
    (h : readClassPart f o outer cs = .ok (state, rest)) : rest <:+ cs.tail := by
  unfold readClassPart at h
  split at h
  · cases h
  · exact (readInner_local f o outer).shortens _ _ _ h
  · obtain ⟨r, hmember, hr⟩ := bind_eq_ok_iff.1 h
    cases hr
    exact readMember_tail f o hmember

/-! ## Whole classes -/

/-- Closes a class and reads on in the one around it, if there is one. -/
def closeAndRead (n : Nat) : Reader Operand := fun cs =>
  o.close f >>= fun closed =>
    match outer with
    | [] => .ok (closed, cs)
    | p :: ps => readClass f n (p.push closed) ps cs

/-- Reads a part of a class and what follows it. -/
def readPartAndRest (n : Nat) : Reader Operand := fun cs =>
  readClassPart f o outer cs >>= fun r => readClass f n r.1.1 r.1.2 r.2

/-- One step of reading a class, when blanks have been skipped. -/
def readClassStep (n : Nat) : Reader Operand
  | ']' :: r => closeAndRead f o outer n r
  | cs => readPartAndRest f o outer n cs

theorem readClass_succ (n : Nat) (cs : List Char) :
    readClass f (n + 1) o outer cs = readClassStep f o outer n (f.skip cs) := rfl

theorem readClassStep_of_ne (n : Nat) {cs : List Char} (h : cs.head? ≠ some ']') :
    readClassStep f o outer n cs = readPartAndRest f o outer n cs := by
  unfold readClassStep
  split
  · exact absurd rfl h
  · rfl

/-- Without a bracket that closes it no class is read. -/
theorem readClass_of_not_mem (n : Nat) {cs : List Char} (h : ']' ∉ cs) :
    ∃ e, readClass f n o outer cs = .error e := by
  induction n generalizing o outer cs with
  | zero => exact ⟨_, rfl⟩
  | succ n ih =>
    have hskip := (trims_skip f).suffix cs
    rw [readClass_succ, readClassStep_of_ne f o outer n fun hhead =>
      h (hskip.subset (List.mem_of_mem_head? hhead)), readPartAndRest]
    cases hread : readClassPart f o outer (f.skip cs) with
    | error e => exact ⟨e, rfl⟩
    | ok r =>
      have hrest := ((readClassPart_local f o outer).shortens _ _ _ hread).trans hskip
      exact ih r.1.1 r.1.2 fun hmem => h (hrest.subset hmem)

/-- What is left of an open class in front of the end of an anchored pattern has no bracket. -/
theorem readClass_tail (n : Nat) {more text : List Char} (hm : more ∈ tails)
    (htext : text <:+ [')'] ++ more) : ∃ e, readClass f n o outer text = .error e :=
  readClass_of_not_mem f o outer n fun h => not_mem_tail hm (by decide) (htext.subset h)

/-- A class is read without a look behind its end. -/
theorem readClass_local (n : Nat) : Local [] (readClass f n o outer) := by
  induction n generalizing o outer with
  | zero => exact .error .unclosedClass
  | succ n ih =>
    have hclose : Local [] (closeAndRead f o outer n) := .lift (o.close f) fun closed => by
      cases outer with
      | nil => exact .pure closed
      | cons p ps => exact ih (p.push closed) ps
    have hpart : Local [] (readPartAndRest f o outer n) :=
      (readClassPart_local f o outer).bind_failing (fun state => ih state.1 state.2)
        fun more hm state text htext => readClass_tail f state.1 state.2 n hm htext
    have hstep : Local [] (readClassStep f o outer n) := by
      refine .of_head (· = ']') (by decide) (fun _ hc => hc ▸ hclose) hpart fun cs hcs => ?_
      refine readClassStep_of_ne f o outer n fun hhead => ?_
      obtain ⟨r, rfl⟩ := List.head?_eq_some_iff.1 hhead
      exact hcs _ _ rfl rfl
    exact (hstep.trim (trims_skip f)).congr fun _ => rfl

/-- A class is read alike with any fuel that suffices. -/
theorem readClass_fuel (n m : Nat) {cs : List Char} (hn : cs.length < n) (hm : cs.length < m) :
    readClass f n o outer cs = readClass f m o outer cs := by
  induction n generalizing m o outer cs with
  | zero => exact absurd hn (Nat.not_lt_zero _)
  | succ n ih =>
    obtain ⟨m, rfl⟩ := Nat.exists_eq_add_one_of_ne_zero (Nat.ne_zero_of_lt hm)
    rw [readClass_succ, readClass_succ]
    have hskip := ((trims_skip f).suffix cs).length_le
    by_cases hhead : (f.skip cs).head? = some ']'
    · obtain ⟨r, hr⟩ := List.head?_eq_some_iff.1 hhead
      rw [hr, List.length_cons] at hskip
      simp only [hr, readClassStep, closeAndRead]
      refine bind_congr fun closed => ?_
      cases outer with
      | nil => rfl
      | cons p ps => exact ih _ _ m (by omega) (by omega)
    · rw [readClassStep_of_ne f o outer n hhead, readClassStep_of_ne f o outer m hhead,
        readPartAndRest, readPartAndRest]
      cases hread : readClassPart f o outer (f.skip cs) with
      | error e => rfl
      | ok r =>
        have hrest := (readClassPart_tail f o outer hread).length_le
        have hne : f.skip cs ≠ [] := fun hnil => by
          rw [hnil] at hread
          cases hread
        have hpos := List.length_pos_iff.2 hne
        rw [List.length_tail] at hrest
        exact ih r.1.1 r.1.2 m (by omega) (by omega)

/-- A class behind its first bracket. -/
theorem bracketed_local : Local [] fun cs => openClass f cs >>= fun r =>
    readClass f (r.2.length + 1) r.1 [] r.2 := by
  refine (openClass_local f).bind_failing (K := fun inner cs => readClass f (cs.length + 1) inner [] cs)
    (fun inner => ?_) fun more hm inner text htext => readClass_tail f inner [] _ hm htext
  exact .of_fuel (F := fun n => readClass f (n + 1) inner []) (fun n => readClass_local f inner [] _)
    fun n m cs hn hm => readClass_fuel f inner [] _ _ (by omega) (by omega)

end TagSpec.Regex
