import TagSpec.Proofs.Source.Lexing
import TagSpec.Proofs.Source.Numbers

/-!
# Places between tokens

A text is cut in the same way in front of a place, whatever stands behind it, if a slash begins there:
`pieceAt_slash`, and from it `Separate.slash` for all items in front of the place.
-/

namespace TagSpec.Source

/-! ## One piece -/

def wordPiece (c : Char) (cs : List Char) : Piece × Nat :=
  let word := c :: cs.takeWhile isNameTail
  (.token (if keywords.contains (String.ofList word) then .keyword else .name), word.length - 1)

/-- The piece of what has an end, and of what is broken off without one. -/
def closedPiece (piece : Piece) (length : Option Nat) : Piece × Nat :=
  match length with
  | some n => (piece, n)
  | none => (.token .broken, 0)

/-- The length of a block comment behind its slash. -/
def blockLength? (cs : List Char) : Option Nat := (blockCommentLength? (cs.drop 1)).map (· + 1)

/-- The piece of a number or of a sign, or of what begins no token. -/
def plainPiece (c : Char) (cs : List Char) : Piece × Nat :=
  if numberLength (c :: cs) ≠ 0 then (.token .number, numberLength (c :: cs) - 1)
  else
    match sign? (c :: cs) with
    | some s => (.token .sign, s.length - 1)
    | none => (.token .stray, (cs.takeWhile isStray).length)

/-- A piece is told by the character that it begins with and the one behind it. -/
theorem pieceAt_eq (c : Char) (cs : List Char) :
    pieceAt c cs =
      if isAsciiBlank c then (.blank, 0)
      else if isNameStart c then wordPiece c cs
      else if c = '/' && cs.head? = some '/' then (.comment, (cs.takeWhile (· != '\n')).length)
      else if c = '/' && cs.head? = some '*' then closedPiece .comment (blockLength? cs)
      else if c = '"' then closedPiece (.token .string) (stringLength? cs)
      else if c = '\x60' then closedPiece (.token .string) (lengthThrough? '\x60' cs)
      else if c = '\'' then closedPiece (.token .rune) (runeLength? cs)
      else plainPiece c cs := by
  have hblock : closedPiece .comment (blockLength? cs) =
      match blockCommentLength? (cs.drop 1) with
      | some n => (.comment, n + 1)
      | none => (.token .broken, 0) := by
    unfold blockLength?
    cases blockCommentLength? (cs.drop 1) <;> rfl
  rw [hblock]
  rfl

/-! ## A slash behind a piece -/

theorem takeWhile_stop {ok : Char → Bool} {c : Char} (hc : ok c = false) {cs ds : List Char}
    (hle : ((cs ++ ds).takeWhile ok).length ≤ cs.length) (es : List Char) :
    (cs ++ c :: es).takeWhile ok = (cs ++ ds).takeWhile ok := by
  rw [List.takeWhile_append] at hle ⊢
  rw [List.takeWhile_append]
  split
  · next hall =>
    rw [if_pos hall, List.length_append] at hle
    have hnil : ds.takeWhile ok = [] := List.length_eq_zero_iff.1 (by omega)
    rw [hnil, List.takeWhile_cons_of_neg (by simp [hc])]
  · rfl

theorem wordPiece_slash {c : Char} {cs ds : List Char} (hn : (wordPiece c (cs ++ ds)).2 ≤ cs.length)
    (es : List Char) : wordPiece c (cs ++ '/' :: es) = wordPiece c (cs ++ ds) := by
  have hword : ((cs ++ ds).takeWhile isNameTail).length ≤ cs.length := by
    rwa [wordPiece, List.length_cons] at hn
  rw [wordPiece, wordPiece, takeWhile_stop (by rfl) hword]

/-- A line that ends in front of a place is the same whatever stands behind the place. -/
theorem takeWhile_line {cs ds : List Char}
    (h : ((cs ++ ds).takeWhile (· != '\n')).length < cs.length) (es : List Char) :
    (cs ++ es).takeWhile (· != '\n') = (cs ++ ds).takeWhile (· != '\n') := by
  have hend : (cs.takeWhile (· != '\n')).length ≠ cs.length := by
    intro hall
    rw [List.takeWhile_append, if_pos hall, List.length_append] at h
    omega
  rw [List.takeWhile_append, List.takeWhile_append, if_neg hend, if_neg hend]

theorem settles_blockLength? : Settles blockLength? where
  le cs n h := by
    obtain ⟨m, hm, rfl⟩ := Option.map_eq_some_iff.1 h
    have hle := settles_blockCommentLength?.le _ m hm
    have hpos := two_le_blockCommentLength? hm
    rw [List.length_drop] at hle
    omega
  append cs ds es n h hn := by
    obtain ⟨m, hm, rfl⟩ := Option.map_eq_some_iff.1 h
    obtain ⟨c, cs, rfl⟩ := List.exists_cons_of_length_pos (show 0 < cs.length by omega)
    have hes := settles_blockCommentLength?.append cs ds es m hm (Nat.le_of_succ_le_succ hn)
    exact Option.map_eq_some_iff.2 ⟨m, hes, rfl⟩

/-- A piece with an end is cut alike whatever follows it. -/
theorem closedPiece_append {f : List Char → Option Nat} (hf : Settles f) {kind piece : Piece}
    {cs ds : List Char} {n : Nat} (h : closedPiece kind (f (cs ++ ds)) = (piece, n))
    (hn : n ≤ cs.length) (hbroken : piece ≠ .token .broken) (es : List Char) :
    closedPiece kind (f (cs ++ es)) = (piece, n) := by
  cases hf' : f (cs ++ ds) with
  | none =>
    rw [hf'] at h
    cases h
    exact absurd rfl hbroken
  | some m =>
    rw [hf'] at h
    cases h
    rw [hf.append cs ds es n hf' hn]
    rfl

theorem plainPiece_slash {c : Char} {cs ds : List Char} {piece : Piece} {n : Nat}
    (h : plainPiece c (cs ++ ds) = (piece, n)) (hn : n ≤ cs.length)
    (hstray : piece ≠ .token .stray) (es : List Char) :
    plainPiece c (cs ++ '/' :: es) = (piece, n) := by
  have hnumber : numberLength (c :: cs ++ ds) ≤ (c :: cs).length →
      numberLength (c :: cs ++ '/' :: es) = numberLength (c :: cs ++ ds) := fun hle =>
    numberLength_slash hle es
  simp only [List.cons_append, List.length_cons] at hnumber
  unfold plainPiece at h ⊢
  by_cases hzero : numberLength (c :: (cs ++ ds)) = 0
  · rw [hnumber (by omega), if_neg (by simpa using hzero)]
    rw [if_neg (by simpa using hzero)] at h
    cases hsign : sign? (c :: (cs ++ ds)) with
    | none =>
      rw [hsign] at h
      cases h
      exact absurd rfl hstray
    | some s =>
      rw [hsign] at h
      cases h
      have hlength : s.length ≤ (c :: cs).length := by
        rw [List.length_cons]
        omega
      rw [← List.cons_append] at hsign
      have hsame := sign?_slash (List.cons_ne_nil c cs) hsign hlength es
      rw [List.cons_append] at hsame
      rw [hsame]
  · rw [if_pos hzero] at h
    cases h
    rw [hnumber (by omega), if_pos hzero]

/-- What is cut in front of a place is cut in the same way if a slash stands there, unless it is the
slash or the line in front of the place. -/
theorem pieceAt_slash {c : Char} {cs ds : List Char} {piece : Piece} {n : Nat}
    (h : pieceAt c (cs ++ ds) = (piece, n)) (hn : n ≤ cs.length)
    (hstray : piece ≠ .token .stray) (hbroken : piece ≠ .token .broken) (hslash : c = '/' → cs ≠ [])
    (hline : c = '/' → cs.head? = some '/' → n < cs.length) (es : List Char) :
    pieceAt c (cs ++ '/' :: es) = (piece, n) := by
  have hhead : ∀ d fs, (c = '/' && (cs ++ fs).head? = some d) = (c = '/' && cs.head? = some d) := by
    intro d fs
    by_cases hc : c = '/'
    · rw [List.head?_append_of_ne_nil _ (hslash hc)]
    · simp [hc]
  rw [pieceAt_eq] at h ⊢
  simp only [hhead] at h ⊢
  split at h
  · next hblank => rwa [if_pos hblank]
  next hblank =>
  rw [if_neg hblank]
  split at h
  · next hname =>
    rw [if_pos hname, wordPiece_slash (by rwa [h]), h]
  next hname =>
  rw [if_neg hname]
  split at h
  · next hcomment =>
    rw [if_pos hcomment]
    cases h
    simp only [Bool.and_eq_true, decide_eq_true_eq] at hcomment
    rw [takeWhile_line (hline hcomment.1 hcomment.2)]
  next hcomment =>
  rw [if_neg hcomment]
  split at h
  · next hblock =>
    rw [if_pos hblock]
    exact closedPiece_append settles_blockLength? h hn hbroken _
  next hblock =>
  rw [if_neg hblock]
  split at h
  · next hquote =>
    rw [if_pos hquote]
    exact closedPiece_append settles_stringLength? h hn hbroken _
  next hquote =>
  rw [if_neg hquote]
  split at h
  · next hback =>
    rw [if_pos hback]
    exact closedPiece_append (settles_lengthThrough? _) h hn hbroken _
  next hback =>
  rw [if_neg hback]
  split at h
  · next hrune =>
    rw [if_pos hrune]
    exact closedPiece_append settles_runeLength? h hn hbroken _
  · next hrune =>
    rw [if_neg hrune]
    exact plainPiece_slash h hn hstray es

/-! ## The length of a piece -/

theorem closedPiece_le {f : List Char → Option Nat} (hf : Settles f) (kind : Piece)
    (cs : List Char) : (closedPiece kind (f cs)).2 ≤ cs.length := by
  cases h : f cs with
  | none => exact Nat.zero_le _
  | some n => exact hf.le cs n h

theorem length_takeWhile_le (ok : Char → Bool) (cs : List Char) :
    (cs.takeWhile ok).length ≤ cs.length := (List.takeWhile_sublist ok).length_le

/-- A number, a sign or a stray character is no longer than the text. -/
theorem plainPiece_le (c : Char) (cs : List Char) : (plainPiece c cs).2 ≤ cs.length := by
  unfold plainPiece
  split
  · have hle := (scans_numberLength.run (c :: cs)).le
    rw [List.length_cons] at hle
    simp only
    omega
  · cases h : sign? (c :: cs) with
    | none => exact length_takeWhile_le isStray cs
    | some s =>
      have hprefix := List.find?_some h
      rw [List.isPrefixOf_iff_prefix] at hprefix
      have hle := hprefix.length_le
      rw [String.length_toList, List.length_cons] at hle
      simp only
      omega

/-- What is cut is part of the text. -/
theorem pieceAt_le (c : Char) (cs : List Char) : (pieceAt c cs).2 ≤ cs.length := by
  rw [pieceAt_eq]
  split
  · exact Nat.zero_le _
  split
  · exact length_takeWhile_le isNameTail cs
  split
  · exact length_takeWhile_le _ cs
  split
  · exact closedPiece_le settles_blockLength? _ cs
  split
  · exact closedPiece_le settles_stringLength? _ cs
  split
  · exact closedPiece_le (settles_lengthThrough? _) _ cs
  split
  · exact closedPiece_le settles_runeLength? _ cs
  · exact plainPiece_le c cs

/-! ## The items of a text -/

/-- The item of a piece with its text. -/
def Piece.item (text : List Char) (c : Char) : Piece → Item
  | .blank => .blank c
  | .comment => .comment text
  | .token kind => .token kind text

def itemsOf (cs : List Char) : List Item :=
  match cs with
  | [] => []
  | c :: r =>
    let piece := pieceAt c r
    piece.1.item (c :: r.take piece.2) c :: itemsOf (r.drop piece.2)
termination_by cs.length
decreasing_by simp only [List.length_drop, List.length_cons]; omega

/-- A blank is a single character. -/
theorem pieceAt_blank {c : Char} {r : List Char} (h : (pieceAt c r).1 = .blank) :
    (pieceAt c r).2 = 0 := by
  by_cases hblank : isAsciiBlank c = true
  · simp only [pieceAt, if_pos hblank]
  · unfold pieceAt at h
    simp only [if_neg hblank] at h
    repeat' split at h
    all_goals cases h

theorem text_item (c : Char) (r : List Char) :
    ((pieceAt c r).1.item (c :: r.take (pieceAt c r).2) c).text = c :: r.take (pieceAt c r).2 := by
  cases h : (pieceAt c r).1 with
  | blank =>
    rw [pieceAt_blank h]
    rfl
  | comment => rfl
  | token kind => rfl

theorem piece_item (piece : Piece) (text : List Char) (c : Char) : (piece.item text c).piece = piece := by
  cases piece <;> rfl

/-- A text is laid out of the items that it is cut into. -/
theorem layout_itemsOf (cs : List Char) : layout (itemsOf cs) = cs := by
  fun_induction itemsOf cs with
  | case1 => rfl
  | case2 c r piece ih =>
    rw [layout_cons, ih, text_item, List.cons_append, List.take_append_drop]

/-- A text is laid out of the items that it is cut into. -/
theorem separate_itemsOf (cs : List Char) : Separate (itemsOf cs) [] := by
  fun_induction itemsOf cs with
  | case1 => trivial
  | case2 c r piece ih =>
    refine ⟨⟨c, r.take piece.2, text_item c r, ?_⟩, ih⟩
    rw [layout_itemsOf, List.append_nil, List.take_append_drop, piece_item,
      List.length_take_of_le (pieceAt_le c r)]

/-! ## Items in front of a place -/

/-- An item behind which a slash is part of it: a slash by itself or the comment of a line. -/
def Item.joinsSlash (i : Item) : Bool :=
  i.text = ['/'] || (i.piece = .comment && "//".toList.isPrefixOf i.text)

/-- An item that begins no token and is not closed is found in no source that can be read. -/
def Item.isSound (i : Item) : Bool :=
  i.piece ≠ .token .stray && i.piece ≠ .token .broken

/-- An item in front of a place is cut in the same way if a slash stands there. -/
theorem Item.Cut.slash {i : Item} {p ds : List Char} (h : i.Cut (p ++ ds)) (hsound : i.isSound = true)
    (hjoins : p = [] → i.joinsSlash = false) (es : List Char) : i.Cut (p ++ '/' :: es) := by
  obtain ⟨c, cs, htext, hpiece⟩ := h
  refine ⟨c, cs, htext, ?_⟩
  simp only [isSound, Bool.and_eq_true, decide_eq_true_eq, ne_eq] at hsound
  rw [← List.append_assoc] at hpiece ⊢
  refine pieceAt_slash hpiece (by simp) hsound.1 hsound.2 ?_ ?_ es
  · rintro rfl hnil
    obtain ⟨rfl, rfl⟩ := List.append_eq_nil_iff.1 hnil
    simp [joinsSlash, htext] at hjoins
  · rintro rfl hhead
    by_contra hshort
    rw [List.length_append] at hshort
    obtain rfl := List.length_eq_zero_iff.1 (show p.length = 0 by omega)
    rw [List.append_nil] at hhead hpiece
    obtain ⟨t, rfl⟩ := List.head?_eq_some_iff.1 hhead
    have hcomment : i.piece = .comment := by
      have hfirst := congrArg Prod.fst hpiece
      simp only at hfirst
      rw [← hfirst]
      rfl
    simp [joinsSlash, htext, hcomment] at hjoins

theorem Separate.eq_nil {is : List Item} {rest : List Char} (h : Separate is rest)
    (hnil : layout is = []) : is = [] := by
  cases is with
  | nil => rfl
  | cons i is =>
    obtain ⟨⟨c, cs, htext, -⟩, -⟩ := h
    rw [layout_cons, htext] at hnil
    cases hnil

/-- Items in front of a place are cut in the same way if a slash stands there. -/
theorem Separate.slash {is : List Item} {ds : List Char} (h : Separate is ds)
    (hsound : ∀ i ∈ is, i.isSound = true) (hjoins : ∀ i ∈ is.getLast?, i.joinsSlash = false)
    (es : List Char) : Separate is ('/' :: es) := by
  induction is with
  | nil => trivial
  | cons i is ih =>
    obtain ⟨hi, his⟩ := h
    rw [List.forall_mem_cons] at hsound
    refine ⟨hi.slash hsound.1 (fun hnil => ?_) es, ih his hsound.2 (fun j hj => ?_)⟩
    · obtain rfl := his.eq_nil hnil
      exact hjoins i rfl
    · refine hjoins j ?_
      rw [List.getLast?_cons, hj]
      rfl

end TagSpec.Source
