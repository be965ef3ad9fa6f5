import TagSpec.Proofs.Source.Places
import TagSpec.Proofs.Text.Digits
import TagSpec.Source.Lexing

/-!
# Cutting what was laid out

A text that is laid out of blanks, comments and tokens is cut into the same pieces again if each of
them ends where the next one begins. The tokens then follow from the pieces alone.
-/

namespace TagSpec.Source

/-! ## Items -/

/-- A piece that a text is laid out of. -/
inductive Item where
  | blank (c : Char)
  | comment (text : List Char)
  | token (kind : TokenKind) (text : List Char)
deriving DecidableEq, Repr

namespace Item

def text : Item → List Char
  | blank c => [c]
  | comment text => text
  | token _ text => text

def piece : Item → Piece
  | blank _ => .blank
  | comment _ => .comment
  | token kind _ => .token kind

def marks (m : Marks) : Item → Marks
  | blank c => { m with newline := m.newline || c = '\n' }
  | comment text => { m with comment := some (m.comment.getD text) }
  | token kind text => ⟨endsStatement kind text, false, none, kind = .name⟩

def tokens (m : Marks) : Item → List Token
  | token kind text =>
    [⟨kind, text, Position.start, m.newline && m.ended, m.comment, m.afterName && kind = .finish⟩]
  | _ => []

/-- The item is cut from a text in which `rest` follows it. -/
def Cut (i : Item) (rest : List Char) : Prop :=
  ∃ c cs, i.text = c :: cs ∧ pieceAt c (cs ++ rest) = (i.piece, cs.length)

end Item

/-- The text that items are laid out to. -/
def layout (is : List Item) : List Char := is.flatMap Item.text

@[simp] theorem layout_nil : layout [] = [] := rfl

@[simp] theorem layout_cons (i : Item) (is : List Item) : layout (i :: is) = i.text ++ layout is := rfl

@[simp] theorem layout_append (is js : List Item) : layout (is ++ js) = layout is ++ layout js :=
  List.flatMap_append

theorem layout_flatMap {α : Type} (as : List α) (items : α → List Item) :
    layout (as.flatMap items) = as.flatMap fun a => layout (items a) := by
  rw [layout, List.flatMap_assoc]
  rfl

/-- Each item is cut from the text of all items with `rest` behind them. -/
def Separate : List Item → List Char → Prop
  | [], _ => True
  | i :: is, rest => i.Cut (layout is ++ rest) ∧ Separate is rest

theorem separate_append {is js : List Item} {rest : List Char}
    (his : Separate is (layout js ++ rest)) (hjs : Separate js rest) : Separate (is ++ js) rest := by
  induction is with
  | nil => exact hjs
  | cons i is ih =>
    obtain ⟨hi, his⟩ := his
    refine ⟨?_, ih his⟩
    show i.Cut (layout (is ++ js) ++ rest)
    rw [layout_append, List.append_assoc]
    exact hi

/-- Items that are cut whatever follows them. -/
def Closed (is : List Item) : Prop := ∀ rest, Separate is rest

theorem Closed.append {is js : List Item} (his : Closed is) (hjs : Closed js) : Closed (is ++ js) :=
  fun rest => separate_append (his _) (hjs rest)

/-! ## Tokens -/

/-- The marks behind items. -/
def marksOf (m : Marks) (is : List Item) : Marks := is.foldl Item.marks m

def itemTokens (m : Marks) : List Item → List Token
  | [] => []
  | i :: is => i.tokens m ++ itemTokens (i.marks m) is

/-- The token for the end of a text, without a place. -/
def finish (m : Marks) : Token :=
  ⟨.finish, [], Position.start, m.newline && m.ended, m.comment, m.afterName⟩

/-- The tokens of a text that is laid out of items are those of the items. -/
theorem lexFrom_layout {is : List Item} (h : Separate is []) (p : Position) (m : Marks) :
    (lexFrom p m (layout is)).map Token.bare = itemTokens m is ++ [finish (marksOf m is)] := by
  induction is generalizing p m with
  | nil =>
    rw [layout_nil, lexFrom]
    simp [Token.bare, itemTokens, finish, marksOf]
  | cons i is ih =>
    obtain ⟨⟨c, cs, htext, hpiece⟩, his⟩ := h
    rw [List.append_nil] at hpiece
    rw [layout_cons, htext, List.cons_append, lexFrom, hpiece]
    simp only [List.take_left, List.drop_left]
    cases i with
    | blank b =>
      cases htext
      exact ih his _ _
    | comment text =>
      cases htext
      exact ih his _ _
    | token kind text =>
      cases htext
      simp only [Item.piece, List.map_cons, ih his]
      rfl

/-! ## The byte order mark -/

/-- The byte order mark in front of a text, if there is one. -/
def markOf (text : List Char) : List Char := (text.take 1).filter (· = byteOrderMark)

/-- The text behind the byte order mark. -/
def codeOf (text : List Char) : List Char := text.drop (markOf text).length

theorem markOf_eq (text : List Char) :
    markOf text = if text.head? = some byteOrderMark then [byteOrderMark] else [] := by
  cases text with
  | nil => rfl
  | cons c r =>
    by_cases hc : c = byteOrderMark <;> simp [markOf, hc]

/-- A text is its byte order mark, if there is one, and what is behind it. -/
theorem markOf_append_codeOf (text : List Char) : markOf text ++ codeOf text = text := by
  rw [codeOf, markOf_eq]
  cases text with
  | nil => rfl
  | cons c r =>
    by_cases hc : c = byteOrderMark <;> simp [hc]

/-- The tokens of a text are cut from what is behind its mark. -/
theorem lex_eq (text : List Char) :
    lex text = lexFrom (Position.start.afterAll (markOf text)) .start (codeOf text) := by
  rw [codeOf, markOf_eq]
  unfold lex
  cases text with
  | nil => rfl
  | cons c r =>
    by_cases hc : c = byteOrderMark <;> simp [hc]

/-! ## Names and keywords -/

/-- A text that the lexer reads as one word: a name or a keyword. -/
def isWord : List Char → Bool
  | [] => false
  | c :: cs => isNameStart c && cs.all isNameTail

/-- Whether a text does not go on with a word. -/
def endsWord (rest : List Char) : Bool := rest.head?.all fun c => !isNameTail c

theorem isNameStart_of_blank {c : Char} (h : isAsciiBlank c = true) : isNameStart c = false := by
  have hcodes : ∀ n ∈ [9, 10, 11, 12, 13, 32], isNameStart (Char.ofNat n) = false := by decide
  have hcode : c.toNat ∈ [9, 10, 11, 12, 13, 32] := by
    simp only [isAsciiBlank, Bool.or_eq_true, Bool.and_eq_true, decide_eq_true_eq, beq_iff_eq] at h
    simp only [List.mem_cons, List.not_mem_nil, or_false]
    omega
  rw [← Char.ofNat_toNat c]
  exact hcodes _ hcode

theorem takeWhile_append_of_ends {p : Char → Bool} {cs rest : List Char}
    (h : ∀ c ∈ cs, p c = true) (hrest : rest.head?.all (fun c => !p c) = true) :
    (cs ++ rest).takeWhile p = cs := by
  rw [List.takeWhile_append_of_pos h]
  cases rest with
  | nil => simp
  | cons c rest =>
    have hc : p c = false := by simpa using hrest
    simp [hc]

namespace Item

variable {c : Char} {cs text rest : List Char}

theorem cut_blank (h : isAsciiBlank c = true) : (Item.blank c).Cut rest :=
  ⟨c, [], rfl, by simp [pieceAt, h, piece]⟩

/-- A word is cut up to where it does not go on. -/
theorem pieceAt_word (h : isWord (c :: cs) = true) (hrest : endsWord rest = true) :
    pieceAt c (cs ++ rest) =
      (.token (if keywords.contains (String.ofList (c :: cs)) then .keyword else .name),
        cs.length) := by
  simp only [isWord, Bool.and_eq_true, List.all_eq_true] at h
  have hblank : isAsciiBlank c = false := by
    cases hb : isAsciiBlank c with
    | false => rfl
    | true => simp [isNameStart_of_blank hb] at h
  simp [pieceAt, hblank, h.1, takeWhile_append_of_ends h.2 hrest]

/-- A word that is no keyword is cut as a name where it ends. -/
theorem cut_name (h : isWord text = true) (hk : keywords.contains (String.ofList text) = false)
    (hrest : endsWord rest = true) : (Item.token .name text).Cut rest := by
  cases text with
  | nil => cases h
  | cons c cs =>
    refine ⟨c, cs, rfl, ?_⟩
    rw [pieceAt_word h hrest, hk]
    rfl

/-- A keyword is cut where it ends. -/
theorem cut_keyword (h : isWord text = true) (hk : keywords.contains (String.ofList text) = true)
    (hrest : endsWord rest = true) : (Item.token .keyword text).Cut rest := by
  cases text with
  | nil => cases h
  | cons c cs =>
    refine ⟨c, cs, rfl, ?_⟩
    rw [pieceAt_word h hrest, hk]
    rfl

/-! ## Comments and literals -/

/-- A line comment is cut up to the end of its line. -/
theorem cut_comment (h : '\n' ∉ cs) : (Item.comment ('/' :: '/' :: cs)).Cut ('\n' :: rest) := by
  have hall : ∀ d ∈ '/' :: cs, (d != '\n') = true := by
    intro d hd
    rcases List.mem_cons.1 hd with rfl | hd
    · decide
    · simpa using fun e : d = '\n' => h (e ▸ hd)
  have htake : ('/' :: cs ++ '\n' :: rest).takeWhile (· != '\n') = '/' :: cs :=
    takeWhile_append_of_ends hall rfl
  refine ⟨'/', '/' :: cs, rfl, ?_⟩
  unfold pieceAt
  rw [htake]
  simp [piece, show isAsciiBlank '/' = false by decide, show isNameStart '/' = false by decide]

theorem cut_string (h : stringLength? (cs ++ rest) = some cs.length) :
    (Item.token .string ('"' :: cs)).Cut rest := by
  refine ⟨'"', cs, rfl, ?_⟩
  simp [pieceAt, h, piece, show isAsciiBlank '"' = false by decide,
    show isNameStart '"' = false by decide]

/-- A raw string is cut up to the next back quote. -/
theorem cut_rawString (h : '\x60' ∉ cs) :
    (Item.token .string ('\x60' :: (cs ++ ['\x60']))).Cut rest := by
  have hall : ∀ d ∈ cs, (d != '\x60') = true := by
    intro d hd
    simpa using fun e : d = '\x60' => h (e ▸ hd)
  have htake : (cs ++ '\x60' :: rest).takeWhile (· != '\x60') = cs :=
    takeWhile_append_of_ends hall rfl
  refine ⟨'\x60', cs ++ ['\x60'], rfl, ?_⟩
  rw [List.append_assoc, List.singleton_append]
  simp [pieceAt, lengthThrough?, htake, piece, show isAsciiBlank '\x60' = false by decide,
    show isNameStart '\x60' = false by decide]

/-! ## Signs -/

/-- A sign is cut if it is the longest one and begins nothing else. -/
theorem cut_sign {s : String} (hs : s.toList = c :: cs) (hblank : isAsciiBlank c = false)
    (hname : isNameStart c = false) (hmarks : c ∉ ['/', '"', '\x60', '\''])
    (hnumber : numberLength (c :: (cs ++ rest)) = 0) (hsign : sign? (c :: (cs ++ rest)) = some s) :
    (Item.token .sign s.toList).Cut rest := by
  have hlength : s.length = cs.length + 1 := by
    rw [← String.length_toList, hs, List.length_cons]
  simp only [List.mem_cons, List.not_mem_nil, or_false, not_or] at hmarks
  refine ⟨c, cs, hs, ?_⟩
  simp [pieceAt, hblank, hname, hmarks, hnumber, hsign, piece, hlength]

/-- No longer sign begins with a brace or a comma. -/
theorem cut_brace {s : String} (h : s ∈ ["\x7b", "\x7d", ","]) :
    (Item.token .sign s.toList).Cut rest := by
  simp only [List.mem_cons, List.not_mem_nil, or_false] at h
  rcases h with rfl | rfl | rfl
  · exact cut_sign rfl (by decide) (by decide) (by decide) rfl rfl
  · exact cut_sign rfl (by decide) (by decide) (by decide) rfl rfl
  · exact cut_sign rfl (by decide) (by decide) (by decide) rfl rfl

/-- A sign before a blank is cut there. -/
theorem cut_signBlank {s : String} (h : s ∈ ["=", ":"]) :
    (Item.token .sign s.toList).Cut (' ' :: rest) := by
  simp only [List.mem_cons, List.not_mem_nil, or_false] at h
  rcases h with rfl | rfl
  · exact cut_sign rfl (by decide) (by decide) (by decide) rfl rfl
  · exact cut_sign rfl (by decide) (by decide) (by decide) rfl rfl

end Item

/-! ## Written literals -/

/-- A character that is written as it is adds one to the length of a string. -/
theorem stringLength?_char {c : Char} (hq : c ≠ '"') (hn : c ≠ '\n') (hb : c ≠ '\\')
    (cs : List Char) : stringLength? (c :: cs) = (stringLength? cs).map (· + 1) := by
  rw [stringLength?.eq_def]
  simp only [if_neg hq, if_neg hn, if_neg hb]

theorem stringLength?_chars {cs : List Char} (h : ∀ c ∈ cs, c ≠ '"' ∧ c ≠ '\n' ∧ c ≠ '\\')
    (rest : List Char) :
    stringLength? (cs ++ rest) = (stringLength? rest).map (· + cs.length) := by
  induction cs with
  | nil => cases h : stringLength? rest <;> simp [h]
  | cons c cs ih =>
    obtain ⟨hq, hn, hb⟩ := h c List.mem_cons_self
    rw [List.cons_append, stringLength?_char hq hn hb, ih fun d hd => h d (List.mem_cons_of_mem c hd)]
    cases stringLength? rest <;> simp [Nat.add_assoc]

/-- The item of a character is passed over as a whole. -/
theorem stringLength?_encodeItem (c : Char) (rest : List Char) :
    stringLength? (StringLiteral.encodeItem c ++ rest) =
      (stringLength? rest).map (· + (StringLiteral.encodeItem c).length) := by
  unfold StringLiteral.encodeItem
  split
  · rfl
  split
  · rfl
  split
  · rfl
  split
  · rfl
  split
  · rfl
  next hq hb hn _ _ =>
  split
  · have hdigits : ∀ d ∈ hexDigits 2 c.toNat, d ≠ '"' ∧ d ≠ '\n' ∧ d ≠ '\\' :=
      forall_hexDigits (by decide) 2 c.toNat
    rw [List.cons_append, List.cons_append, stringLength?.eq_def]
    simp only [show ¬ '\\' = '"' by decide, show ¬ '\\' = '\n' by decide, if_false, if_true,
      readDigits_hexDigits, Option.isSome_some]
    rw [stringLength?_chars hdigits]
    cases stringLength? rest <;> simp
  · exact stringLength?_char hq hn hb rest

/-- A written literal ends with its closing quote. -/
theorem stringLength?_flatMap (cs rest : List Char) :
    stringLength? (cs.flatMap StringLiteral.encodeItem ++ '"' :: rest) =
      some ((cs.flatMap StringLiteral.encodeItem).length + 1) := by
  induction cs with
  | nil =>
    rw [List.flatMap_nil, List.nil_append, stringLength?.eq_def]
    rfl
  | cons c cs ih =>
    rw [List.flatMap_cons, List.append_assoc, stringLength?_encodeItem, ih]
    simp only [Option.map_some, List.length_append]
    congr 1
    omega

/-- The literal of a text is cut as one string. -/
theorem Item.cut_encode (cs rest : List Char) :
    (Item.token .string (StringLiteral.encode cs)).Cut rest := by
  refine Item.cut_string ?_
  rw [List.append_assoc, List.singleton_append, stringLength?_flatMap, List.length_append]
  rfl

end TagSpec.Source
