import TagSpec.Proofs.Source.Lexing
import TagSpec.Proofs.Source.Structs
import TagSpec.Source.SyntaxTree

/-!
# Lines

Texts that are laid out in whole lines. What the tokens of a line are depends on the lines before it
only in whether a statement may be complete there.
-/

namespace TagSpec.Source

/-! ## Behind an open line -/

theorem itemTokens_append (m : Marks) (is js : List Item) :
    itemTokens m (is ++ js) = itemTokens m is ++ itemTokens (marksOf m is) js := by
  induction is generalizing m with
  | nil => rfl
  | cons i is ih =>
    rw [List.cons_append, itemTokens, itemTokens, ih, List.append_assoc]
    rfl

theorem marksOf_append (m : Marks) (is js : List Item) :
    marksOf m (is ++ js) = marksOf (marksOf m is) js :=
  List.foldl_append

/-- Where no statement may be complete the first token is not fresh; the others stay as they are. -/
theorem itemTokens_open {m n : Marks} (hm : m.ended = false) (hc : m.comment = n.comment)
    (hn : m.afterName = n.afterName) (is : List Item) :
    itemTokens m is = settle (itemTokens n is) := by
  induction is generalizing m n with
  | nil => rfl
  | cons i is ih =>
    cases i with
    | blank c => exact ih hm hc hn
    | comment text => exact ih hm (by simp only [Item.marks, hc]) hn
    | token kind text => simp [itemTokens, Item.tokens, Item.marks, settle, hm, hc, hn]

/-- Behind a token nothing is left of what was in front of it. -/
theorem marksOf_open {m n : Marks} (hc : m.comment = n.comment) (hn : m.afterName = n.afterName)
    {is : List Item} (h : itemTokens n is ≠ []) : marksOf m is = marksOf n is := by
  induction is generalizing m n with
  | nil => exact absurd rfl h
  | cons i is ih =>
    cases i with
    | blank c => exact ih hc hn h
    | comment text => exact ih (by simp only [Item.marks, hc]) hn h
    | token kind text => rfl

/-! ## Blanks -/

/-- A number of blanks of one kind. -/
def blanks (n : Nat) (c : Char) : List Item := List.replicate n (.blank c)

@[simp] theorem layout_blanks (n : Nat) (c : Char) : layout (blanks n c) = List.replicate n c := by
  induction n with
  | zero => rfl
  | succ n ih =>
    rw [List.replicate_succ, ← ih]
    rfl

theorem closed_blanks (n : Nat) {c : Char} (hc : isAsciiBlank c = true) : Closed (blanks n c) := by
  intro rest
  induction n with
  | zero => trivial
  | succ n ih => exact ⟨Item.cut_blank hc, ih⟩

theorem marks_blank (m : Marks) {c : Char} (hc : c ≠ '\n') : Item.marks m (.blank c) = m := by
  simp [Item.marks, hc]

@[simp] theorem itemTokens_blanks (m : Marks) (n : Nat) (c : Char) :
    itemTokens m (blanks n c) = [] := by
  induction n generalizing m with
  | zero => rfl
  | succ n ih => exact ih _

theorem marksOf_blanks (m : Marks) (n : Nat) {c : Char} (hc : c ≠ '\n') :
    marksOf m (blanks n c) = m := by
  induction n with
  | zero => rfl
  | succ n ih =>
    show marksOf (Item.marks m (.blank c)) (blanks n c) = m
    rw [marks_blank m hc, ih]

/-! ## Lines -/

/-- Whole lines with their tokens. A statement may be complete in front of them or not, as `before`
says, and behind them, as `behind` says. -/
structure Lines (before behind : Bool) (is : List Item) (ts : List Token) : Prop where
  closed : Closed is
  reads : ∀ afterName, itemTokens ⟨before, true, none, afterName⟩ is = ts ∧
    ∃ afterName', marksOf ⟨before, true, none, afterName⟩ is = ⟨behind, true, none, afterName'⟩

namespace Lines

variable {before between behind : Bool} {is js : List Item} {ts us : List Token}

theorem append (h : Lines before between is ts) (h' : Lines between behind js us) :
    Lines before behind (is ++ js) (ts ++ us) := by
  refine ⟨h.closed.append h'.closed, fun afterName => ?_⟩
  obtain ⟨htokens, last, hmarks⟩ := h.reads afterName
  obtain ⟨htokens', last', hmarks'⟩ := h'.reads last
  refine ⟨?_, last', ?_⟩
  · rw [itemTokens_append, htokens, hmarks, htokens']
  · rw [marksOf_append, hmarks, hmarks']

theorem nil : Lines before before [] [] :=
  ⟨fun _ => trivial, fun afterName => ⟨rfl, afterName, rfl⟩⟩

theorem flatMap {α : Type} {as : List α} {items : α → List Item} {block : α → List Token}
    (h : ∀ a ∈ as, Lines before before (items a) (block a)) :
    Lines before before (as.flatMap items) (as.flatMap block) := by
  induction as with
  | nil => exact nil
  | cons a as ih =>
    rw [List.flatMap_cons, List.flatMap_cons]
    exact (h a List.mem_cons_self).append (ih fun b hb => h b (List.mem_cons_of_mem a hb))

/-- The same lines where no statement may be complete. -/
theorem opened (h : Lines true behind is ts) (hts : ts ≠ []) :
    Lines false behind is (settle ts) := by
  refine ⟨h.closed, fun afterName => ?_⟩
  obtain ⟨htokens, last, hmarks⟩ := h.reads afterName
  let m : Marks := ⟨false, true, none, afterName⟩
  let n : Marks := ⟨true, true, none, afterName⟩
  have hopen : itemTokens m is = settle (itemTokens n is) :=
    itemTokens_open (m := m) (n := n) rfl rfl rfl is
  have hsame : marksOf m is = marksOf n is :=
    marksOf_open (m := m) (n := n) rfl rfl (by rwa [htokens])
  exact ⟨by rw [hopen, htokens], last, by rw [hsame, hmarks]⟩

/-- An empty line. -/
theorem blankLine : Lines before before [.blank '\n'] [] :=
  ⟨fun _ => ⟨Item.cut_blank (by decide), trivial⟩, fun afterName => ⟨rfl, afterName, rfl⟩⟩

theorem indented (n : Nat) (h : Lines before behind is ts) :
    Lines before behind (blanks n '\t' ++ is) ts := by
  refine ⟨(closed_blanks n (by decide)).append h.closed, fun afterName => ?_⟩
  rw [itemTokens_append, marksOf_append, itemTokens_blanks, marksOf_blanks _ n (by decide)]
  exact h.reads afterName

end Lines

/-! ## Struct types -/

/-- A name that is no keyword. -/
def IsName (text : List Char) : Prop :=
  isWord text = true ∧ keywords.contains (String.ofList text) = false

theorem IsName.cut {text rest : List Char} {c : Char} (h : IsName text) (hc : isNameTail c = false) :
    (Item.token .name text).Cut (c :: rest) :=
  Item.cut_name h.1 h.2 (by simp [endsWord, hc])

/-- A character that no name holds. -/
theorem IsName.notMem {text : List Char} {c : Char} (h : IsName text) (hs : isNameStart c = false)
    (ht : isNameTail c = false) : c ∉ text := by
  obtain ⟨hword, -⟩ := h
  cases text with
  | nil => exact List.not_mem_nil
  | cons d ds =>
    rw [isWord, Bool.and_eq_true, List.all_eq_true] at hword
    intro hmem
    rcases List.mem_cons.1 hmem with rfl | hmem
    · rw [hs] at hword
      exact Bool.false_ne_true hword.1
    · have hc := hword.2 _ hmem
      rw [ht] at hc
      exact Bool.false_ne_true hc

theorem isName_string : IsName "string".toList := by
  unfold IsName
  decide +kernel

theorem cut_struct {c : Char} {rest : List Char} (hc : isNameTail c = false) :
    (Item.token .keyword "struct".toList).Cut (c :: rest) :=
  Item.cut_keyword (by rfl) (by rfl) (by simp [endsWord, hc])

/-- The line of a field, with blanks between its name and its type. -/
def fieldLine (indent gap : Nat) (name : List Char) (tag : Option (List Char)) : List Item :=
  blanks indent '\t' ++ (.token .name name :: (blanks (gap + 1) ' ' ++
    (.token .name "string".toList ::
      (tag.toList.flatMap (fun text => [.blank ' ', .token .string text]) ++ [.blank '\n']))))

theorem isNameTail_space : isNameTail ' ' = false := by rfl

theorem isNameTail_newline : isNameTail '\n' = false := by rfl

/-- The line of a field has the tokens of the field. -/
theorem lines_fieldLine (indent gap : Nat) {name : List Char}
    {tag : Option (List Char)} (hname : IsName name)
    (htag : ∀ text ∈ tag, ∀ rest, (Item.token .string text).Cut rest) :
    Lines true true (fieldLine indent gap name tag) (fieldTokens name tag) := by
  refine Lines.indented indent ⟨?_, ?_⟩
  · intro rest
    refine ⟨hname.cut isNameTail_space, separate_append (closed_blanks _ (by decide) _) ?_⟩
    cases tag with
    | none =>
      exact ⟨isName_string.cut isNameTail_newline, Item.cut_blank (by decide), trivial⟩
    | some text =>
      exact ⟨isName_string.cut isNameTail_space, Item.cut_blank (by decide), htag text rfl _,
        Item.cut_blank (by decide), trivial⟩
  · intro afterName
    have hgap : ∀ m, marksOf m (blanks (gap + 1) ' ') = m := fun m => marksOf_blanks m _ (by decide)
    rw [itemTokens, itemTokens_append, itemTokens_blanks, hgap]
    rw [marksOf, List.foldl_cons, ← marksOf, marksOf_append, hgap]
    cases afterName <;> cases tag <;> exact ⟨rfl, _, rfl⟩

/-- A line that begins with a closing brace. -/
def closeLine (indent : Nat) (signs : List String) : List Item :=
  blanks indent '\t' ++ (.token .sign "\x7d".toList ::
    (signs.map (fun s => .token .sign s.toList) ++ [.blank '\n']))

/-- A statement may be complete behind a closing brace, and not behind what else may follow it. -/
theorem lines_closeLine {before : Bool} (indent : Nat) (signs : List String)
    (h : signs ∈ [[], ["\x7b"], [","]]) :
    Lines before signs.isEmpty (closeLine indent signs)
      ({ Token.sign "\x7d" with fresh := before } :: signs.map Token.sign) := by
  have hcut : ∀ s ∈ ["\x7b", "\x7d", ","], ∀ rest, (Item.token .sign s.toList).Cut rest :=
    fun _ hs _ => Item.cut_brace hs
  simp only [List.mem_cons, List.not_mem_nil, or_false] at h
  refine Lines.indented indent ?_
  rcases h with rfl | rfl | rfl
  · refine ⟨fun rest => ?_, fun afterName => by cases afterName <;> exact ⟨rfl, _, rfl⟩⟩
    exact ⟨hcut _ (by decide) _, Item.cut_blank (by decide), trivial⟩
  · refine ⟨fun rest => ?_, fun afterName => by cases afterName <;> exact ⟨rfl, _, rfl⟩⟩
    exact ⟨hcut _ (by decide) _, hcut _ (by decide) _, Item.cut_blank (by decide), trivial⟩
  · refine ⟨fun rest => ?_, fun afterName => by cases afterName <;> exact ⟨rfl, _, rfl⟩⟩
    exact ⟨hcut _ (by decide) _, hcut _ (by decide) _, Item.cut_blank (by decide), trivial⟩

/-- A struct type in lines: one that opens it, those of its members, and one that closes it. -/
theorem Lines.structType {before behind : Bool} {head body close : List Item}
    (start : List Token) {members rest : List Token}
    (hhead : Lines before false head (start ++ [Token.keyword "struct", Token.sign "\x7b"]))
    (hbody : Lines true true body members)
    (hclose : Lines true behind close ((Token.sign "\x7d").onNewLine :: rest)) :
    Lines before behind (head ++ (body ++ close)) (start ++ structTokens members rest) := by
  have hopened := (hbody.append hclose).opened (by simp)
  have hall := hhead.append hopened
  rw [List.append_assoc] at hall
  exact hall

/-! ## Files -/

theorem parse_eq_ok {text : List Char} {tree : SyntaxTree} (h : readFile (lex text) = some tree) :
    parse text = .ok tree := by
  unfold parse
  simp only [h]

/-- The line of a package clause. -/
def packageLine (name : List Char) : List Item :=
  [.token .keyword "package".toList, .blank ' ', .token .name name, .blank '\n']

theorem closed_packageLine {name : List Char} (h : IsName name) : Closed (packageLine name) := by
  intro rest
  have hpackage : (Item.token .keyword "package".toList).Cut
      (layout [.blank ' ', .token .name name, .blank '\n'] ++ rest) :=
    Item.cut_keyword (by rfl) (by rfl)
      (by simp [endsWord, Item.text, isNameTail_space])
  exact ⟨hpackage, Item.cut_blank (by decide), h.cut isNameTail_newline, Item.cut_blank (by decide),
    trivial⟩

/-- The tokens of a text are those of the items that it is laid out of. -/
theorem lex_layout {is : List Item} (hclosed : Closed is)
    (hmark : (layout is).head? ≠ some byteOrderMark) :
    (lex (layout is)).map Token.bare = itemTokens .start is ++ [finish (marksOf .start is)] := by
  rw [← lexFrom_layout (hclosed []) Position.start]
  unfold lex
  cases hcs : layout is with
  | nil => rfl
  | cons c cs =>
    have hc : c ≠ byteOrderMark := by simpa [hcs] using hmark
    simp only [if_neg hc]

/-- A text in lines with one part of a file after the other is read as these parts. -/
theorem exists_parse_layout {k : Nat} {is : List Item} {parts : List (List Token × List SyntaxTree)}
    (h : Lines true true is (parts.flatMap Prod.fst)) (hparts : ReadsParts k parts) (hk : k < 64)
    (hne : parts ≠ []) (hmark : (layout is).head? ≠ some byteOrderMark) :
    ∃ tree afterName, parse (layout is) = .ok tree ∧
      tree.bare = fileTree afterName (parts.flatMap Prod.snd) := by
  obtain ⟨htokens, afterName, hmarks⟩ := h.reads false
  have hfilled : parts.flatMap Prod.fst ≠ [] := by
    obtain ⟨p, ps, rfl⟩ := List.exists_cons_of_ne_nil hne
    obtain ⟨t, ts, hp, -⟩ := (hparts p List.mem_cons_self).1
    simp [hp]
  have hstart : itemTokens .start is = settle (parts.flatMap Prod.fst) := by
    rw [← htokens]
    exact itemTokens_open (m := .start) (n := ⟨true, true, none, false⟩) rfl rfl rfl is
  have hfinish : finish (marksOf .start is) = Token.finish afterName := by
    rw [marksOf_open (m := .start) (n := ⟨true, true, none, false⟩) rfl rfl (by rwa [htokens]), hmarks]
    rfl
  have hbare : (lex (layout is)).map Token.bare =
      settle (parts.flatMap Prod.fst ++ [Token.finish afterName]) := by
    rw [lex_layout h.closed hmark, hstart, hfinish]
    obtain ⟨t, ts, hts⟩ := List.exists_cons_of_ne_nil hfilled
    rw [hts]
    rfl
  have hread := readFile_bare (lex (layout is))
  rw [hbare, readFile_parts hparts hk hne] at hread
  obtain ⟨tree, htree, hsame⟩ := Option.map_eq_some_iff.1 hread.symm
  exact ⟨tree, afterName, parse_eq_ok htree, hsame⟩

end TagSpec.Source
