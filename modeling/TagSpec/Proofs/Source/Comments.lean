import TagSpec.Journal
import TagSpec.Proofs.Source.Inserting
import TagSpec.Proofs.Source.Lines
import TagSpec.Proofs.Source.Nodes

/-!
# Comments between tokens

A comment that is put between two tokens changes no token but what is kept of the comments in front of
the next one, and nothing looks at that but the name of a package: `parse_inserted`.
-/

namespace TagSpec.Source

/-! ## Tokens of a text -/

/-- What is known of every token that is cut from a text: a name is no keyword, and a comment begins
with a slash. -/
structure Token.Lexed (t : Token) : Prop where
  name : t.kind = .name → keywords.contains t.string = false ∧
    ∃ c, t.text.head? = some c ∧ isNameStart c = true
  comment : ∀ c ∈ t.comment, c.head? = some '/'

theorem keptSettled_lexed : KeptSettled Token.Lexed := fun _ h => ⟨h.name, h.comment⟩

/-- A name begins as one and is no keyword. -/
theorem pieceAt_name {c : Char} {r : List Char} (h : (pieceAt c r).1 = .token .name) :
    isNameStart c = true ∧
      keywords.contains (String.ofList (c :: r.take (pieceAt c r).2)) = false := by
  by_cases hblank : isAsciiBlank c = true
  · simp [pieceAt, hblank] at h
  by_cases hname : isNameStart c = true
  · refine ⟨hname, ?_⟩
    simp only [pieceAt, if_neg hblank, if_pos hname] at h ⊢
    rw [List.length_cons, Nat.add_sub_cancel,
      ← List.prefix_iff_eq_take.1 (List.takeWhile_prefix isNameTail)]
    split at h
    · cases h
    · next hkeyword => exact Bool.eq_false_iff.2 hkeyword
  · unfold pieceAt at h
    simp only [if_neg hblank, if_neg hname] at h
    repeat' split at h
    all_goals cases h

theorem pieceAt_comment {c : Char} {r : List Char} (h : (pieceAt c r).1 = .comment) : c = '/' := by
  by_contra hc
  have hno : ∀ b : Bool, (decide (c = '/') && b) = false := by simp [hc]
  unfold pieceAt at h
  simp only [hno, Bool.false_eq_true, if_false] at h
  repeat' split at h
  all_goals cases h

/-- The tokens of a text are such as texts have. -/
theorem lexed_lexFrom (p : Position) {m : Marks} (hm : ∀ c ∈ m.comment, c.head? = some '/')
    (cs : List Char) : ∀ t ∈ lexFrom p m cs, t.Lexed := by
  fun_induction lexFrom p m cs with
  | case1 p m =>
    intro t ht
    rw [List.mem_singleton.1 ht]
    exact ⟨nofun, hm⟩
  | case2 p m c r piece text rest behind hpiece ih => exact ih hm
  | case3 p m c r piece text rest behind hpiece ih =>
    refine ih fun d hd => ?_
    obtain rfl := Option.mem_some.1 hd
    cases hcomment : m.comment with
    | none =>
      rw [Option.getD_none, List.head?_cons, pieceAt_comment hpiece]
    | some e =>
      rw [Option.getD_some]
      exact hm e hcomment
  | case4 p m c r piece text rest behind kind hpiece ih =>
    refine List.forall_mem_cons.2 ⟨⟨?_, hm⟩, ih nofun⟩
    rintro rfl
    obtain ⟨hstart, hkeyword⟩ := pieceAt_name hpiece
    exact ⟨hkeyword, c, rfl, hstart⟩

/-! ## Package clauses -/

/-- What is known of tokens that are cut from a text is known of all its tokens. -/
theorem lexed_lex (cs : List Char) : ∀ t ∈ lex cs, t.Lexed := by
  have hstart : ∀ c ∈ Marks.start.comment, c.head? = some '/' := by simp [Marks.start]
  unfold lex
  split
  · split
    · exact lexed_lexFrom _ hstart _
    · exact lexed_lexFrom _ hstart _
  · exact lexed_lexFrom _ hstart _

/-- A package clause is the keyword and a name. -/
theorem packageClause_children {text : List Char} {tree : SyntaxTree} (h : parse text = .ok tree) :
    ∀ clause ∈ tree.select .packageClause, ∃ k n, clause = [.leaf k, .leaf n] ∧
      k.kind = .keyword ∧ k.string = "package" ∧ n.kind = .name ∧ n.Lexed := by
  intro clause hclause
  obtain ⟨-, hderived⟩ :=
    derived_of_readFile keptSettled_lexed (readFile_of_parse h) (lexed_lex text)
  have hmem : clause ∈ Tree.selectAll .packageClause [tree] := by
    rw [Tree.selectAll, Tree.selectAll, List.append_nil]
    exact hclause
  obtain ⟨depth, ts, rest, hts, hread⟩ := hderived .packageClause clause hmem
  rw [Grammar.rule, Rule.read_seq] at hread
  split at hread
  · cases hread
  next xs us hword =>
  split at hread
  · cases hread
  next ys vs hname =>
  cases hread
  obtain ⟨k, rfl, rfl, hk⟩ := readToken_eq_some hword
  obtain ⟨n, rfl, rfl, hn⟩ := readToken_eq_some hname
  rw [List.forall_mem_cons, List.forall_mem_cons] at hts
  simp only [Terminal.accepts, Bool.and_eq_true, Bool.or_eq_true, decide_eq_true_eq] at hk hn
  have hstring : k.string = "package" := by
    rw [Token.string, hk.2, String.ofList_toList]
  refine ⟨k, n, rfl, hk.1.resolve_left fun hkind => ?_, hstring, hn, hts.2.1⟩
  have hkeyword := (hts.1.name hkind).1
  rw [hstring] at hkeyword
  exact absurd hkeyword (by decide)

/-- The identifier of the first package clause, if there is one. -/
inductive NamesPackage (tree : SyntaxTree) : Option Token → Prop
  | none : tree.select .packageClause = [] → NamesPackage tree none
  | some {k n : Token} {more : List (List SyntaxTree)} :
      tree.select .packageClause = [.leaf k, .leaf n] :: more → k.string = "package" →
      n.kind = .name → NamesPackage tree (some n)

/-- What is given for the name of a package is its identifier, or a comment in front of it. -/
theorem exists_namesPackage {text : List Char} {tree : SyntaxTree} (h : parse text = .ok tree) :
    ∃ named, NamesPackage tree named ∧ (∀ n ∈ named, n.kind = .name ∧ n.Lexed) ∧
      packageName? tree = named.map fun n => String.ofList (n.comment.getD n.text) := by
  have hshape := packageClause_children h
  unfold packageName?
  cases hclauses : tree.select .packageClause with
  | nil => exact ⟨none, .none hclauses, nofun, rfl⟩
  | cons clause more =>
    rw [hclauses] at hshape
    obtain ⟨k, n, rfl, hk, hpackage, hn, hlexed⟩ := hshape clause List.mem_cons_self
    refine ⟨some n, .some hclauses hpackage hn, ?_, ?_⟩
    · rintro _ ⟨⟩
      exact ⟨hn, hlexed⟩
    · have htokens : tokensOf .name [.leaf k, .leaf n] = [n] := by
        simp [tokensOf, Tree.token?, Option.filter, hk, hn]
      rw [List.head?_cons, Option.bind_some, htokens]
      rfl

/-- A comment is no identifier. -/
theorem Token.Lexed.comment_ne {n : Token} (h : n.Lexed) (hn : n.kind = .name) {c : List Char}
    (hc : n.comment = some c) : String.ofList c ≠ n.string := by
  obtain ⟨-, d, hd, hstart⟩ := h.name hn
  intro heq
  have htext : c = n.text := String.ofList_injective heq
  have hslash := h.comment c hc
  rw [htext, hd, Option.some.injEq] at hslash
  rw [hslash] at hstart
  exact absurd hstart (by decide)

/-! ## Inserting -/

def blockComment (body : List Char) : List Char := '/' :: '*' :: (body ++ ['*', '/'])

/-- A text with a block comment in it between pieces of another text, where the comment does not become
part of a slash or of a comment in front of it. -/
def Inserted (text text' : List Char) : Prop :=
  ∃ front back body, itemsOf (codeOf text) = front ++ back ∧
    (∀ i ∈ front.getLast?, i.joinsSlash = false) ∧ ¬ ['*', '/'] <:+: body ∧
    text' = markOf text ++ layout front ++ blockComment body ++ layout back

theorem blockCommentLength?_body {body : List Char} (h : ¬ ['*', '/'] <:+: body) (rest : List Char) :
    blockCommentLength? (body ++ '*' :: '/' :: rest) = some (body.length + 2) := by
  induction body with
  | nil => rfl
  | cons c body ih =>
    have hbody : ¬ ['*', '/'] <:+: body := fun hin => h (hin.trans (List.suffix_cons c body).isInfix)
    have hopen : (c = '*' && (body ++ '*' :: '/' :: rest).head? = some '/') = false := by
      rw [Bool.eq_false_iff]
      intro hend
      simp only [Bool.and_eq_true, decide_eq_true_eq] at hend
      obtain ⟨rfl, hhead⟩ := hend
      cases body with
      | nil => simp at hhead
      | cons d body =>
        rw [List.cons_append, List.head?_cons, Option.some.injEq] at hhead
        subst hhead
        exact h ⟨[], body, rfl⟩
    rw [List.cons_append, blockCommentLength?, hopen, ih hbody]
    rfl

/-- A block comment is cut from any text that it stands in. -/
theorem Item.cut_blockComment {body : List Char} (h : ¬ ['*', '/'] <:+: body) (rest : List Char) :
    (Item.comment (blockComment body)).Cut rest := by
  refine ⟨'/', '*' :: (body ++ ['*', '/']), rfl, ?_⟩
  have hlength := blockCommentLength?_body h rest
  unfold pieceAt
  simp [show isAsciiBlank '/' = false by decide, show isNameStart '/' = false by decide, hlength,
    piece]

/-! ## Tokens without comments -/

/-- The token without its place and without the comment in front of it. -/
def Token.silent (t : Token) : Token := { t.bare with comment := none }

/-- No rule notices the comments in front of tokens. -/
theorem unnoticed_silent : Unnoticed Token.silent where
  kind _ := rfl
  text _ := rfl
  fresh _ := rfl
  settled _ := rfl
  afterName t ht := by simp [Token.silent, Token.bare, ht]

/-- Items give the same tokens whatever comment stands in front of them. -/
theorem silent_itemTokens {m n : Marks} (hended : m.ended = n.ended) (hnewline : m.newline = n.newline)
    (hname : m.afterName = n.afterName) (is : List Item) :
    (itemTokens m is ++ [finish (marksOf m is)]).map Token.silent =
      (itemTokens n is ++ [finish (marksOf n is)]).map Token.silent := by
  induction is generalizing m n with
  | nil => simp [itemTokens, marksOf, finish, Token.silent, Token.bare, hended, hnewline, hname]
  | cons i is ih =>
    cases i with
    | blank c => exact ih hended (by simp only [Item.marks, hnewline]) hname
    | comment text => exact ih hended hnewline hname
    | token kind text =>
      simp [itemTokens, Item.tokens, Item.marks, marksOf, Token.silent, Token.bare, hended, hnewline,
        hname]

/-- A comment among items changes no token but the comment in front of the next one. -/
theorem silent_inserted (front back : List Item) (text : List Char) :
    (itemTokens .start (front ++ .comment text :: back) ++
        [finish (marksOf .start (front ++ .comment text :: back))]).map Token.silent =
      (itemTokens .start (front ++ back) ++ [finish (marksOf .start (front ++ back))]).map
        Token.silent := by
  let m := marksOf .start front
  have hback := silent_itemTokens (m := (Item.comment text).marks m) (n := m) rfl rfl rfl back
  rw [itemTokens_append, itemTokens_append, marksOf_append, marksOf_append]
  simp only [List.map_append, List.append_assoc] at hback ⊢
  exact congrArg _ hback

/-! ## Texts -/

theorem silent_bare (t : Token) : t.bare.silent = t.silent := by
  by_cases hk : t.kind = .finish <;> simp [Token.silent, Token.bare, hk]

theorem silent_lex {text : List Char} {is : List Item} (hcode : codeOf text = layout is)
    (h : Separate is []) :
    (lex text).map Token.silent =
      (itemTokens .start is ++ [finish (marksOf .start is)]).map Token.silent := by
  rw [lex_eq, hcode, ← lexFrom_layout h _, List.map_map]
  exact List.map_congr_left fun t _ => (silent_bare t).symm

/-- The text behind the byte order mark is the same but for the comment. -/
theorem codeOf_inserted {text : List Char} {front back : List Item} {body : List Char}
    (h : itemsOf (codeOf text) = front ++ back) :
    codeOf (markOf text ++ layout front ++ blockComment body ++ layout back) =
      layout (front ++ .comment (blockComment body) :: back) := by
  have hcode : layout front ++ layout back = codeOf text := by
    rw [← layout_append, ← h, layout_itemsOf]
  have hlayout : layout (front ++ .comment (blockComment body) :: back) =
      layout front ++ blockComment body ++ layout back := by
    rw [layout_append, layout_cons, List.append_assoc]
    rfl
  rw [hlayout, codeOf, markOf_eq, markOf_eq text]
  by_cases hmark : text.head? = some byteOrderMark
  · simp [hmark]
  · have hnone : (layout front ++ blockComment body ++ layout back).head? ≠ some byteOrderMark := by
      rw [codeOf, markOf_eq, if_neg hmark, List.length_nil, List.drop_zero] at hcode
      cases hfront : layout front with
      | nil =>
        rw [List.nil_append, blockComment, List.cons_append, List.head?_cons, ne_eq,
          Option.some.injEq]
        decide
      | cons c cs =>
        rw [← hcode, hfront] at hmark
        exact hmark
    rw [if_neg hmark, List.nil_append, if_neg hnone]
    rfl

theorem separate_of_append {is js : List Item} {rest : List Char} (h : Separate (is ++ js) rest) :
    Separate is (layout js ++ rest) ∧ Separate js rest := by
  induction is with
  | nil => exact ⟨trivial, h⟩
  | cons i is ih =>
    obtain ⟨hi, his⟩ := h
    have hcut : i.Cut (layout (is ++ js) ++ rest) := hi
    rw [layout_append, List.append_assoc] at hcut
    exact ⟨⟨hcut, (ih his).1⟩, (ih his).2⟩

/-- A token among items is among their tokens. -/
theorem exists_itemToken {i : Item} {is : List Item} (hi : i ∈ is) {kind : TokenKind}
    (hkind : i.piece = .token kind) (m : Marks) : ∃ t ∈ itemTokens m is, t.kind = kind := by
  induction is generalizing m with
  | nil => cases hi
  | cons j is ih =>
    rcases List.mem_cons.1 hi with rfl | hi
    · cases i with
      | token k text =>
        cases hkind
        exact ⟨_, List.mem_append_left _ List.mem_cons_self, rfl⟩
      | _ => cases hkind
    · obtain ⟨t, ht, hk⟩ := ih hi (j.marks m)
      exact ⟨t, List.mem_append_right _ ht, hk⟩

/-- The items of a text that can be read are sound. -/
theorem isSound_of_parse {text : List Char} {tree : SyntaxTree} (h : parse text = .ok tree) :
    ∀ i ∈ itemsOf (codeOf text), i.isSound = true := by
  intro i hi
  obtain ⟨hsound, -⟩ :=
    derived_of_readFile keptSettled_lexed (readFile_of_parse h) (lexed_lex text)
  have hlex := silent_lex (layout_itemsOf (codeOf text)).symm (separate_itemsOf (codeOf text))
  have hkinds : ∀ kind, i.piece = .token kind → kind.isSound = true := by
    intro kind hkind
    obtain ⟨t, ht, rfl⟩ := exists_itemToken hi hkind .start
    have hmem : t.silent ∈ (lex text).map Token.silent := by
      rw [hlex]
      exact List.mem_map_of_mem (List.mem_append_left _ ht)
    obtain ⟨u, hu, hsame⟩ := List.mem_map.1 hmem
    have hkind' : u.silent.kind = t.silent.kind := congrArg Token.kind hsame
    have hu' := hsound u hu
    rwa [show u.kind = t.kind from hkind'] at hu'
  have hstray : i.piece ≠ .token .stray := fun he => absurd (hkinds _ he) (by decide)
  have hbroken : i.piece ≠ .token .broken := fun he => absurd (hkinds _ he) (by decide)
  simp [Item.isSound, hstray, hbroken]

/-- Both texts have the same tokens but for comments and places. -/
theorem silent_lex_inserted {text text' : List Char} {tree : SyntaxTree} (h : parse text = .ok tree)
    (hinserted : Inserted text text') :
    (lex text').map Token.silent = (lex text).map Token.silent := by
  obtain ⟨front, back, body, hitems, hjoins, hbody, rfl⟩ := hinserted
  have hcode : codeOf text = layout (front ++ back) := by rw [← hitems, layout_itemsOf]
  have hseparate : Separate (front ++ back) [] := hitems ▸ separate_itemsOf (codeOf text)
  have hsound : ∀ i ∈ front, i.isSound = true := by
    intro i hi
    refine isSound_of_parse h i ?_
    rw [hitems]
    exact List.mem_append_left back hi
  obtain ⟨hfront, hback⟩ := separate_of_append hseparate
  have hseparate' : Separate (front ++ .comment (blockComment body) :: back) [] :=
    separate_append (hfront.slash hsound hjoins _) ⟨Item.cut_blockComment hbody _, hback⟩
  rw [silent_lex (codeOf_inserted hitems) hseparate', silent_lex hcode hseparate, silent_inserted]

/-! ## Names of packages -/

/-- A source has one first package clause. -/
theorem NamesPackage.unique {tree : SyntaxTree} {a b : Option Token} (ha : NamesPackage tree a)
    (hb : NamesPackage tree b) : a = b := by
  cases ha with
  | none ha =>
    cases hb with
    | none => rfl
    | some hb =>
      rw [ha] at hb
      cases hb
  | some ha =>
    cases hb with
    | none hb =>
      rw [ha] at hb
      cases hb
    | some hb =>
      rw [ha] at hb
      cases hb
      rfl

theorem NamesPackage.silent {tree : SyntaxTree} {named : Option Token} (h : NamesPackage tree named) :
    NamesPackage (tree.change Token.silent) (named.map Token.silent) := by
  cases h with
  | none h => exact .none (by rw [select_change, h]; rfl)
  | @some k n more h hk hn =>
    have hselect : (tree.change Token.silent).select .packageClause =
        [.leaf k.silent, .leaf n.silent] :: more.map (List.map (Tree.change Token.silent)) := by
      rw [select_change, h]
      rfl
    exact .some hselect hk hn

/-- The identifier is given exactly if there is no comment in front of it. -/
theorem shown_eq_iff {named : Option Token} (h : ∀ n ∈ named, n.kind = .name ∧ n.Lexed) :
    named.map (fun n => String.ofList (n.comment.getD n.text)) = named.map Token.string ↔
      ∀ n ∈ named, n.comment = none := by
  cases named with
  | none => simp
  | some n =>
    obtain ⟨hn, hlexed⟩ := h n rfl
    cases hc : n.comment with
    | none => simp [hc, Token.string]
    | some c => simp [hc, hlexed.comment_ne hn hc]

/-- A block comment between the tokens of a source that can be read leaves the structs as they are,
and the identifier of the first package clause. What is given for the name of the package is this
identifier, before and behind, exactly if no comment stands in front of it. -/
theorem parse_inserted {text text' : List Char} {tree : SyntaxTree} (h : parse text = .ok tree)
    (hinserted : Inserted text text') :
    ∃ tree' named named', parse text' = .ok tree' ∧ declaredStructs tree' = declaredStructs tree ∧
      NamesPackage tree named ∧ NamesPackage tree' named' ∧
      (packageName? tree = named.map Token.string ∧ packageName? tree' = packageName? tree ↔
        ∀ n, n ∈ named ∨ n ∈ named' → n.comment = none) := by
  have hlex := silent_lex_inserted h hinserted
  have hread := readFile_change unnoticed_silent (lex text')
  rw [hlex, readFile_change unnoticed_silent, readFile_of_parse h, Option.map_some] at hread
  obtain ⟨tree', htree', hsame⟩ := Option.map_eq_some_iff.1 hread.symm
  have hparse' : parse text' = .ok tree' := parse_eq_ok htree'
  obtain ⟨named, hnamed, hlexed, hshown⟩ := exists_namesPackage h
  obtain ⟨named', hnamed', hlexed', hshown'⟩ := exists_namesPackage hparse'
  have hsilent : named'.map Token.silent = named.map Token.silent :=
    (hsame ▸ hnamed'.silent).unique hnamed.silent
  have hstring : named'.map Token.string = named.map Token.string := by
    have hmap := congrArg (Option.map Token.string) hsilent
    rwa [Option.map_map, Option.map_map] at hmap
  refine ⟨tree', named, named', hparse', ?_, hnamed, hnamed', ?_⟩
  · rw [← declaredStructs_change unnoticed_silent tree', hsame,
      declaredStructs_change unnoticed_silent]
  · rw [hshown, hshown']
    constructor
    · rintro ⟨hfirst, hsecond⟩ n (hn | hn)
      · exact (shown_eq_iff hlexed).1 hfirst n hn
      · rw [hfirst, ← hstring] at hsecond
        exact (shown_eq_iff hlexed').1 hsecond n hn
    · intro hnone
      have hfirst := (shown_eq_iff hlexed).2 fun n hn => hnone n (.inl hn)
      have hsecond := (shown_eq_iff hlexed').2 fun n hn => hnone n (.inr hn)
      exact ⟨hfirst, by rw [hfirst, hsecond, hstring]⟩

/-- A comment in front of a field changes nothing that is extracted. -/
theorem parse_inserted_field :
    ∃ tree, parse "package p\ntype A struct{X int}\n".toList = .ok tree ∧
      ∃ tree' named named', parse "package p\ntype A struct{/* c */X int}\n".toList = .ok tree' ∧
        declaredStructs tree' = declaredStructs tree ∧
        NamesPackage tree named ∧ NamesPackage tree' named' ∧
        (packageName? tree = named.map Token.string ∧ packageName? tree' = packageName? tree ↔
          ∀ n, n ∈ named ∨ n ∈ named' → n.comment = none) := by
  have hread : (parse "package p\ntype A struct{X int}\n".toList).isOk = true := by decide +kernel
  obtain ⟨tree, h⟩ := exists_eq_ok_of_isOk hread
  let items := itemsOf (codeOf "package p\ntype A struct{X int}\n".toList)
  exact ⟨tree, h, parse_inserted h ⟨items.take 10, items.drop 10, " c ".toList,
    (List.take_append_drop ..).symm, by decide +kernel, by decide, by decide +kernel⟩⟩

/-- A comment behind `package` is given for the name of the package. -/
theorem parse_inserted_named :
    Inserted "package p\n".toList "package /* c */p\n".toList ∧
      (parse "package p\n".toList).map packageName? = .ok (some "p") ∧
      (parse "package /* c */p\n".toList).map packageName? = .ok (some "/* c */") := by
  let items := itemsOf (codeOf "package p\n".toList)
  refine ⟨⟨items.take 2, items.drop 2, " c ".toList, (List.take_append_drop ..).symm, ?_, ?_, ?_⟩,
    ?_, ?_⟩
  · decide +kernel
  · decide
  · decide +kernel
  · decide +kernel
  · decide +kernel

end TagSpec.Source
