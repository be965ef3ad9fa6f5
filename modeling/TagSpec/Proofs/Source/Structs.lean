import TagSpec.Proofs.Source.Refusing

/-!
# Struct types and files

Tokens of struct types with one field a line, and of files with one part a line, and the trees that
they are read as.
-/

namespace TagSpec.Source

/-! ## Tokens -/

/-- A token of which nothing but its kind and text is known. -/
def Token.plain (kind : TokenKind) (text : List Char) : Token :=
  ⟨kind, text, Position.start, false, none, false⟩

def Token.name (text : List Char) : Token := Token.plain .name text

def Token.keyword (word : String) : Token := Token.plain .keyword word.toList

def Token.sign (sign : String) : Token := Token.plain .sign sign.toList

/-- The token at the beginning of a line. -/
def Token.onNewLine (t : Token) : Token := { t with fresh := true }

theorem Token.startsFresh (t : Token) (ts : List Token) : StartsFresh (t.onNewLine :: ts) :=
  ⟨_, ts, rfl, rfl⟩

/-- A name is of the kind that it should be. -/
theorem gives_name {k : Nat} (text : List Char) (ts : List Token) :
    Gives k (.token .name) (Token.name text :: ts) (some ([.leaf (Token.name text)], ts)) :=
  (Gives.token rfl rfl).mono (Nat.zero_le k)

theorem gives_word {k : Nat} (word : String) (ts : List Token) :
    Gives k (.token (.word word)) (Token.keyword word :: ts)
      (some ([.leaf (Token.keyword word)], ts)) :=
  (Gives.token (by simp [Terminal.accepts, Token.keyword, Token.plain]) rfl).mono (Nat.zero_le k)

theorem gives_sign {k : Nat} (sign : String) (ts : List Token) :
    Gives k (.token (.sign sign)) (Token.sign sign :: ts)
      (some ([.leaf (Token.sign sign)], ts)) :=
  (Gives.token (by simp [Terminal.accepts, Token.sign, Token.plain]) rfl).mono (Nat.zero_le k)

/-! ## Fields -/

/-- The rule of a member of a struct type. -/
def member : Rule Symbol := .alt (.ref .embeddedField) (.ref .namedField)

/-- What the tokens behind a name that is embedded may begin with. -/
def behindEmbedded : List (Rule Symbol) :=
  [.seq (Rule.sign ".") Rule.name, .ref .typeArguments, .token .string, Grammar.behindMember]

/-- A name is not embedded in front of a token that none of what may follow then begins with. -/
theorem gives_embedded_none (name : List Char) {t : Token}
    (h : ∀ r ∈ behindEmbedded, refuses r t.look = true) (ts : List Token) :
    Gives 2 (.ref .embeddedField) (Token.name name :: t :: ts) none := by
  simp only [behindEmbedded, List.forall_mem_cons] at h
  obtain ⟨hdot, harguments, htag, hbehind, -⟩ := h
  have htype : Gives 1 (.ref .typeName) (Token.name name :: t :: ts)
      (some ([.node .typeName [.leaf (Token.name name)]], t :: ts)) :=
    Gives.ref (Gives.seq (gives_name name _)
      (Gives.seq (Gives.opt_refused hdot) (Gives.opt_refused harguments)))
  have hnone : Gives 1 (.ahead Grammar.behindMember) (t :: ts) none :=
    Gives.ahead_none ((Gives.of_refuses hbehind ts).mono (Nat.zero_le 1))
  refine Gives.ref_none (Gives.seq_some_none (Gives.opt_refused rfl) ?_)
  exact Gives.seq_some_none htype (Gives.seq_some_none (Gives.opt_refused htag) hnone)

/-- The tree of a type that is a single name. -/
def typeNameTree (text : List Char) : Tree Symbol :=
  .node .type [.node .typeName [.leaf (Token.name text)]]

/-- What may come behind a type in a field: its tag, or the next line. -/
def endsType (ts : List Token) : Prop :=
  StartsFresh ts ∨ ∃ text rest, ts = Token.plain .string text :: rest

theorem endsType.gives_none {r : Rule Symbol} {ts : List Token} (h : endsType ts)
    (hf : ∀ kind text, refuses r ⟨kind, text, true⟩ = true)
    (hs : ∀ text, refuses r ⟨.string, text, false⟩ = true) : Gives 0 r ts none := by
  rcases h with h | ⟨text, rest, rfl⟩
  · exact h.gives_none hf
  · exact Gives.of_refuses (hs text) rest

/-- A name where a type may end is read as a type. -/
theorem gives_typeName {ts : List Token} (text : List Char) (h : endsType ts) :
    Gives 2 (.ref .type) (Token.name text :: ts) (some ([typeNameTree text], ts)) := by
  refine Gives.ref (Gives.alt_left (Gives.ref (Gives.seq (gives_name text ts) ?_)))
  refine Gives.seq (Gives.opt_none (h.gives_none ?_ ?_)) (Gives.opt_none (h.gives_none ?_ ?_))
  · exact fun _ _ => rfl
  · exact fun _ => rfl
  · exact fun _ _ => rfl
  · exact fun _ => rfl

/-- The tokens of a field with its tag as written. -/
def fieldTokens (name : List Char) (tag : Option (List Char)) : List Token :=
  (Token.name name).onNewLine :: Token.name "string".toList :: tag.toList.map (Token.plain .string)

def fieldTree (name : List Char) (tag : Option (List Char)) : Tree Symbol :=
  .node .namedField (.leaf (Token.name name) :: typeNameTree "string".toList ::
    tag.toList.map fun text => .leaf (Token.plain .string text))

/-- A field is read up to the next line. -/
theorem gives_field (name : List Char) (tag : Option (List Char)) {ts : List Token}
    (h : StartsFresh ts) :
    Gives 3 member (settle (fieldTokens name tag ++ ts)) (some ([fieldTree name tag], ts)) := by
  have htag : Gives 2 (.opt (.token .string)) (tag.toList.map (Token.plain .string) ++ ts)
      (some (tag.toList.map fun text => .leaf (Token.plain .string text), ts)) := by
    cases tag with
    | none => exact (Gives.opt_none (h.gives_none fun _ _ => rfl)).mono (Nat.zero_le 2)
    | some text => exact (Gives.opt_some (Gives.token rfl rfl)).mono (Nat.zero_le 2)
  have htype : endsType (tag.toList.map (Token.plain .string) ++ ts) := by
    cases tag with
    | none => exact .inl h
    | some text => exact .inr ⟨text, ts, rfl⟩
  have hname : Gives 2 Grammar.names
      (Token.name name :: Token.name "string".toList :: (tag.toList.map (Token.plain .string) ++ ts))
      (some ([.leaf (Token.name name)], _)) :=
    Gives.seq (gives_name name _) (Gives.many_refused rfl)
  have hembedded := gives_embedded_none name (t := Token.name "string".toList) (by decide)
    (tag.toList.map (Token.plain .string) ++ ts)
  exact Gives.alt_right (hembedded.mono (by decide))
    (Gives.ref (Gives.seq hname (Gives.seq (gives_typeName _ htype) htag)))

/-! ## Struct types -/

section StructType

variable {α : Type} {k : Nat} {block : α → List Token} {tree : α → List (Tree Symbol)}

/-- The tokens of a struct type with its members in lines of their own, and what follows them. -/
def structTokens (members rest : List Token) : List Token :=
  Token.keyword "struct" :: Token.sign "\x7b" ::
    settle (members ++ (Token.sign "\x7d").onNewLine :: rest)

@[simp] theorem structTokens_append (members rest ts : List Token) :
    structTokens members rest ++ ts = structTokens members (rest ++ ts) := by
  unfold structTokens
  cases members <;> simp [settle]

def structTree (members : List (Tree Symbol)) : Tree Symbol :=
  .node .structType (.leaf (Token.keyword "struct") :: .leaf (Token.sign "\x7b") ::
    (members ++ [.leaf (Token.sign "\x7d")]))

/-- The members of a struct type are read line by line. -/
theorem gives_structType {as : List α} (h : ReadsLines k member block tree as)
    (rest : List Token) :
    Gives (k + 1) (.ref .structType) (structTokens (as.flatMap block) rest)
      (some ([structTree (as.flatMap tree)], rest)) := by
  refine Gives.ref (Gives.seq (gives_word "struct" _) ?_)
  refine Gives.members h (by decide) rfl (by decide) rfl ?_
  exact (Gives.of_refuses (by rfl) rest).mono (Nat.zero_le k)

/-- A struct type where a type is read. -/
theorem gives_type_struct {as : List α} (h : ReadsLines k member block tree as)
    (rest : List Token) :
    Gives (k + 2) (.ref .type) (structTokens (as.flatMap block) rest)
      (some ([.node .type [structTree (as.flatMap tree)]], rest)) := by
  refine Gives.ref (Gives.alt_refused (by rfl) (Gives.alt_refused (by rfl) ?_))
  exact Gives.alt_left (gives_structType h rest)

end StructType

/-! ## Files -/

/-- The rule of a part of a file with the end of its line. -/
def part : Rule Symbol :=
  Rule.alts (.seq (.ref .topLevel) (.terminator true))
    [.seq (.ref .statement) (.terminator false), .seq (.ref .plainStatement) (.terminator true)]

/-- Each part, given by its tokens and trees, is read up to the line after it. -/
def ReadsParts (k : Nat) (parts : List (List Token × List (Tree Symbol))) : Prop :=
  ∀ p ∈ parts, StartsFresh p.1 ∧
    ∀ ts, StartsFresh ts → Gives k part (settle (p.1 ++ ts)) (some (p.2, settle ts))

/-- The token for the end of a text that ends with a line. -/
def Token.finish (afterName : Bool) : Token :=
  ⟨.finish, [], Position.start, true, none, afterName⟩

theorem startsFresh_parts {k : Nat} {parts : List (List Token × List (Tree Symbol))}
    (h : ReadsParts k parts) (afterName : Bool) :
    StartsFresh (parts.flatMap Prod.fst ++ [Token.finish afterName]) :=
  startsFresh_flatMap (fun p hp => (h p hp).1) ⟨_, [], rfl, rfl⟩

/-- The parts of a file are read one by one up to its end. -/
theorem ReadsParts.repeats {k : Nat} {parts : List (List Token × List (Tree Symbol))}
    (h : ReadsParts k parts) (afterName : Bool) :
    Repeats k part (settle (parts.flatMap Prod.fst ++ [Token.finish afterName]))
      (parts.flatMap Prod.snd) (settle [Token.finish afterName]) := by
  induction parts with
  | nil =>
    have hrefused : refuses part ⟨.finish, [], false⟩ = true := by rfl
    exact .stop ((Gives.of_refuses hrefused []).mono (Nat.zero_le k))
  | cons p ps ih =>
    obtain ⟨hfresh, hread⟩ := h p List.mem_cons_self
    have htail : ReadsParts k ps := fun q hq => h q (List.mem_cons_of_mem p hq)
    rw [List.flatMap_cons, List.flatMap_cons, List.append_assoc]
    refine .step (hread _ (startsFresh_parts htail afterName)) ?_ (ih htail)
    obtain ⟨t, us, hp, -⟩ := hfresh
    simp only [hp, length_settle, List.length_append, List.length_cons]
    omega

def fileTree (afterName : Bool) (parts : List (Tree Symbol)) : Tree Symbol :=
  .node .file (parts ++ [.leaf { Token.finish afterName with fresh := false }])

/-- A file of parts in lines of their own is read to its end. -/
theorem readFile_parts {k : Nat} {parts : List (List Token × List (Tree Symbol))}
    (h : ReadsParts k parts) (hk : k < 64) (hparts : parts ≠ []) (afterName : Bool) :
    readFile (settle (parts.flatMap Prod.fst ++ [Token.finish afterName])) =
      some (fileTree afterName (parts.flatMap Prod.snd)) := by
  have hgives : Gives (k + 1) (.ref .file)
      (settle (parts.flatMap Prod.fst ++ [Token.finish afterName]))
      (some ([fileTree afterName (parts.flatMap Prod.snd)], [])) := by
    refine Gives.ref (Gives.seq (Gives.many (h.repeats afterName)) ?_)
    have hrefused : refuses (.ref .topLevel) ⟨.finish, [], false⟩ = true := by rfl
    refine Gives.seq (Gives.opt_refused hrefused) ?_
    refine (Gives.seq Gives.joined ?_).mono (Nat.zero_le k)
    exact Gives.token (by cases afterName <;> decide) rfl
  have hlength : 2 ≤ (settle (parts.flatMap Prod.fst ++ [Token.finish afterName])).length := by
    obtain ⟨p, ps, rfl⟩ := List.exists_cons_of_ne_nil hparts
    obtain ⟨t, us, hp, -⟩ := (h p List.mem_cons_self).1
    simp only [List.flatMap_cons, hp, length_settle, List.length_append, List.length_cons]
    omega
  have hread := hgives (depthFor (settle (parts.flatMap Prod.fst ++ [Token.finish afterName])))
    (by unfold depthFor; omega)
  unfold readFile
  rw [Rule.read_ref] at hread
  rw [hread]

/-- The tokens of a package clause, behind a comment or not. -/
def packageTokens (comment : Option (List Char)) (name : List Char) : List Token :=
  [{ (Token.keyword "package").onNewLine with comment := comment }, Token.name name]

def packageTree (comment : Option (List Char)) (name : List Char) : Tree Symbol :=
  .node .topLevel [.node .packageClause
    [.leaf { Token.keyword "package" with comment := comment }, .leaf (Token.name name)]]

/-- A package clause is read, with a comment in it or without. -/
theorem gives_package (comment : Option (List Char)) (name : List Char) {ts : List Token}
    (h : StartsFresh ts) :
    Gives 2 part (settle (packageTokens comment name ++ ts))
      (some ([packageTree comment name], settle ts)) := by
  have hclause : Gives 0 (.seq (Rule.word "package") Rule.name)
      (settle (packageTokens comment name ++ ts)) (some ([.leaf
        { Token.keyword "package" with comment := comment }, .leaf (Token.name name)], ts)) :=
    Gives.seq (Gives.token (by simp [Terminal.accepts, Token.keyword, Token.plain, Token.onNewLine])
      rfl) (gives_name name ts)
  refine Gives.alt_left (Gives.seq (Gives.ref (Gives.alt_left (Gives.ref hclause))) ?_)
  exact (h.terminator true).mono (Nat.zero_le 2)

end TagSpec.Source
