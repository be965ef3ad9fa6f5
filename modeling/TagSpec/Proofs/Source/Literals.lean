import TagSpec.Proofs.Source.Structs

/-!
# Composite literals

Tokens of values of struct types with one element a line, and the trees that they are read as.
-/

namespace TagSpec.Source

/-! ## Expressions -/

/-- Whether an operand cannot go on with a token: it calls or selects nothing, and joins no other
operand. -/
def endsOperand (l : Look) : Bool :=
  refuses (Rule.alts (.seq (Rule.sign ".")
    (.alt Rule.name (Rule.seqs [Rule.sign "(", .ref .type, Rule.sign ")"])))
    [.ref .arguments, .ref .brackets]) l &&
  refuses (.seq Grammar.binarySign (.ref (.unary true))) l

/-- The tree of an expression that is a single operand. -/
def operandTree (xs : List (Tree Symbol)) : Tree Symbol :=
  .node (.expression true) [.node (.unary true) [.node (.primary true) [.node (.operand true) xs]]]

theorem gives_expression {k : Nat} {t u : Token} {ts us : List Token} {xs : List (Tree Symbol)}
    (h : Gives k (Grammar.rule (.operand true)) (t :: ts) (some (xs, u :: us)))
    (ht : refuses (.seq Grammar.unarySign (.ref (.unary true))) t.look = true)
    (hu : endsOperand u.look = true) :
    Gives (k + 4) Grammar.expr (t :: ts) (some ([operandTree xs], u :: us)) := by
  rw [endsOperand, Bool.and_eq_true] at hu
  have hprimary : Gives (k + 1) (Grammar.rule (.primary true)) (t :: ts)
      (some ([.node (.operand true) xs], u :: us)) :=
    Gives.seq (Gives.ref h) (Gives.many_refused hu.1)
  have hunary : Gives (k + 2) (Grammar.rule (.unary true)) (t :: ts)
      (some ([.node (.primary true) [.node (.operand true) xs]], u :: us)) :=
    Gives.alt_refused ht (Gives.ref hprimary)
  exact Gives.ref (Gives.seq (Gives.ref hunary) (Gives.many_refused hu.2))

/-! ## Operands -/

/-- A token is read or not. -/
theorem gives_token_cases (c : Terminal) (t : Token) (ts : List Token) :
    Gives 0 (.token c) (t :: ts) none ∨ Gives 0 (.token c) (t :: ts) (some ([.leaf t], ts)) := by
  by_cases h : (c.accepts t && !t.fresh) = true
  · exact .inr fun d _ => by simp [Rule.read_token, readToken, h]
  · exact .inl fun d _ => by simp [Rule.read_token, readToken, h]

/-- A name before a colon is no call of `make` or `new`. -/
theorem gives_make_none {r : Rule Symbol} (text : List Char) (ts : List Token) :
    Gives 0 (.seq (.alt (Rule.word "make") (Rule.word "new")) (.seq (Rule.sign "(") r))
      (Token.name text :: Token.sign ":" :: ts) none := by
  have hnext : Gives 0 (.seq (Rule.sign "(") r) (Token.sign ":" :: ts) none :=
    Gives.seq_none (Gives.of_refuses (by rfl) ts)
  rcases gives_token_cases (.word "make") (Token.name text) (Token.sign ":" :: ts) with hm | hm
  · rcases gives_token_cases (.word "new") (Token.name text) (Token.sign ":" :: ts) with hn | hn
    · exact Gives.seq_none (Gives.alt_right hm hn)
    · exact Gives.seq_some_none (Gives.alt_right hm hn) hnext
  · exact Gives.seq_some_none (Gives.alt_left hm) hnext

/-- A name before a colon is an operand by itself. -/
theorem gives_operand_name (text : List Char) (ts : List Token) :
    Gives 1 (Grammar.rule (.operand true)) (Token.name text :: Token.sign ":" :: ts)
      (some ([.leaf (Token.name text)], Token.sign ":" :: ts)) := by
  have htype : Gives 1 (.ref .typeName) (Token.name text :: Token.sign ":" :: ts)
      (some ([.node .typeName [.leaf (Token.name text)]], Token.sign ":" :: ts)) :=
    Gives.ref (Gives.seq (gives_name text _) (Gives.seq (Gives.opt_refused (by rfl))
      (Gives.opt_refused (by rfl))))
  have hvalue : Gives 1 (.ref .literalValue) (Token.sign ":" :: ts) none :=
    (Gives.of_refuses (by rfl) ts).mono (Nat.zero_le 1)
  refine Gives.alt_refused rfl (Gives.alt_refused rfl (Gives.alt_refused rfl ?_))
  refine Gives.alt_right ((gives_make_none text ts).mono (Nat.zero_le 1)) ?_
  exact Gives.alt_right (Gives.seq_some_none htype hvalue) (Gives.alt_left (gives_name text _))

theorem gives_operand_string (text : List Char) (ts : List Token) :
    Gives 0 (Grammar.rule (.operand true)) (Token.plain .string text :: ts)
      (some ([.leaf (Token.plain .string text)], ts)) :=
  Gives.alt_refused rfl (Gives.alt_left (Gives.token rfl rfl))

/-! ## Elements -/

/-- The rule of a key or a value. -/
def elementPart : Rule Symbol := .alt (.ref .literalValue) Grammar.expr

def keyTree (text : List Char) : Tree Symbol := operandTree [.leaf (Token.name text)]

/-- The tree of an element with a name for its key. -/
def elementTree (key : List Char) (value : Tree Symbol) : Tree Symbol :=
  .node .element [keyTree key, .leaf (Token.sign ":"), value]

/-- An element with a name for its key is read with its value. -/
theorem gives_element {k : Nat} (key : List Char) {ts us : List Token} {value : Tree Symbol}
    (hk : 5 ≤ k) (h : Gives k elementPart ts (some ([value], us))) :
    Gives (k + 1) (.ref .element) (Token.name key :: Token.sign ":" :: ts)
      (some ([elementTree key value], us)) := by
  have hkey : Gives 5 elementPart (Token.name key :: Token.sign ":" :: ts)
      (some ([keyTree key], Token.sign ":" :: ts)) :=
    Gives.alt_refused rfl (gives_expression (gives_operand_name key ts) rfl (by rfl))
  have hvalue : Gives k (.opt (.seq (Rule.sign ":") elementPart)) (Token.sign ":" :: ts)
      (some ([.leaf (Token.sign ":"), value], us)) :=
    Gives.opt_some (Gives.seq (gives_sign ":" ts) h)
  exact Gives.ref (Gives.seq (hkey.mono hk) hvalue)

/-- A string is read as a value up to the comma behind it. -/
theorem gives_string (text : List Char) (ts : List Token) :
    Gives 4 elementPart (Token.plain .string text :: Token.sign "," :: ts)
      (some ([operandTree [.leaf (Token.plain .string text)]], Token.sign "," :: ts)) :=
  Gives.alt_refused rfl (gives_expression (gives_operand_string text _) rfl (by rfl))

/-! ## Values of struct types -/

section StructValue

variable {α β : Type} {k : Nat} {block : α → List Token} {tree : α → List (Tree Symbol)}
  {element : β → List Token} {elementOf : β → List (Tree Symbol)}

/-- The tokens of the elements of a value, in braces and with a comma behind each. -/
def valueTokens (elements rest : List Token) : List Token :=
  Token.sign "\x7b" :: (elements ++ Token.sign "\x7d" :: rest)

@[simp] theorem valueTokens_append (elements rest ts : List Token) :
    valueTokens elements rest ++ ts = valueTokens elements (rest ++ ts) := by
  simp [valueTokens]

def valueTree (elements : List (Tree Symbol)) : Tree Symbol :=
  .node .literalValue (.leaf (Token.sign "\x7b") :: (elements ++ [.leaf (Token.sign "\x7d")]))

/-- Elements between braces are read one by one. -/
theorem gives_literalValue {bs : List β}
    (h : ReadsElements k (.ref .element) element elementOf (Token.sign ",") bs)
    (rest : List Token) :
    Gives (k + 1) (.ref .literalValue)
      (valueTokens (bs.flatMap fun b => element b ++ [Token.sign ","]) rest)
      (some ([valueTree (elementTrees elementOf (Token.sign ",") bs)], rest)) := by
  refine Gives.ref (Gives.listed h (by decide) rfl (by decide) rfl (by decide) rfl ?_)
  exact (Gives.of_refuses (by rfl) rest).mono (Nat.zero_le k)

/-- The rule of a type of which a value is written. -/
def literalType : Rule Symbol :=
  Rule.alts (.ref .sliceType) [.ref .arrayType, .ref .mapType, .ref .structType,
    Rule.seqs [Rule.sign "[", Rule.sign "...", Rule.sign "]", .joined, .ref .type]]

/-- A struct type with a value behind it is an operand. -/
theorem gives_operand_struct {as : List α} {bs : List β} (h : ReadsLines k member block tree as)
    (hv : ReadsElements k (.ref .element) element elementOf (Token.sign ",") bs)
    (rest : List Token) :
    Gives (k + 1) (Grammar.rule (.operand true))
      (structTokens (as.flatMap block)
        (valueTokens (bs.flatMap fun b => element b ++ [Token.sign ","]) rest))
      (some ([structTree (as.flatMap tree),
        valueTree (elementTrees elementOf (Token.sign ",") bs)], rest)) := by
  have htype : ∀ ts, Gives (k + 1) literalType (structTokens (as.flatMap block) ts)
      (some ([structTree (as.flatMap tree)], ts)) := by
    intro ts
    iterate 3 refine Gives.alt_refused (by rfl) ?_
    exact Gives.alt_left (gives_structType h ts)
  iterate 10 refine Gives.alt_refused (by rfl) ?_
  exact Gives.alt_left (Gives.seq (htype _) (gives_literalValue hv rest))

/-- The tree of a value of a struct type. -/
def structValueTree (members elements : List (Tree Symbol)) : Tree Symbol :=
  operandTree [structTree members, valueTree elements]

/-- A value of a struct type is read with the type in front. -/
theorem gives_structValue {as : List α} {bs : List β} (h : ReadsLines k member block tree as)
    (hv : ReadsElements k (.ref .element) element elementOf (Token.sign ",") bs)
    {u : Token} (hu : endsOperand u.look = true) (us : List Token) :
    Gives (k + 5) Grammar.expr
      (structTokens (as.flatMap block)
        (valueTokens (bs.flatMap fun b => element b ++ [Token.sign ","]) (u :: us)))
      (some ([structValueTree (as.flatMap tree)
        (elementTrees elementOf (Token.sign ",") bs)], u :: us)) :=
  gives_expression (gives_operand_struct h hv (u :: us)) (by rfl) hu

end StructValue

end TagSpec.Source
