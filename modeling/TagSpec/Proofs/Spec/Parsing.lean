import TagSpec.Proofs.Source.Literals
import TagSpec.Source.SyntaxTree
import TagSpec.Spec
import TagSpec.StringLiteral

/-!
# Reading specs

The tokens of a spec as it is rendered, and the tree that they are read as: one variable declaration
whose value is a struct of structs.
-/

namespace TagSpec

open Source

/-! ## Entries -/

namespace Entry

/-- The tokens of the field that stands for the entry. -/
def typeTokens (e : Entry) : List Token := fieldTokens e.field.toList none

def typeTrees (e : Entry) : List SyntaxTree := [fieldTree e.field.toList none]

def valueTokens (e : Entry) : List Token :=
  [Token.name e.field.toList, Token.sign ":",
    Token.plain .string (StringLiteral.encode e.value.toList)]

def valueTrees (e : Entry) : List SyntaxTree :=
  [elementTree e.field.toList
    (operandTree [.leaf (Token.plain .string (StringLiteral.encode e.value.toList))])]

theorem readsLines (es : List Entry) : ReadsLines 3 member typeTokens typeTrees es :=
  fun _ _ => ⟨Token.startsFresh _ _, fun _ hts => gives_field _ none hts⟩

theorem readsElements (es : List Entry) :
    ReadsElements 6 (.ref .element) valueTokens valueTrees (Token.sign ",") es :=
  fun _ _ ts => gives_element _ (Nat.le_refl 5) ((gives_string _ ts).mono (by decide))

end Entry

/-! ## Groups -/

namespace Group

/-- The tokens of the field that stands for the group. -/
def declarationTokens (g : Group) : List Token :=
  (Token.name g.displayName.toList).onNewLine :: structTokens (g.entries.flatMap Entry.typeTokens) []

def declarationTrees (g : Group) : List SyntaxTree :=
  [.node .namedField [.leaf (Token.name g.displayName.toList),
    .node .type [structTree (g.entries.flatMap Entry.typeTrees)]]]

/-- The tokens of the value of that field. -/
def literalTokens (g : Group) : List Token :=
  Token.name g.displayName.toList :: Token.sign ":" ::
    structTokens (g.entries.flatMap Entry.typeTokens)
      (valueTokens (g.entries.flatMap fun e => e.valueTokens ++ [Token.sign ","]) [])

def literalTrees (g : Group) : List SyntaxTree :=
  [elementTree g.displayName.toList (structValueTree (g.entries.flatMap Entry.typeTrees)
    (elementTrees Entry.valueTrees (Token.sign ",") g.entries))]

/-- The declaration of a group is read as a member. -/
theorem gives_declaration (g : Group) {ts : List Token} (h : StartsFresh ts) :
    Gives 6 member (settle (g.declarationTokens ++ ts)) (some (g.declarationTrees, ts)) := by
  have hname : ∀ us, Gives 5 Grammar.names
      (Token.name g.displayName.toList :: structTokens (g.entries.flatMap Entry.typeTokens) us)
      (some ([.leaf (Token.name g.displayName.toList)],
        structTokens (g.entries.flatMap Entry.typeTokens) us)) :=
    fun us => Gives.seq (gives_name _ _) (Gives.many_refused (by rfl))
  have htag : Gives 5 (.opt (.token .string)) ts (some ([], ts)) :=
    Gives.opt_none ((h.gives_none fun _ _ => rfl).mono (Nat.zero_le 5))
  have htype := gives_type_struct (Entry.readsLines g.entries) ts
  have hembedded := gives_embedded_none g.displayName.toList (t := Token.keyword "struct") (by decide)
    (structTokens (g.entries.flatMap Entry.typeTokens) ts).tail
  rw [declarationTokens, List.cons_append, structTokens_append, List.nil_append]
  exact Gives.alt_right (hembedded.mono (by decide))
    (Gives.ref (Gives.seq (hname ts) (Gives.seq htype htag)))

theorem readsLines (gs : List Group) :
    ReadsLines 6 member declarationTokens declarationTrees gs :=
  fun g _ => ⟨Token.startsFresh _ _, fun _ hts => g.gives_declaration hts⟩

/-- The value of a group is read as an element. -/
theorem gives_literal (g : Group) (ts : List Token) :
    Gives 12 (.ref .element) (g.literalTokens ++ Token.sign "," :: ts)
      (some (g.literalTrees, Token.sign "," :: ts)) := by
  have hvalue := gives_structValue (ReadsLines.mono (Entry.readsLines g.entries) (by decide))
    (Entry.readsElements g.entries) (u := Token.sign ",") (by rfl) ts
  rw [literalTokens, List.cons_append, List.cons_append, structTokens_append, valueTokens_append,
    List.nil_append]
  exact gives_element _ (by decide) (Gives.alt_refused (by rfl) hvalue)

theorem readsElements (gs : List Group) :
    ReadsElements 12 (.ref .element) literalTokens literalTrees (Token.sign ",") gs :=
  fun g _ ts => g.gives_literal ts

end Group

/-! ## Specs -/

namespace Spec

def variableName (s : Spec) : List Char := s.name.toList ++ "Spec".toList

def tokens (comment : List Char) (s : Spec) : List Token :=
  { (Token.keyword "var").onNewLine with comment := some comment } :: Token.name s.variableName ::
    Token.sign "=" :: structTokens (s.groups.flatMap Group.declarationTokens)
      (valueTokens (s.groups.flatMap fun g => g.literalTokens ++ [Token.sign ","]) [])

def tree (comment : List Char) (s : Spec) : SyntaxTree :=
  .node .statement [.node .plainStatement [.node .varDeclaration
    [.leaf { Token.keyword "var" with comment := some comment },
      .node .varSpec [.leaf (Token.name s.variableName), .leaf (Token.sign "="),
        structValueTree (s.groups.flatMap Group.declarationTrees)
          (elementTrees Group.literalTrees (Token.sign ",") s.groups)]]]]

/-- The variable of a spec is read with its type and its value. -/
theorem gives_varSpec (s : Spec) {ts : List Token} (h : StartsFresh ts) :
    Gives 18 (.ref .varSpec)
      (Token.name s.variableName :: Token.sign "=" ::
        structTokens (s.groups.flatMap Group.declarationTokens)
          (valueTokens (s.groups.flatMap fun g => g.literalTokens ++ [Token.sign ","]) ts))
      (some ([.node .varSpec [.leaf (Token.name s.variableName), .leaf (Token.sign "="),
        structValueTree (s.groups.flatMap Group.declarationTrees)
          (elementTrees Group.literalTrees (Token.sign ",") s.groups)]], ts)) := by
  have hfresh := h
  obtain ⟨u, us, rfl, hu⟩ := h
  have hname : ∀ vs, Gives 17 Grammar.names (Token.name s.variableName :: Token.sign "=" :: vs)
      (some ([.leaf (Token.name s.variableName)], Token.sign "=" :: vs)) :=
    fun vs => Gives.seq (gives_name _ _) (Gives.many_refused (by rfl))
  have hends : endsOperand u.look = true := by
    rw [Token.look, hu]
    rfl
  have hvalue := gives_structValue (ReadsLines.mono (Group.readsLines s.groups) (by decide))
    (Group.readsElements s.groups) hends us
  have hcomma : Gives 17 (.many (.seq (Rule.sign ",") Grammar.expr)) (u :: us)
      (some ([], u :: us)) :=
    Gives.many (.stop ((hfresh.gives_none fun _ _ => rfl).mono (Nat.zero_le 17)))
  refine Gives.ref (Gives.seq (hname _) (Gives.seq (Gives.joined_settled rfl) ?_))
  refine Gives.alt_refused (by rfl) ?_
  exact Gives.seq (gives_sign "=" _) (Gives.seq hvalue hcomma)

/-- A spec is read as one part of a file. -/
theorem gives_part (comment : List Char) (s : Spec) {ts : List Token} (h : StartsFresh ts) :
    Gives 21 part (settle (s.tokens comment ++ ts)) (some ([s.tree comment], settle ts)) := by
  have hword : ∀ us, Gives 18 (Rule.word "var")
      ({ Token.keyword "var" with comment := some comment } :: us)
      (some ([.leaf { Token.keyword "var" with comment := some comment }], us)) :=
    fun us => (Gives.token rfl rfl).mono (Nat.zero_le 18)
  have htail := s.gives_varSpec h
  have htokens : settle (s.tokens comment ++ ts) =
      { Token.keyword "var" with comment := some comment } :: Token.name s.variableName ::
        Token.sign "=" :: structTokens (s.groups.flatMap Group.declarationTokens)
          (valueTokens (s.groups.flatMap fun g => g.literalTokens ++ [Token.sign ","]) ts) := by
    simp [tokens, settle, Token.onNewLine, Token.keyword, Token.plain]
  have hdeclaration := Gives.ref (s := .varDeclaration)
    (Gives.seq (hword _) (Gives.seq (Gives.joined_settled rfl) (Gives.alt_left htail)))
  have hplain := Gives.ref (s := .plainStatement)
    (Gives.alt_refused rfl (Gives.alt_refused rfl (Gives.alt_left hdeclaration)))
  have hstatement := Gives.ref (s := .statement)
    (Gives.alt_refused rfl (Gives.alt_refused rfl hplain))
  rw [htokens]
  exact Gives.alt_refused rfl (Gives.alt_left
    (Gives.seq hstatement ((h.terminator false).mono (Nat.zero_le 21))))

end Spec

end TagSpec
