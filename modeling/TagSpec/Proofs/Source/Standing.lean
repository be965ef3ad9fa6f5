import Mathlib.Data.List.Induction
import TagSpec.Proofs.Source.Lexing
import TagSpec.Proofs.Source.Nodes
import TagSpec.Text.Utf8

/-!
# Where tokens stand

The place of a token tells where in the text it stands, and the tokens of a text stand one behind the
other. A tree keeps the tokens that it was read from, and their order: `pairwise_tokens`.
-/

namespace TagSpec.Source

/-! ## Places -/

/-- The end of a text behind its last line feed. -/
def lastLine (cs : List Char) : List Char := (cs.reverse.takeWhile (· != '\n')).reverse

theorem lastLine_append_newline (cs : List Char) : lastLine (cs ++ ['\n']) = [] := by
  simp [lastLine]

theorem lastLine_append {c : Char} (hc : c ≠ '\n') (cs : List Char) :
    lastLine (cs ++ [c]) = lastLine cs ++ [c] := by
  simp [lastLine, hc]

/-- The place behind a text is told by its line feeds and by the bytes behind the last of them. -/
theorem afterAll_start (cs : List Char) :
    Position.start.afterAll cs = ⟨cs.count '\n' + 1, (Utf8.encode (lastLine cs)).length + 1⟩ := by
  induction cs using List.reverseRecOn with
  | nil => rfl
  | append_singleton cs c ih =>
    rw [Position.afterAll_append, ih, Position.afterAll_cons, Position.afterAll_nil, Position.after]
    by_cases hc : c = '\n'
    · subst hc
      rw [if_pos rfl, lastLine_append_newline]
      simp
    · rw [if_neg hc, lastLine_append hc]
      simp [hc, Utf8.encodeChar, String.length_utf8EncodeChar]
      omega

/-- A place comes before another: in an earlier line, or in the same line and an earlier column. -/
def Position.Before (p q : Position) : Prop := p.line < q.line ∨ p.line = q.line ∧ p.column < q.column

theorem Position.Before.trans {p q r : Position} (h : p.Before q) (h' : q.Before r) : p.Before r := by
  unfold Position.Before at *
  omega

theorem Position.Before.not_before {p q : Position} (h : p.Before q) : ¬ q.Before p := by
  unfold Position.Before at *
  omega

theorem Position.Before.of_le {p q r : Position} (h : p.Before q) (h' : q = r ∨ q.Before r) :
    p.Before r := by
  rcases h' with rfl | h'
  · exact h
  · exact h.trans h'

theorem Position.before_after (p : Position) (c : Char) : p.Before (p.after c) := by
  have hsize := c.utf8Size_pos
  unfold Position.Before Position.after
  split
  · exact .inl (Nat.lt_succ_self _)
  · exact .inr ⟨rfl, Nat.lt_add_of_pos_right hsize⟩

theorem Position.before_afterAll (p : Position) (c : Char) (cs : List Char) :
    p.Before (p.afterAll (c :: cs)) := by
  induction cs generalizing p c with
  | nil => exact p.before_after c
  | cons d cs ih => exact (p.before_after c).trans (ih (p.after c) d)

/-! ## Tokens of a text -/

/-- A word stands at a place of a text: the place tells how many lines end in front of the word, and
how many bytes stand in its line in front of it. -/
def StandsAt (text word : List Char) (p : Position) : Prop :=
  ∃ front back, text = front ++ word ++ back ∧ p.line = front.count '\n' + 1 ∧
    p.column = (Utf8.encode (lastLine front)).length + 1

/-- A word stands at the place behind the text in front of it. -/
theorem standsAt_afterAll (front word back : List Char) :
    StandsAt (front ++ word ++ back) word (Position.start.afterAll front) := by
  refine ⟨front, back, rfl, ?_, ?_⟩
  · rw [afterAll_start]
  · rw [afterAll_start]

theorem standsAt_lexFrom (p : Position) (m : Marks) (cs : List Char) (front : List Char)
    (hp : p = Position.start.afterAll front) :
    ∀ t ∈ lexFrom p m cs, StandsAt (front ++ cs) t.text t.position := by
  fun_induction lexFrom p m cs generalizing front with
  | case1 p m =>
    intro t ht
    obtain rfl := List.mem_singleton.1 ht
    have hstands := standsAt_afterAll front [] []
    rwa [← hp, List.append_nil] at hstands
  | case2 p m c r piece text rest behind hpiece ih =>
    have hcut : front ++ c :: r = (front ++ text) ++ rest := by simp [text, rest]
    rw [hcut]
    exact ih (front ++ text) (by rw [Position.afterAll_append, ← hp])
  | case3 p m c r piece text rest behind hpiece ih =>
    have hcut : front ++ c :: r = (front ++ text) ++ rest := by simp [text, rest]
    rw [hcut]
    exact ih (front ++ text) (by rw [Position.afterAll_append, ← hp])
  | case4 p m c r piece text rest behind kind hpiece ih =>
    have hcut : front ++ c :: r = (front ++ text) ++ rest := by simp [text, rest]
    rw [hcut]
    refine List.forall_mem_cons.2 ⟨?_, ih (front ++ text) (by rw [Position.afterAll_append, ← hp])⟩
    rw [hp]
    exact standsAt_afterAll front text rest

/-- No token begins before the place from which a text is cut. -/
theorem before_lexFrom (p : Position) (m : Marks) (cs : List Char) :
    ∀ t ∈ lexFrom p m cs, p = t.position ∨ p.Before t.position := by
  fun_induction lexFrom p m cs with
  | case1 p m =>
    intro t ht
    obtain rfl := List.mem_singleton.1 ht
    exact .inl rfl
  | case2 p m c r piece text rest behind hpiece ih =>
    intro t ht
    exact .inr (p.before_afterAll c _ |>.of_le (ih t ht))
  | case3 p m c r piece text rest behind hpiece ih =>
    intro t ht
    exact .inr (p.before_afterAll c _ |>.of_le (ih t ht))
  | case4 p m c r piece text rest behind kind hpiece ih =>
    refine List.forall_mem_cons.2 ⟨.inl rfl, fun t ht => ?_⟩
    exact .inr (p.before_afterAll c _ |>.of_le (ih t ht))

/-- The tokens of a text stand one behind the other. -/
theorem pairwise_lexFrom (p : Position) (m : Marks) (cs : List Char) :
    (lexFrom p m cs).Pairwise fun t u => t.position.Before u.position := by
  fun_induction lexFrom p m cs with
  | case1 p m => exact List.pairwise_singleton _ _
  | case2 p m c r piece text rest behind hpiece ih => exact ih
  | case3 p m c r piece text rest behind hpiece ih => exact ih
  | case4 p m c r piece text rest behind kind hpiece ih =>
    refine List.pairwise_cons.2 ⟨fun t ht => ?_, ih⟩
    exact p.before_afterAll c _ |>.of_le (before_lexFrom behind _ rest t ht)

/-- Every token stands at its place in the text. -/
theorem standsAt_lex (text : List Char) : ∀ t ∈ lex text, StandsAt text t.text t.position := by
  have hstands := standsAt_lexFrom _ Marks.start (codeOf text) (markOf text) rfl
  rwa [markOf_append_codeOf, ← lex_eq] at hstands

/-- Tokens come in the order of their places. -/
theorem pairwise_lex (text : List Char) :
    (lex text).Pairwise fun t u => t.position.Before u.position := by
  rw [lex_eq]
  exact pairwise_lexFrom _ _ _

/-! ## Tokens of a tree -/

mutual

/-- The tokens of a tree from left to right. -/
def Tree.tokens : SyntaxTree → List Token
  | .leaf t => [t]
  | .node _ children => Tree.tokensAll children

def Tree.tokensAll : List SyntaxTree → List Token
  | [] => []
  | t :: ts => Tree.tokens t ++ Tree.tokensAll ts

end

theorem tokensAll_append (ts us : List SyntaxTree) :
    Tree.tokensAll (ts ++ us) = Tree.tokensAll ts ++ Tree.tokensAll us := by
  induction ts with
  | nil => rfl
  | cons t ts ih => rw [List.cons_append, Tree.tokensAll, Tree.tokensAll, ih, List.append_assoc]

theorem tokensAll_singleton (t : SyntaxTree) : Tree.tokensAll [t] = t.tokens := by
  rw [Tree.tokensAll, Tree.tokensAll, List.append_nil]

/-- The token where it is no longer fresh. -/
def Token.settled (t : Token) : Token := { t with fresh := false }

theorem map_settled_settle (ts : List Token) :
    (settle ts).map Token.settled = ts.map Token.settled := by
  cases ts <;> rfl

/-- The tokens of a list but for signs that end statements. -/
def withoutSigns (ts : List Token) : List Token := ts.filter fun t => !isTerminatorSign t

theorem withoutSigns_append (ts us : List Token) :
    withoutSigns (ts ++ us) = withoutSigns ts ++ withoutSigns us := List.filter_append ts us

theorem withoutSigns_map_settled (ts : List Token) :
    withoutSigns (ts.map Token.settled) = (withoutSigns ts).map Token.settled := List.filter_map

/-- Trees are made of the tokens that are used up, in their order. None of these is left out but signs
that end statements. -/
theorem stepwise_tokens : Stepwise fun ts trees rest => ∃ used,
    ts.map Token.settled = used ++ rest.map Token.settled ∧
      ((Tree.tokensAll trees).map Token.settled).Sublist used ∧
      withoutSigns ((Tree.tokensAll trees).map Token.settled) = withoutSigns used where
  nothing ts := ⟨[], rfl, .slnil, rfl⟩
  settles ts := ⟨[], (map_settled_settle ts).symm, .slnil, rfl⟩
  token {c t} ts hc := ⟨[t.settled], rfl, .refl _, rfl⟩
  sign {t} ts hsign := by
    have hsettled : isTerminatorSign t.settled = true := hsign
    exact ⟨[t.settled], rfl, List.nil_sublist _, by simp [withoutSigns, Tree.tokensAll, hsettled]⟩
  append := by
    rintro ts us vs xs ys ⟨used, hts, hxs, hall⟩ ⟨used', hus, hys, hall'⟩
    refine ⟨used ++ used', by rw [hts, hus, List.append_assoc], ?_, ?_⟩
    · rw [tokensAll_append, List.map_append]
      exact hxs.append hys
    · rw [tokensAll_append, List.map_append, withoutSigns_append, withoutSigns_append, hall, hall']
  node {depth s ts xs rest} _ := by
    rintro ⟨used, hts, hxs, hall⟩
    exact ⟨used, hts, by rwa [tokensAll_singleton], by rwa [tokensAll_singleton]⟩

section

variable {text : List Char} {tree : SyntaxTree} (h : parse text = .ok tree)

include h

/-- The tokens of the tree of a source are tokens of the source, in their order. -/
theorem tokens_sublist : (tree.tokens.map Token.settled).Sublist ((lex text).map Token.settled) := by
  obtain ⟨used, htokens, hsub, -⟩ := stepwise_tokens.file (readFile_of_parse h)
  rw [List.map_nil, List.append_nil] at htokens
  rwa [htokens, ← tokensAll_singleton]

/-- All tokens of a source are in its tree but for signs that end statements. -/
theorem withoutSigns_tokens :
    (withoutSigns tree.tokens).map Token.settled = (withoutSigns (lex text)).map Token.settled := by
  obtain ⟨used, htokens, -, hall⟩ := stepwise_tokens.file (readFile_of_parse h)
  rw [List.map_nil, List.append_nil] at htokens
  rwa [tokensAll_singleton, ← htokens, withoutSigns_map_settled, withoutSigns_map_settled] at hall

/-- The tokens of a tree stand in the text where their places tell. -/
theorem standsAt_tokens : ∀ t ∈ tree.tokens, StandsAt text t.text t.position := by
  intro t ht
  obtain ⟨u, hu, hsame⟩ := List.mem_map.1 ((tokens_sublist h).subset (List.mem_map_of_mem ht))
  have htext : u.settled.text = t.settled.text := congrArg Token.text hsame
  have hposition : u.settled.position = t.settled.position := congrArg Token.position hsame
  have hstands := standsAt_lex text u hu
  rwa [show u.text = t.text from htext, show u.position = t.position from hposition] at hstands

/-- The tokens of a tree stand one behind the other. -/
theorem pairwise_tokens : tree.tokens.Pairwise fun t u => t.position.Before u.position := by
  have hplaces := (tokens_sublist h).map Token.position
  rw [List.map_map, List.map_map] at hplaces
  have hlex : ((lex text).map (Token.position ∘ Token.settled)).Pairwise Position.Before :=
    List.pairwise_map.2 (pairwise_lex text)
  exact List.pairwise_map.1 (hlex.sublist hplaces)

end

end TagSpec.Source
