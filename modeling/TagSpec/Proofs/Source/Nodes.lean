import TagSpec.Proofs.Source.Declarations
import TagSpec.Source.SyntaxTree

/-!
# What is read

A rule uses up tokens of the kinds that the grammar has, leaves tokens that it was given, and gives
trees in which the children of every node were read by the rule of its symbol.
-/

namespace TagSpec.Source

/-- The children of every node were read by its rule, from tokens that have a property. -/
def Derived (P : Token → Prop) (trees : List SyntaxTree) : Prop :=
  ∀ s, ∀ children ∈ Tree.selectAll s trees, ∃ depth ts rest, (∀ t ∈ ts, P t) ∧
    (Grammar.rule s).read (readSymbol Grammar.rule depth) ts = some (children, rest)

theorem Derived.nil {P : Token → Prop} : Derived P [] := by
  intro s children hmem
  cases hmem

theorem Derived.leaf {P : Token → Prop} (t : Token) : Derived P [.leaf t] := by
  intro s children hmem
  cases hmem

theorem Derived.append {P : Token → Prop} {ts us : List SyntaxTree} (ht : Derived P ts)
    (hu : Derived P us) : Derived P (ts ++ us) := by
  intro s children hmem
  rw [selectAll_append] at hmem
  exact (List.mem_append.1 hmem).elim (ht s children) (hu s children)

/-- Whether the grammar has tokens of a kind. -/
def TokenKind.isSound (kind : TokenKind) : Bool := kind ≠ .stray && kind ≠ .broken

/-- Tokens are used up at the start of a list, and the first of those that are left may no longer be
fresh. -/
def UsesUp (ts rest : List Token) : Prop :=
  ∃ kinds : List TokenKind, (∀ k ∈ kinds, k.isSound = true) ∧
    ts.map Token.kind = kinds ++ rest.map Token.kind

theorem UsesUp.refl (ts : List Token) : UsesUp ts ts := ⟨[], by simp, rfl⟩

theorem UsesUp.trans {ts us vs : List Token} (h : UsesUp ts us) (h' : UsesUp us vs) :
    UsesUp ts vs := by
  obtain ⟨ks, hks, hts⟩ := h
  obtain ⟨ls, hls, hus⟩ := h'
  refine ⟨ks ++ ls, ?_, by rw [hts, hus, List.append_assoc]⟩
  intro k hk
  exact (List.mem_append.1 hk).elim (hks k) (hls k)

theorem map_kind_settle (ts : List Token) : (settle ts).map Token.kind = ts.map Token.kind := by
  cases ts <;> rfl

theorem UsesUp.settle (ts : List Token) : UsesUp ts (settle ts) :=
  ⟨[], by simp, (map_kind_settle ts).symm⟩

/-- No class of tokens has stray characters or what is broken off. -/
theorem isSound_of_accepts {c : Terminal} {t : Token} (h : c.accepts t = true) :
    t.kind.isSound = true := by
  have hkind : t.kind ≠ .stray ∧ t.kind ≠ .broken := by
    constructor <;> intro hk <;> cases c <;> simp [Terminal.accepts, hk] at h
  simp [TokenKind.isSound, hkind]

theorem UsesUp.token {t : Token} (h : t.kind.isSound = true) (ts : List Token) :
    UsesUp (t :: ts) ts :=
  ⟨[t.kind], by simpa using h, rfl⟩

/-- A property that a token keeps where it is no longer fresh. -/
def KeptSettled (P : Token → Prop) : Prop := ∀ t, P t → P { t with fresh := false }

theorem KeptSettled.settle {P : Token → Prop} (hP : KeptSettled P) {ts : List Token}
    (h : ∀ t ∈ ts, P t) : ∀ t ∈ settle ts, P t := by
  cases ts with
  | nil => exact h
  | cons t ts =>
    rw [List.forall_mem_cons] at h
    exact List.forall_mem_cons.2 ⟨hP t h.1, h.2⟩

/-- A token that is read is of the class and stands first. -/
theorem readToken_eq_some {c : Terminal} {ts rest : List Token} {trees : List SyntaxTree}
    (h : readToken c ts = some (trees, rest)) :
    ∃ t, ts = t :: rest ∧ trees = [.leaf t] ∧ c.accepts t = true := by
  cases ts with
  | nil => cases h
  | cons t ts =>
    rw [readToken] at h
    split at h
    · next hc =>
      cases h
      rw [Bool.and_eq_true] at hc
      exact ⟨t, rfl, rfl, hc.1⟩
    · cases h

/-! ## Step by step -/

/-- A relation between the tokens that a reader is given, its trees and the tokens that it leaves,
which holds of what rules do if it holds of each of their steps. -/
structure Stepwise (R : List Token → List SyntaxTree → List Token → Prop) : Prop where
  nothing : ∀ ts, R ts [] ts
  settles : ∀ ts, R ts [] (settle ts)
  token : ∀ {c : Terminal} {t : Token} (ts), c.accepts t = true → R (t :: ts) [.leaf t] ts
  sign : ∀ {t : Token} (ts), isTerminatorSign t = true → R (t :: ts) [] ts
  append : ∀ {ts us vs xs ys}, R ts xs us → R us ys vs → R ts (xs ++ ys) vs
  node : ∀ {depth s ts xs rest},
    (Grammar.rule s).read (readSymbol Grammar.rule depth) ts = some (xs, rest) → R ts xs rest →
      R ts [.node s xs] rest

section

variable {R : List Token → List SyntaxTree → List Token → Prop}

/-- The relation holds of all that a reader does. -/
def Relates (R : List Token → List SyntaxTree → List Token → Prop) (read : Reader Symbol) : Prop :=
  ∀ ts trees rest, read ts = some (trees, rest) → R ts trees rest

namespace Stepwise

variable (hR : Stepwise R)

include hR

theorem readToken (c : Terminal) : Relates R (readToken c) := by
  intro ts trees rest h
  obtain ⟨t, rfl, rfl, hc⟩ := readToken_eq_some h
  exact hR.token rest hc

theorem readTerminator (lenient : Bool) : Relates R (readTerminator lenient) := by
  intro ts trees rest h
  cases ts with
  | nil => cases h
  | cons t ts =>
    rw [Source.readTerminator] at h
    split at h
    · cases h
      exact hR.settles _
    split at h
    · next hsign =>
      cases h
      exact hR.append (hR.sign ts hsign) (hR.settles ts)
    split at h
    · cases h
      exact hR.nothing _
    · cases h

theorem readMany {read : Reader Symbol} (h : Relates R read) (limit : Nat) (ts : List Token) :
    R ts (readMany read limit ts).1 (readMany read limit ts).2 := by
  induction limit generalizing ts with
  | zero => exact hR.nothing ts
  | succ limit ih =>
    rw [Source.readMany]
    cases hread : read ts with
    | none => exact hR.nothing ts
    | some r =>
      obtain ⟨trees, rest⟩ := r
      exact hR.append (h ts trees rest hread) (ih rest)

/-- What holds of each step holds of what a rule reads. -/
theorem rule {call : Symbol → Reader Symbol} (hcall : ∀ s, Relates R (call s)) (r : Rule Symbol) :
    Relates R (r.read call) := by
  induction r with
  | empty =>
    intro ts trees rest h
    cases h
    exact hR.nothing _
  | token c => exact hR.readToken c
  | joined =>
    intro ts trees rest h
    cases h
    exact hR.settles ts
  | terminator lenient => exact hR.readTerminator lenient
  | seq a b iha ihb =>
    intro ts trees rest h
    rw [Rule.read_seq] at h
    split at h
    · cases h
    next xs us ha =>
    split at h
    · cases h
    next ys vs hb =>
    cases h
    exact hR.append (iha ts xs us ha) (ihb us ys rest hb)
  | alt a b iha ihb =>
    intro ts trees rest h
    rw [Rule.read_alt] at h
    split at h
    · exact ihb ts trees rest h
    · next ha =>
      cases h
      exact iha ts trees rest ha
  | opt a ih =>
    intro ts trees rest h
    rw [Rule.read_opt] at h
    split at h
    · cases h
      exact hR.nothing ts
    · next ha =>
      cases h
      exact ih ts trees rest ha
  | many a ih =>
    intro ts trees rest h
    rw [Rule.read_many, Option.some.injEq] at h
    have hmany := hR.readMany ih (ts.length + 1) ts
    rwa [h] at hmany
  | ahead a _ =>
    intro ts trees rest h
    rw [Rule.read_ahead] at h
    split at h <;> cases h
    exact hR.nothing ts
  | ref s => exact hcall s

/-- What holds of each step holds of what a symbol reads. -/
theorem symbol (depth : Nat) (s : Symbol) : Relates R (readSymbol Grammar.rule depth s) := by
  induction depth generalizing s with
  | zero =>
    intro ts trees rest h
    cases h
  | succ depth ih =>
    intro ts trees rest h
    rw [readSymbol] at h
    split at h
    · cases h
    next xs us hread =>
    cases h
    exact hR.node hread (hR.rule ih (Grammar.rule s) ts xs rest hread)

/-- What holds of each step holds of a file, of which no token is left. -/
theorem file {ts : List Token} {tree : SyntaxTree} (h : readFile ts = some tree) :
    R ts [tree] [] := by
  unfold readFile at h
  split at h
  · next hread =>
    cases h
    exact hR.symbol (depthFor ts) .file ts _ [] hread
  · cases h

end Stepwise

end

theorem readFile_of_parse {text : List Char} {tree : SyntaxTree} (h : parse text = .ok tree) :
    readFile (lex text) = some tree := by
  unfold parse at h
  simp only at h
  split at h
  · next hread =>
    cases h
    exact hread
  · cases h

/-! ## Trees of rules -/

section

variable {P : Token → Prop} (hP : KeptSettled P)

include hP

/-- From tokens that have a property, rules leave such tokens and give trees that were read from
them. -/
theorem stepwise_derived : Stepwise fun ts trees rest =>
    (∀ t ∈ ts, P t) → UsesUp ts rest ∧ (∀ t ∈ rest, P t) ∧ Derived P trees where
  nothing ts hts := ⟨.refl ts, hts, .nil⟩
  settles ts hts := ⟨.settle ts, hP.settle hts, .nil⟩
  token ts hc hts :=
    ⟨.token (isSound_of_accepts hc) ts, (List.forall_mem_cons.1 hts).2, .leaf _⟩
  sign ts hsign hts := by
    simp only [isTerminatorSign, Bool.and_eq_true, decide_eq_true_eq] at hsign
    refine ⟨.token ?_ ts, (List.forall_mem_cons.1 hts).2, .nil⟩
    rw [hsign.1]
    rfl
  append ha hb hts := by
    obtain ⟨huses, hus, hxs⟩ := ha hts
    obtain ⟨huses', hvs, hys⟩ := hb hus
    exact ⟨huses.trans huses', hvs, hxs.append hys⟩
  node {depth s ts xs rest} hread h hts := by
    obtain ⟨huses, hrest, hxs⟩ := h hts
    refine ⟨huses, hrest, fun r children hmem => ?_⟩
    rw [Tree.selectAll, Tree.selectAll, List.append_nil, Tree.select] at hmem
    split at hmem
    · next heq =>
      subst heq
      rw [List.singleton_append] at hmem
      rcases List.mem_cons.1 hmem with rfl | hmem
      · exact ⟨depth, ts, rest, hts, hread⟩
      · exact hxs s children hmem
    · exact hxs r children hmem

/-- In a file that can be read all tokens are of kinds that the grammar has, and the children of every
node were read by its rule. -/
theorem derived_of_readFile {ts : List Token} {tree : SyntaxTree} (h : readFile ts = some tree)
    (hts : ∀ t ∈ ts, P t) : (∀ t ∈ ts, t.kind.isSound = true) ∧ Derived P [tree] := by
  obtain ⟨⟨kinds, hkinds, hall⟩, -, hderived⟩ := (stepwise_derived hP).file h hts
  refine ⟨fun t ht => hkinds t.kind ?_, hderived⟩
  rw [List.map_nil, List.append_nil] at hall
  rw [← hall]
  exact List.mem_map_of_mem ht

end

end TagSpec.Source
