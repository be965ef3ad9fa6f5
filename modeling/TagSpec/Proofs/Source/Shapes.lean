import TagSpec.Proofs.Source.Nodes

/-!
# Shapes of trees

The trees that a rule can give, told by the rule alone. From them follow the shapes of the nodes in
which structs and their fields are declared.
-/

namespace TagSpec.Source

/-! ## Trees that a rule makes -/

/-- Trees of the form that a rule gives. -/
def Rule.Makes : Rule Symbol → List SyntaxTree → Prop
  | .empty, ts => ts = []
  | .token c, ts => ∃ t, c.accepts t = true ∧ ts = [.leaf t]
  | .joined, ts => ts = []
  | .terminator _, ts => ts = []
  | .seq a b, ts => ∃ xs ys, a.Makes xs ∧ b.Makes ys ∧ ts = xs ++ ys
  | .alt a b, ts => a.Makes ts ∨ b.Makes ts
  | .opt a, ts => ts = [] ∨ a.Makes ts
  | .many a, ts => ∃ parts : List (List SyntaxTree), (∀ p ∈ parts, a.Makes p) ∧ ts = parts.flatten
  | .ahead _, ts => ts = []
  | .ref s, ts => ∃ children, ts = [.node s children]

theorem makes_readMany {a : Rule Symbol} {read : Reader Symbol}
    (h : ∀ ts trees rest, read ts = some (trees, rest) → a.Makes trees) (limit : Nat)
    (ts : List Token) : (Rule.many a).Makes (readMany read limit ts).1 := by
  induction limit generalizing ts with
  | zero => exact ⟨[], nofun, rfl⟩
  | succ limit ih =>
    rw [readMany]
    cases hread : read ts with
    | none => exact ⟨[], nofun, rfl⟩
    | some r =>
      obtain ⟨trees, rest⟩ := r
      obtain ⟨parts, hparts, hflat⟩ := ih rest
      refine ⟨trees :: parts, List.forall_mem_cons.2 ⟨h ts trees rest hread, hparts⟩, ?_⟩
      rw [List.flatten_cons, ← hflat]

/-- What a rule reads is of its form, if each symbol is read as one node. -/
theorem makes_of_call {call : Symbol → Reader Symbol}
    (hcall : ∀ s ts trees rest, call s ts = some (trees, rest) → ∃ children, trees = [.node s children])
    (r : Rule Symbol) : ∀ ts trees rest, r.read call ts = some (trees, rest) → r.Makes trees := by
  induction r with
  | empty =>
    intro ts trees rest h
    cases h
    rfl
  | token c =>
    intro ts trees rest h
    obtain ⟨t, -, rfl, hc⟩ := readToken_eq_some h
    exact ⟨t, hc, rfl⟩
  | joined =>
    intro ts trees rest h
    cases h
    rfl
  | terminator lenient =>
    intro ts trees rest h
    cases ts with
    | nil => cases h
    | cons t ts =>
      rw [Rule.read_terminator, readTerminator] at h
      repeat' split at h
      all_goals cases h
      all_goals rfl
  | seq a b iha ihb =>
    intro ts trees rest h
    rw [Rule.read_seq] at h
    split at h
    · cases h
    next xs us ha =>
    split at h
    · cases h
    next ys vs hb =>
    cases h
    exact ⟨xs, ys, iha ts xs us ha, ihb us ys rest hb, rfl⟩
  | alt a b iha ihb =>
    intro ts trees rest h
    rw [Rule.read_alt] at h
    split at h
    · exact .inr (ihb ts trees rest h)
    · next ha =>
      cases h
      exact .inl (iha ts trees rest ha)
  | opt a ih =>
    intro ts trees rest h
    rw [Rule.read_opt] at h
    split at h
    · cases h
      exact .inl rfl
    · next ha =>
      cases h
      exact .inr (ih ts trees rest ha)
  | many a ih =>
    intro ts trees rest h
    rw [Rule.read_many, Option.some.injEq] at h
    have hmany := makes_readMany ih (ts.length + 1) ts
    rwa [h] at hmany
  | ahead a _ =>
    intro ts trees rest h
    rw [Rule.read_ahead] at h
    split at h <;> cases h
    rfl
  | ref s => exact hcall s

/-- What is read by a rule is of the form that it gives. -/
theorem makes_of_read {depth : Nat} {r : Rule Symbol} {ts rest : List Token}
    {trees : List SyntaxTree} (h : r.read (readSymbol Grammar.rule depth) ts = some (trees, rest)) :
    r.Makes trees := by
  refine makes_of_call (fun s us xs vs hread => ?_) r ts trees rest h
  cases depth with
  | zero => cases hread
  | succ depth =>
    rw [readSymbol] at hread
    split at hread
    · cases hread
    · cases hread
      exact ⟨_, rfl⟩

/-! ## Formed trees -/

/-- The children of every node are of the form that the rule of its symbol gives. -/
def Formed (ts : List SyntaxTree) : Prop :=
  ∀ s, ∀ children ∈ Tree.selectAll s ts, (Grammar.rule s).Makes children

theorem formed_append {ts us : List SyntaxTree} : Formed (ts ++ us) ↔ Formed ts ∧ Formed us := by
  simp only [Formed, selectAll_append, List.mem_append, or_imp, forall_and]

theorem formed_cons {t : SyntaxTree} {ts : List SyntaxTree} :
    Formed (t :: ts) ↔ Formed [t] ∧ Formed ts := by
  rw [← List.singleton_append, formed_append]

theorem Formed.mem {ts : List SyntaxTree} (h : Formed ts) {t : SyntaxTree} (ht : t ∈ ts) :
    Formed [t] := by
  obtain ⟨front, back, rfl⟩ := List.append_of_mem ht
  exact (formed_cons.1 (formed_append.1 h).2).1

/-- A node is formed if its children are of the form of its rule and formed themselves. -/
theorem formed_node {s : Symbol} {children : List SyntaxTree} :
    Formed [.node s children] ↔ (Grammar.rule s).Makes children ∧ Formed children := by
  constructor
  · intro h
    constructor
    · exact h s children (by simp [Tree.selectAll, Tree.select])
    · intro r cs hcs
      refine h r cs ?_
      rw [Tree.selectAll, Tree.selectAll, List.append_nil, Tree.select]
      exact List.mem_append_right _ hcs
  · rintro ⟨hmakes, hformed⟩ r cs hcs
    rw [Tree.selectAll, Tree.selectAll, List.append_nil, Tree.select] at hcs
    rcases List.mem_append.1 hcs with hself | hinside
    · split at hself
      · next heq =>
        obtain rfl := List.mem_singleton.1 hself
        exact heq ▸ hmakes
      · cases hself
    · exact hformed r cs hinside

/-- The tree of a source is that of a file. -/
theorem exists_file_of_parse {text : List Char} {tree : SyntaxTree} (h : parse text = .ok tree) :
    ∃ parts, tree = .node .file parts := by
  have hread := readFile_of_parse h
  unfold readFile at hread
  split at hread
  · next hfile =>
    cases hread
    obtain ⟨parts, hparts⟩ := makes_of_read (r := .ref .file) hfile
    exact ⟨parts, List.singleton_inj.1 hparts⟩
  · cases hread

/-- The tree of a source is formed. -/
theorem formed_of_parse {text : List Char} {tree : SyntaxTree} (h : parse text = .ok tree) :
    Formed [tree] := by
  have hkept : KeptSettled fun _ => True := fun _ _ => trivial
  obtain ⟨-, hderived⟩ := derived_of_readFile hkept (readFile_of_parse h) fun _ _ => trivial
  intro s children hmem
  obtain ⟨depth, ts, rest, -, hread⟩ := hderived s children hmem
  exact makes_of_read hread

end TagSpec.Source
