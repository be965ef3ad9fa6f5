import TagSpec.Source.Declarations

/-!
# Finding nodes

Where in a tree the nodes of a symbol stand. A place in a tree is a path of numbers of children, and
paths are ordered as lists are, so a node comes before those inside it and before those to its right.
Nodes are selected each once and in this order: `map_snd_selectAt`, `mem_selectAt_iff` and
`pairwise_selectAt`.
-/

namespace TagSpec.Source

variable {s : Symbol}

/-! ## Nodes -/

theorem children?_eq_some_iff {t : SyntaxTree} {ts : List SyntaxTree} :
    t.children? s = some ts ↔ t = .node s ts := by
  cases t with
  | leaf u => simp [Tree.children?]
  | node r us =>
    simp only [Tree.children?]
    split <;> simp_all

theorem mem_selectAll_iff {ts c : List SyntaxTree} :
    c ∈ Tree.selectAll s ts ↔ ∃ t ∈ ts, c ∈ Tree.select s t := by
  induction ts with
  | nil => simp [Tree.selectAll]
  | cons t ts ih => simp [Tree.selectAll, ih]

/-! ## Paths -/

/-- The tree at a path of numbers of children. -/
def Tree.at? : SyntaxTree → List Nat → Option SyntaxTree
  | t, [] => some t
  | .leaf _, _ :: _ => none
  | .node _ children, i :: path => children[i]?.bind fun t => t.at? path

theorem at?_nil (t : SyntaxTree) : t.at? [] = some t := by
  cases t <;> rfl

theorem at?_node_cons (r : Symbol) (children : List SyntaxTree) (i : Nat) (path : List Nat) :
    Tree.at? (.node r children) (i :: path) = children[i]?.bind fun t => t.at? path := rfl

/-- What passes from a node to its children passes from a tree to all that stands in it. -/
theorem at?_of_children {P : SyntaxTree → Prop}
    (hP : ∀ r children, P (.node r children) → ∀ t ∈ children, P t) {tree t : SyntaxTree}
    {path : List Nat} (h : P tree) (hat : tree.at? path = some t) : P t := by
  induction path generalizing tree with
  | nil =>
    rw [at?_nil] at hat
    cases hat
    exact h
  | cons i path ih =>
    cases tree with
    | leaf u => cases hat
    | node r children =>
      rw [at?_node_cons] at hat
      obtain ⟨child, hchild, hat⟩ := Option.bind_eq_some_iff.1 hat
      exact ih (hP r children h child (List.mem_of_getElem? hchild)) hat

/-! ## Selecting with paths -/

mutual

/-- The children of every node of a symbol with the path to it, in the order of paths. -/
def Tree.selectAt (s : Symbol) : SyntaxTree → List (List Nat × List SyntaxTree)
  | .leaf _ => []
  | .node r children =>
    (if r = s then [([], children)] else []) ++ Tree.selectAllAt s 0 children

/-- The same in a list of trees, of which the first has the number given. -/
def Tree.selectAllAt (s : Symbol) : Nat → List SyntaxTree → List (List Nat × List SyntaxTree)
  | _, [] => []
  | i, t :: ts =>
    (Tree.selectAt s t).map (fun node => (i :: node.1, node.2)) ++ Tree.selectAllAt s (i + 1) ts

end

mutual

/-- The same children are found with paths and without. -/
theorem map_snd_selectAt (t : SyntaxTree) : (t.selectAt s).map Prod.snd = t.select s := by
  cases t with
  | leaf t => rfl
  | node r children =>
    rw [Tree.selectAt, Tree.select, List.map_append, map_snd_selectAllAt]
    split <;> rfl

theorem map_snd_selectAllAt (i : Nat) (ts : List SyntaxTree) :
    (Tree.selectAllAt s i ts).map Prod.snd = Tree.selectAll s ts := by
  cases ts with
  | nil => rfl
  | cons t ts =>
    rw [Tree.selectAllAt, Tree.selectAll, List.map_append, List.map_map, map_snd_selectAllAt]
    exact congrArg (· ++ _) (map_snd_selectAt t)

end

mutual

/-- A node is selected exactly with the path at which it stands. -/
theorem mem_selectAt_iff (t : SyntaxTree) {path : List Nat} {children : List SyntaxTree} :
    (path, children) ∈ t.selectAt s ↔ t.at? path = some (.node s children) := by
  cases t with
  | leaf t =>
    rw [Tree.selectAt]
    cases path <;> simp [Tree.at?]
  | node r cs =>
    rw [Tree.selectAt, List.mem_append, mem_selectAllAt_iff]
    cases path with
    | nil =>
      simp only [at?_nil, Option.some.injEq, Tree.node.injEq]
      split <;> simp_all [eq_comm]
    | cons i path =>
      have hself : (i :: path, children) ∉ (if r = s then [([], cs)] else []) := by
        split <;> simp
      simp only [hself, false_or, at?_node_cons, Option.bind_eq_some_iff, Nat.zero_add]
      constructor
      · rintro ⟨j, t, p, hpath, ht, hat⟩
        cases hpath
        exact ⟨t, ht, hat⟩
      · rintro ⟨t, ht, hat⟩
        exact ⟨i, t, path, rfl, ht, hat⟩

/-- The children that are found are those of the nodes of the symbol, each with its path. -/
theorem mem_selectAllAt_iff (i : Nat) (ts : List SyntaxTree) {path : List Nat}
    {children : List SyntaxTree} :
    (path, children) ∈ Tree.selectAllAt s i ts ↔
      ∃ j t p, path = (i + j) :: p ∧ ts[j]? = some t ∧ t.at? p = some (.node s children) := by
  cases ts with
  | nil => simp [Tree.selectAllAt]
  | cons t ts =>
    rw [Tree.selectAllAt, List.mem_append, mem_selectAllAt_iff (i + 1) ts, List.mem_map]
    constructor
    · rintro (⟨⟨p, cs⟩, hnode, hsame⟩ | ⟨j, u, p, rfl, hu, hat⟩)
      · cases hsame
        exact ⟨0, t, p, rfl, rfl, (mem_selectAt_iff t).1 hnode⟩
      · exact ⟨j + 1, u, p, by rw [Nat.add_right_comm, Nat.add_assoc], hu, hat⟩
    · rintro ⟨_ | j, u, p, rfl, hu, hat⟩
      · cases hu
        exact .inl ⟨(p, children), (mem_selectAt_iff t).2 hat, rfl⟩
      · exact .inr ⟨j, u, p, by rw [Nat.add_right_comm, Nat.add_assoc], hu, hat⟩

end

mutual

/-- The paths of selected nodes rise. -/
theorem pairwise_selectAt (t : SyntaxTree) : (t.selectAt s).Pairwise (·.1 < ·.1) := by
  cases t with
  | leaf t => exact .nil
  | node r children =>
    rw [Tree.selectAt, List.pairwise_append]
    refine ⟨by split <;> simp, pairwise_selectAllAt 0 children, ?_⟩
    rintro ⟨p, cs⟩ hself ⟨q, ds⟩ hinside
    obtain ⟨j, t, q, rfl, -, -⟩ := (mem_selectAllAt_iff 0 children).1 hinside
    split at hself
    · cases List.mem_singleton.1 hself
      exact List.nil_lt_cons _ _
    · cases hself

/-- Nodes are found in the order of their paths. -/
theorem pairwise_selectAllAt (i : Nat) (ts : List SyntaxTree) :
    (Tree.selectAllAt s i ts).Pairwise (·.1 < ·.1) := by
  cases ts with
  | nil => exact .nil
  | cons t ts =>
    rw [Tree.selectAllAt, List.pairwise_append, List.pairwise_map]
    refine ⟨(pairwise_selectAt t).imp ?_, pairwise_selectAllAt (i + 1) ts, ?_⟩
    · intro a b hab
      exact List.cons_lt_cons_iff.2 (.inr ⟨rfl, hab⟩)
    · rintro _ hfirst ⟨q, ds⟩ hrest
      obtain ⟨⟨p, cs⟩, -, rfl⟩ := List.mem_map.1 hfirst
      obtain ⟨j, u, q, rfl, -, -⟩ := (mem_selectAllAt_iff (i + 1) ts).1 hrest
      exact List.cons_lt_cons_iff.2 (.inl (by omega))

end

end TagSpec.Source
