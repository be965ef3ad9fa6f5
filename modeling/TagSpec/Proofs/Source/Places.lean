import TagSpec.Proofs.Source.Noticing

/-!
# Places of tokens

No rule looks at the place of a token, so the places can be left out before reading or after it. What
is declared in a source is the same then but for the places that are told along with it.
-/

namespace TagSpec.Source

/-- The token without its place. What it follows is kept at the end of a text only, where rules ask
for it. -/
def Token.bare (t : Token) : Token :=
  { t with position := Position.start, afterName := t.afterName && t.kind = .finish }

/-- No rule notices the places of tokens. -/
theorem unnoticed_bare : Unnoticed Token.bare where
  kind _ := rfl
  text _ := rfl
  fresh _ := rfl
  settled _ := rfl
  afterName t ht := by simp [Token.bare, ht]

mutual

/-- The tree without the places of its tokens. -/
def Tree.bare : SyntaxTree → SyntaxTree
  | .leaf t => .leaf t.bare
  | .node s children => .node s (Tree.bareAll children)

def Tree.bareAll : List SyntaxTree → List SyntaxTree
  | [] => []
  | t :: ts => Tree.bare t :: Tree.bareAll ts

end

mutual

theorem bare_eq_change (t : SyntaxTree) : t.bare = t.change Token.bare := by
  cases t with
  | leaf t => rfl
  | node s children => rw [Tree.bare, Tree.change, bareAll_eq_changeAll]

theorem bareAll_eq_changeAll (ts : List SyntaxTree) :
    Tree.bareAll ts = Tree.changeAll Token.bare ts := by
  cases ts with
  | nil => rfl
  | cons t ts => rw [Tree.bareAll, Tree.changeAll, bare_eq_change, bareAll_eq_changeAll]

end

/-- The tree of a file without places is the tree of its tokens without places. -/
theorem readFile_bare (ts : List Token) :
    readFile (ts.map Token.bare) = (readFile ts).map Tree.bare := by
  rw [readFile_change unnoticed_bare]
  exact congrArg (Option.map · (readFile ts)) (funext fun t => (bare_eq_change t).symm)

/-! ## Declarations -/

def StructDeclaration.bare (d : StructDeclaration) : StructDeclaration := d.change Token.bare

/-- The same structs are declared wherever the tokens stand. -/
theorem structDeclarations_bare (tree : SyntaxTree) :
    structDeclarations tree.bare = (structDeclarations tree).map StructDeclaration.bare := by
  rw [bare_eq_change]
  exact structDeclarations_change unnoticed_bare tree

/-- The package of a source does not depend on places. -/
theorem packageName?_bare (tree : SyntaxTree) : packageName? tree.bare = packageName? tree := by
  rw [bare_eq_change, packageName?, packageName?, select_change, List.head?_map]
  cases (tree.select .packageClause).head? with
  | none => rfl
  | some clause =>
    simp only [Option.map_some, Option.bind_some, tokensOf_change unnoticed_bare, List.head?_map,
      Option.map_map]
    rfl

theorem unplace_eq_ok_iff {α β : Type} {see : α → β} {r : Except BadTag α} {b : β} :
    unplace see r = .ok b ↔ ∃ a, r = .ok a ∧ see a = b := by
  cases r with
  | error e => exact ⟨nofun, nofun⟩
  | ok a => simp [unplace, Except.map, Except.mapError]

/-- The structs of a source do not depend on places, if all its tags can be read. -/
theorem exists_structs_of_bare {tree : SyntaxTree} {ls : List Located}
    (h : structs tree.bare = .ok ls) :
    ∃ ls', structs tree = .ok ls' ∧ ls'.map Located.struct = ls.map Located.struct := by
  have hsame := declaredStructs_change unnoticed_bare tree
  rw [← bare_eq_change, declaredStructs, unplace_eq_ok_iff.2 ⟨ls, h, rfl⟩] at hsame
  exact unplace_eq_ok_iff.1 hsame.symm

end TagSpec.Source
