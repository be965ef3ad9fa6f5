import Mathlib.Data.List.Forall2
import TagSpec.Source.Declarations

/-!
# What rules and declarations notice

Of a token a rule looks at its kind and text and whether it is fresh, and at the end of a text at what
it follows. So tokens may be changed in anything else, before reading or after it, and what is declared
in a source is the same but for the places that are told along with it.
-/

namespace TagSpec.Source

/-- A change of tokens that no rule notices. -/
structure Unnoticed (e : Token → Token) : Prop where
  kind : ∀ t, (e t).kind = t.kind
  text : ∀ t, (e t).text = t.text
  fresh : ∀ t, (e t).fresh = t.fresh
  settled : ∀ t, e { t with fresh := false } = { e t with fresh := false }
  afterName : ∀ t, t.kind = .finish → (e t).afterName = t.afterName

mutual

/-- The tree with its tokens changed. -/
def Tree.change (e : Token → Token) : SyntaxTree → SyntaxTree
  | .leaf t => .leaf (e t)
  | .node s children => .node s (Tree.changeAll e children)

def Tree.changeAll (e : Token → Token) : List SyntaxTree → List SyntaxTree
  | [] => []
  | t :: ts => Tree.change e t :: Tree.changeAll e ts

end

theorem changeAll_eq (e : Token → Token) (ts : List SyntaxTree) :
    Tree.changeAll e ts = ts.map (Tree.change e) := by
  induction ts with
  | nil => rfl
  | cons t ts ih => rw [Tree.changeAll, ih, List.map_cons]

theorem change_node (e : Token → Token) (s : Symbol) (children : List SyntaxTree) :
    Tree.change e (.node s children) = .node s (children.map (Tree.change e)) := by
  rw [Tree.change, changeAll_eq]

section

variable {e : Token → Token} (he : Unnoticed e)

include he

/-! ## Reading -/

theorem accepts_change (c : Terminal) (t : Token) : c.accepts (e t) = c.accepts t := by
  cases c <;> simp only [Terminal.accepts, he.kind, he.text]

theorem settle_change (ts : List Token) : settle (ts.map e) = (settle ts).map e := by
  cases ts with
  | nil => rfl
  | cons t ts => rw [List.map_cons, settle, settle, List.map_cons, he.settled]

omit he in
/-- Trees and tokens that are left, changed. -/
def changeResult (e : Token → Token) (r : List SyntaxTree × List Token) :
    List SyntaxTree × List Token :=
  (r.1.map (Tree.change e), r.2.map e)

omit he in
/-- A reader to which the change makes no difference. -/
def Overlooks (e : Token → Token) (read : Reader Symbol) : Prop :=
  ∀ ts, read (ts.map e) = (read ts).map (changeResult e)

theorem readToken_change (c : Terminal) : Overlooks e (readToken c) := by
  intro ts
  cases ts with
  | nil => rfl
  | cons t ts =>
    simp only [List.map_cons, readToken, accepts_change he, he.fresh]
    split <;> rfl

theorem readTerminator_change (lenient : Bool) : Overlooks e (readTerminator lenient) := by
  intro ts
  cases ts with
  | nil => rfl
  | cons t ts =>
    have hend : (lenient && (e t).kind = .finish && !(e t).afterName) =
        (lenient && t.kind = .finish && !t.afterName) := by
      rw [he.kind]
      by_cases hk : t.kind = .finish
      · rw [he.afterName t hk]
      · simp [hk]
    have hsign : isTerminatorSign (e t) = isTerminatorSign t := by
      simp only [isTerminatorSign, he.kind, he.text]
    have hsettle := settle_change he (t :: ts)
    rw [List.map_cons] at hsettle
    simp only [List.map_cons, readTerminator, hend, hsign, he.fresh, hsettle, settle_change he ts]
    split
    · rfl
    split
    · rfl
    · split <;> rfl

omit he in
theorem readMany_change {read : Reader Symbol} (h : Overlooks e read) (limit : Nat)
    (ts : List Token) :
    readMany read limit (ts.map e) = changeResult e (readMany read limit ts) := by
  induction limit generalizing ts with
  | zero => rfl
  | succ limit ih =>
    rw [readMany, readMany, h ts]
    cases read ts with
    | none => rfl
    | some r =>
      obtain ⟨xs, rest⟩ := r
      simp [changeResult, ih]

/-- A rule makes no difference between tokens before and after a change. -/
theorem read_change {call : Symbol → Reader Symbol} (hcall : ∀ s, Overlooks e (call s))
    (r : Rule Symbol) : Overlooks e (r.read call) := by
  induction r with
  | empty => exact fun ts => rfl
  | token c => exact readToken_change he c
  | joined =>
    intro ts
    simp [Rule.read_joined, changeResult, settle_change he]
  | terminator lenient => exact readTerminator_change he lenient
  | seq a b iha ihb =>
    intro ts
    rw [Rule.read_seq, Rule.read_seq, iha ts]
    cases a.read call ts with
    | none => rfl
    | some r =>
      obtain ⟨xs, rest⟩ := r
      simp only [Option.map_some, changeResult, ihb rest]
      cases b.read call rest with
      | none => rfl
      | some r' => simp [changeResult]
  | alt a b iha ihb =>
    intro ts
    rw [Rule.read_alt, Rule.read_alt, iha ts]
    cases a.read call ts with
    | none => exact ihb ts
    | some r => rfl
  | opt a ih =>
    intro ts
    rw [Rule.read_opt, Rule.read_opt, ih ts]
    cases a.read call ts with
    | none => rfl
    | some r => rfl
  | many a ih =>
    intro ts
    rw [Rule.read_many, Rule.read_many, List.length_map, readMany_change ih]
    rfl
  | ahead a ih =>
    intro ts
    rw [Rule.read_ahead, Rule.read_ahead, ih ts]
    cases a.read call ts with
    | none => rfl
    | some r => rfl
  | ref s => exact hcall s

/-- A symbol is read alike before and after a change, which its tree shows. -/
theorem readSymbol_change (depth : Nat) (s : Symbol) :
    Overlooks e (readSymbol Grammar.rule depth s) := by
  induction depth generalizing s with
  | zero => exact fun ts => rfl
  | succ depth ih =>
    intro ts
    rw [readSymbol, readSymbol, read_change he ih (Grammar.rule s) ts]
    cases (Grammar.rule s).read (readSymbol Grammar.rule depth) ts with
    | none => rfl
    | some r => simp [changeResult, change_node]

/-- The tree of changed tokens is the changed tree. -/
theorem readFile_change (ts : List Token) :
    readFile (ts.map e) = (readFile ts).map (Tree.change e) := by
  have hdepth : depthFor (ts.map e) = depthFor ts := by
    simp [depthFor]
  unfold readFile
  rw [hdepth, readSymbol_change he (depthFor ts) .file ts]
  cases readSymbol Grammar.rule (depthFor ts) .file ts with
  | none => rfl
  | some r =>
    obtain ⟨xs, rest⟩ := r
    match xs, rest with
    | [], _ => rfl
    | [x], [] => rfl
    | [x], _ :: _ => rfl
    | _ :: _ :: _, _ => rfl

/-! ## Nodes -/

omit he

mutual

theorem select_change (e : Token → Token) (s : Symbol) (t : SyntaxTree) :
    (t.change e).select s = (t.select s).map (List.map (Tree.change e)) := by
  cases t with
  | leaf t => rfl
  | node r children =>
    rw [change_node, Tree.select, Tree.select, selectAll_change e s children, List.map_append]
    split <;> rfl

/-- The same nodes are found before and after a change. -/
theorem selectAll_change (e : Token → Token) (s : Symbol) (ts : List SyntaxTree) :
    Tree.selectAll s (ts.map (Tree.change e)) =
      (Tree.selectAll s ts).map (List.map (Tree.change e)) := by
  cases ts with
  | nil => rfl
  | cons t ts =>
    rw [List.map_cons, Tree.selectAll, Tree.selectAll, select_change e s t, selectAll_change e s ts,
      List.map_append]

end

theorem token?_change (e : Token → Token) (t : SyntaxTree) : (t.change e).token? = t.token?.map e := by
  cases t <;> rfl

theorem children?_change (e : Token → Token) (s : Symbol) (t : SyntaxTree) :
    (t.change e).children? s = (t.children? s).map (List.map (Tree.change e)) := by
  cases t with
  | leaf t => rfl
  | node r children =>
    rw [change_node, Tree.children?, Tree.children?]
    split <;> rfl

theorem findSome?_children?_change (e : Token → Token) (s : Symbol) (ts : List SyntaxTree) :
    (ts.map (Tree.change e)).findSome? (·.children? s) =
      (ts.findSome? (·.children? s)).map (List.map (Tree.change e)) := by
  induction ts with
  | nil => rfl
  | cons t ts ih =>
    rw [List.map_cons, List.findSome?_cons, List.findSome?_cons, children?_change, ih]
    cases t.children? s <;> rfl

include he

theorem tokensOf_change (kind : TokenKind) (ts : List SyntaxTree) :
    tokensOf kind (ts.map (Tree.change e)) = (tokensOf kind ts).map e := by
  induction ts with
  | nil => rfl
  | cons t ts ih =>
    unfold tokensOf at ih ⊢
    rw [List.map_cons, List.filterMap_cons, List.filterMap_cons, token?_change, ih]
    cases t.token? with
    | none => rfl
    | some u =>
      have hkind := he.kind u
      by_cases hk : u.kind = kind <;> simp [Option.filter, hkind, hk]

theorem string_change (t : Token) : (e t).string = t.string := by
  rw [Token.string, Token.string, he.text]

/-! ## Declarations -/

omit he in
/-- The fields of a declaration with the token of their tag changed. -/
def FieldDeclaration.change (e : Token → Token) (d : FieldDeclaration) : FieldDeclaration :=
  ⟨d.names, d.tag.map e⟩

omit he in
def StructDeclaration.change (e : Token → Token) (d : StructDeclaration) : StructDeclaration :=
  ⟨e d.name, d.fields.map (FieldDeclaration.change e)⟩

theorem embeddedName_change (typeName : List SyntaxTree) :
    embeddedName (typeName.map (Tree.change e)) = embeddedName typeName := by
  rw [embeddedName, embeddedName, tokensOf_change he, List.getLast?_map]
  cases (tokensOf .name typeName).getLast? with
  | none => rfl
  | some t => exact string_change he t

theorem map_string_change (ts : List Token) :
    (ts.map e).map Token.string = ts.map Token.string := by
  rw [List.map_map]
  exact List.map_congr_left fun t _ => string_change he t

theorem fieldDeclaration?_change (t : SyntaxTree) :
    fieldDeclaration? (t.change e) = (fieldDeclaration? t).map (FieldDeclaration.change e) := by
  rw [fieldDeclaration?, fieldDeclaration?, children?_change, children?_change]
  cases t.children? .namedField with
  | some children =>
    simp only [Option.map_some, tokensOf_change he, map_string_change he, List.head?_map]
    rfl
  | none =>
    cases t.children? .embeddedField with
    | none => rfl
    | some children =>
      simp only [Option.map_some, Option.map_none, findSome?_children?_change, tokensOf_change he,
        List.head?_map]
      cases children.findSome? (·.children? .typeName) with
      | none => rfl
      | some typeName => simp [FieldDeclaration.change, embeddedName_change he]

theorem structDeclaration?_change (spec : List SyntaxTree) :
    structDeclaration? (spec.map (Tree.change e)) =
      (structDeclaration? spec).map (StructDeclaration.change e) := by
  unfold structDeclaration?
  rw [tokensOf_change he, findSome?_children?_change, List.head?_map]
  cases (tokensOf .name spec).head? with
  | none => rfl
  | some name =>
    cases spec.findSome? (·.children? .type) with
    | none => rfl
    | some type =>
      match type with
      | [] => rfl
      | _ :: _ :: _ => rfl
      | [t] =>
        simp only [Option.map_some, List.map_cons, List.map_nil, children?_change,
          Option.bind_eq_bind, Option.bind_some]
        cases t.children? .structType with
        | none => rfl
        | some body =>
          simp [StructDeclaration.change, List.filterMap_map, fieldDeclaration?_change he,
            List.map_filterMap]

/-- The same structs are declared before and after a change. -/
theorem structDeclarations_change (tree : SyntaxTree) :
    structDeclarations (tree.change e) =
      (structDeclarations tree).map (StructDeclaration.change e) := by
  rw [structDeclarations, structDeclarations, select_change, List.filterMap_map, List.map_filterMap]
  congr 1
  funext spec
  exact structDeclaration?_change he spec

/-! ## Structs -/

omit he in
/-- The fault without its place. -/
def BadTag.unplaced (b : BadTag) : BadTag := { b with position := Position.start }

omit he in
/-- A result seen through a function, or the fault without its place. -/
def unplace {α β : Type} (see : α → β) (r : Except BadTag α) : Except BadTag β :=
  (r.map see).mapError BadTag.unplaced

omit he in
theorem unplace_mapM {α β γ : Type} (see : β → γ) (f : α → Except BadTag β) (as : List α) :
    unplace (List.map see) (as.mapM f) = as.mapM fun a => unplace see (f a) := by
  induction as with
  | nil => rfl
  | cons a as ih =>
    rw [List.mapM_cons, List.mapM_cons, ← ih]
    cases f a with
    | error b => rfl
    | ok b => cases as.mapM f <;> rfl

omit he in
/-- The structs that a source declares, or the first tag that cannot be read, without places. -/
def declaredStructs (tree : SyntaxTree) : Except BadTag (List Struct) :=
  unplace (List.map Located.struct) (structs tree)

theorem unplace_fields_change (struct : String) (d : FieldDeclaration) :
    unplace id ((d.change e).fields struct) = unplace id (d.fields struct) := by
  unfold FieldDeclaration.fields
  cases htag : d.tag with
  | none => rw [FieldDeclaration.change, htag]; rfl
  | some t =>
    simp only [FieldDeclaration.change, htag, Option.map_some, string_change he]
    cases Tags.ofLiteral t.string <;> rfl

/-- A struct is read alike before and after a change, but for places. -/
theorem unplace_struct_change (d : StructDeclaration) :
    unplace Located.struct (d.change e).struct = unplace Located.struct d.struct := by
  have hstruct : ∀ d : StructDeclaration, unplace Located.struct d.struct =
      (d.fields.mapM fun f => unplace id (f.fields d.name.string)).map
        fun fss => ⟨d.name.string, fss.flatten⟩ := by
    intro d
    rw [← unplace_mapM, StructDeclaration.struct]
    cases hfields : d.fields.mapM (FieldDeclaration.fields d.name.string) with
    | error b => rfl
    | ok fss => simp [unplace, Except.map, Except.mapError, bind, Except.bind, pure, Except.pure]
  rw [hstruct, hstruct, StructDeclaration.change, string_change he, List.mapM_map]
  simp only [Function.comp_def, unplace_fields_change he]

/-- What is declared is the same but for places. -/
theorem declaredStructs_change (tree : SyntaxTree) :
    declaredStructs (tree.change e) = declaredStructs tree := by
  unfold declaredStructs structs
  rw [structDeclarations_change he, unplace_mapM, unplace_mapM, List.mapM_map]
  simp only [Function.comp_def, unplace_struct_change he]

end

end TagSpec.Source
