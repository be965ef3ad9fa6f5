import TagSpec.Package
import TagSpec.Proofs.Source.Fields

/-!
# Tags that cannot be read

The structs of a source that can be read as a tree are refused exactly if a member of a declared struct
has a tag that cannot be read, and then for the first such member: `structsAt_refused`. Members of struct
types without a name are no members of declared structs, so their tags are never read.
-/

namespace TagSpec.Source

/-! ## Tags of members -/

/-- The tag of a member cannot be read. -/
def Member.HasFault (m : Member) (tag : Token) (fault : TagFault) : Prop :=
  m.tag = some tag ∧ Tags.ofLiteral tag.string = .error fault

/-- A member has no tag, or one that can be read. -/
def Member.IsReadable (m : Member) : Prop := ∀ tag fault, ¬ m.HasFault tag fault

/-- A member has a tag that can be read exactly if it declares fields. -/
theorem Member.isReadable_iff {m : Member} : m.IsReadable ↔ ∃ fields, m.Declares fields := by
  unfold Member.IsReadable Member.HasFault Member.Declares Member.Tagged
  cases m.tag with
  | none => simp
  | some t =>
    cases hread : Tags.ofLiteral t.string with
    | ok tags =>
      refine iff_of_true ?_ ⟨_, tags, hread, rfl⟩
      rintro _ fault ⟨⟨⟩, hfault⟩
      exact nomatch hread.symm.trans hfault
    | error fault =>
      refine iff_of_false (fun h => h t fault ⟨rfl, hread⟩) ?_
      rintro ⟨_, tags, htags, -⟩
      exact nomatch hread.symm.trans htags

/-- What is told of the tag of a member that cannot be read. -/
def Member.badTag (m : Member) (struct : String) (tag : Token) (fault : TagFault) : BadTag :=
  ⟨m.names.map Token.string, struct, fault, tag.position⟩

/-- A member is refused for the fault of its tag, which is told with its names. -/
theorem Member.fields_eq_error_iff {m : Member} {struct : String} {b : BadTag} :
    m.declaration.fields struct = .error b ↔
      ∃ tag fault, m.HasFault tag fault ∧ b = m.badTag struct tag fault := by
  unfold FieldDeclaration.fields Member.HasFault Member.declaration Member.badTag
  cases m.tag with
  | none => simp
  | some t => cases hread : Tags.ofLiteral t.string <;> simp [hread, eq_comm]

/-- A struct can be read exactly if the tags of all its members can. -/
theorem exists_struct_members_iff {name : Token} {members : List Member} :
    (∃ l, StructDeclaration.struct ⟨name, members.map Member.declaration⟩ = .ok l) ↔
      ∀ m ∈ members, m.IsReadable := by
  simp only [struct_members_eq_ok_iff, Member.isReadable_iff, ← exists_forall₂_iff]
  constructor
  · rintro ⟨l, fields, hfields, -⟩
    exact ⟨fields, hfields⟩
  · rintro ⟨fields, hfields⟩
    exact ⟨_, fields, hfields, rfl⟩

/-- A struct is refused for the first of its members whose tag cannot be read. -/
theorem struct_members_eq_error_iff {name : Token} {members : List Member} {b : BadTag} :
    StructDeclaration.struct ⟨name, members.map Member.declaration⟩ = .error b ↔
      ∃ front m back tag fault, members = front ++ m :: back ∧ (∀ m' ∈ front, m'.IsReadable) ∧
        m.HasFault tag fault ∧ b = m.badTag name.string tag fault := by
  simp only [StructDeclaration.struct_eq_map, map_eq_error_iff, List.mapM_map, mapM_eq_error_iff,
    Function.comp_apply, Member.fields_eq_ok_iff, ← Member.isReadable_iff,
    Member.fields_eq_error_iff]
  constructor
  · rintro ⟨front, m, back, hmembers, hfront, tag, fault, hfault, hb⟩
    exact ⟨front, m, back, tag, fault, hmembers, hfront, hfault, hb⟩
  · rintro ⟨front, m, back, tag, fault, hmembers, hfront, hfault, hb⟩
    exact ⟨front, m, back, hmembers, hfront, tag, fault, hfault, hb⟩

/-! ## Tags in a tree -/

theorem mem_tokensAll_iff {u : Token} {ts : List SyntaxTree} :
    u ∈ Tree.tokensAll ts ↔ ∃ t ∈ ts, u ∈ t.tokens := by
  induction ts with
  | nil => simp [Tree.tokensAll]
  | cons t ts ih => simp [Tree.tokensAll, ih]

theorem tokens_at? {tree t : SyntaxTree} {place : List Nat} (hat : tree.at? place = some t) :
    t.tokens ⊆ tree.tokens := by
  refine at?_of_children (P := fun t => t.tokens ⊆ tree.tokens) ?_ (fun _ hu => hu) hat
  intro r children hnode t ht u hu
  exact hnode (mem_tokensAll_iff.2 ⟨t, ht, hu⟩)

theorem tokensAll_leaves (ts : List Token) : Tree.tokensAll (leaves ts) = ts := by
  induction ts with
  | nil => rfl
  | cons t ts ih => exact congrArg (t :: ·) ih

theorem mem_tokens_of_isField {t : SyntaxTree} {names : List Token} {tag : Token}
    (h : IsField t names (some tag)) : tag ∈ t.tokens := by
  cases h with
  | named => simp [Tree.tokens, Tree.tokensAll, tokensAll_append, tokensAll_leaves]
  | embedded => simp [Tree.tokens, Tree.tokensAll, tokensAll_append, tokensAll_leaves]

/-- The tag of a member of a declared struct is a token of the tree. -/
theorem DeclaresStruct.mem_tokens {tree : SyntaxTree} {place : List Nat} {name tag : Token}
    {members : List Member} (h : DeclaresStruct tree place name members) {m : Member}
    (hm : m ∈ members) (htag : m.tag = some tag) : tag ∈ tree.tokens := by
  obtain ⟨spec, hat, hstruct⟩ := h
  refine tokens_at? hat ?_
  have hmember : tag ∈ Tree.tokensAll (members.map Member.tree) :=
    mem_tokensAll_iff.2 ⟨m.tree, List.mem_map_of_mem hm, mem_tokens_of_isField (htag ▸ m.isField)⟩
  cases hstruct with
  | intro => simp [Tree.tokens, Tree.tokensAll, tokensAll_append, hmember]

/-! ## Sources that are refused -/

/-- The first member of a declared struct whose tag cannot be read: in a struct before which only
structs are named whose members all have tags that can be read, the first such member. -/
structure FirstFault (tree : SyntaxTree) (name : Token) (m : Member) (tag : Token)
    (fault : TagFault) : Prop where
  declared : ∃ place front back, DeclaresStruct tree place name (front ++ m :: back) ∧
    ∀ m' ∈ front, m'.IsReadable
  earlier : ∀ place name' members, DeclaresStruct tree place name' members →
    name'.position.Before name.position → ∀ m' ∈ members, m'.IsReadable
  hasFault : m.HasFault tag fault

section Tree

variable {text : List Char} {tree : SyntaxTree} (h : parse text = .ok tree)

include h

theorem mem_structDeclarations_of_declares {place : List Nat} {name : Token} {members : List Member}
    (hdeclares : DeclaresStruct tree place name members) :
    ⟨name, members.map Member.declaration⟩ ∈ structDeclarations tree :=
  (mem_structDeclarations_iff (formed_of_parse h)).2 ⟨place, members, hdeclares, rfl⟩

/-- The structs of a source can be read exactly if all tags in them can. -/
theorem exists_structs_iff :
    (∃ ls, structs tree = .ok ls) ↔
      ∀ place name members, DeclaresStruct tree place name members → ∀ m ∈ members, m.IsReadable := by
  simp only [structs, mapM_eq_ok_iff, exists_forall₂_iff,
    mem_structDeclarations_iff (formed_of_parse h)]
  constructor
  · intro hall place name members hdeclares
    exact exists_struct_members_iff.1 (hall _ ⟨place, members, hdeclares, rfl⟩)
  · rintro hall ⟨name, fields⟩ ⟨place, members, hdeclares, rfl⟩
    exact exists_struct_members_iff.2 (hall place name members hdeclares)

/-- What is reported is the first fault of a tag. -/
theorem exists_firstFault {b : BadTag} (hb : structs tree = .error b) :
    ∃ name m tag fault, FirstFault tree name m tag fault ∧ b = m.badTag name.string tag fault := by
  obtain ⟨earlier, ⟨name, fields⟩, later, hsplit, hearlier, hfails⟩ := mapM_eq_error_iff.1 hb
  have hmem : (⟨name, fields⟩ : StructDeclaration) ∈ structDeclarations tree := by simp [hsplit]
  obtain ⟨place, members, hdeclares, rfl⟩ := (mem_structDeclarations_iff (formed_of_parse h)).1 hmem
  obtain ⟨front, m, back, tag, fault, rfl, hfront, hfault, rfl⟩ :=
    struct_members_eq_error_iff.1 hfails
  refine ⟨name, m, tag, fault, ⟨⟨place, front, back, hdeclares, hfront⟩, ?_, hfault⟩, rfl⟩
  intro place' name' members' hdeclares' hbefore
  -- A struct that is named before is among those that were read before.
  have hordered := pairwise_structDeclarations h
  have hmem' := mem_structDeclarations_of_declares h hdeclares'
  rw [hsplit] at hordered hmem'
  obtain ⟨-, hlater, -⟩ := List.pairwise_append.1 hordered
  rcases List.mem_append.1 hmem' with hmem' | hmem'
  · exact exists_struct_members_iff.1 (hearlier _ hmem')
  rcases List.mem_cons.1 hmem' with hsame | hmem'
  · obtain rfl : name' = name := congrArg StructDeclaration.name hsame
    exact absurd hbefore hbefore.not_before
  · exact absurd hbefore ((List.pairwise_cons.1 hlater).1 _ hmem').not_before

/-- A source is refused exactly if a member of a declared struct has a tag that cannot be read. What is
told then is the first such tag in the order of names and of members: where it stands, the fields and
the struct that carry it, and why it cannot be read. -/
theorem structsAt_refused (path : String) :
    IsTreeOf text tree ∧
    ((∃ e, (Package.structsAt path text).result = .error e) ↔
      ∃ place name members, DeclaresStruct tree place name members ∧
        ∃ m ∈ members, ∃ tag fault, m.HasFault tag fault) ∧
    ∀ e, (Package.structsAt path text).result = .error e →
      ∃ name m tag fault, FirstFault tree name m tag fault ∧ StandsAt text tag.text tag.position ∧
        e = .parse (.inFile path tag.position) (.tag (m.badTag name.string tag fault)) ∧
        e.message = "Parse error at " ++ (path ++ ":" ++ toString tag.position.line ++ ":" ++
          toString tag.position.column) ++ ": " ++ ("parse field '" ++
            ", ".intercalate (m.names.map Token.string) ++ "' of struct '" ++ name.string ++ "': " ++
            fault.message) := by
  have hparse : Package.parseAt path text = .ok tree := mapError_eq_ok_iff.2 h
  have hresult : ∀ e, (Package.structsAt path text).result = .error e ↔
      ∃ b, structs tree = .error b ∧ e = .parse (.inFile path b.position) (.tag b) := by
    intro e
    rw [Package.structsAt, hparse]
    exact mapError_eq_error_iff
  refine ⟨isTreeOf_of_parse h, ?_, ?_⟩
  · have hfails : (∃ e, (Package.structsAt path text).result = .error e) ↔
        ¬ ∃ ls, structs tree = .ok ls := by
      simp only [hresult]
      cases structs tree <;> simp
    rw [hfails, exists_structs_iff h]
    simp only [Member.IsReadable, not_forall, not_not, exists_prop]
  · intro e he
    obtain ⟨b, hb, rfl⟩ := (hresult e).1 he
    obtain ⟨name, m, tag, fault, hfirst, rfl⟩ := exists_firstFault h hb
    obtain ⟨place, front, back, hdeclares, -⟩ := hfirst.declared
    have htag := hdeclares.mem_tokens (List.mem_append_right front List.mem_cons_self)
      hfirst.hasFault.1
    exact ⟨name, m, tag, fault, hfirst, standsAt_tokens h tag htag, rfl, rfl⟩

end Tree

/-- A source with tags that cannot be read: in a struct type inside another, behind an alias, and at two
members of a struct in a function, behind an embedded type with type arguments. -/
def mistagged : String :=
  "package p\n\ntype A struct \x7b\n\tIn struct \x7b Y int `no` \x7d\n\x7d\n" ++
    "type B = struct \x7b Y int `no` \x7d\n\nfunc f() \x7b\n\ttype C struct \x7b\n" ++
      "\t\tBase[int]\n\t\tP, Q int /* ü */ `no`\n\t\tR int `no`\n\t\x7d\n\x7d\n"

theorem structsAt_refused_mistagged :
    ∃ tree, parse mistagged.toList = .ok tree ∧
      (∃ b, structs tree = .error b ∧ b.fields = ["P", "Q"] ∧ b.struct = "C" ∧ b.position = ⟨11, 21⟩) ∧
      IsTreeOf mistagged.toList tree ∧
      ((∃ e, (Package.structsAt "p.go" mistagged.toList).result = .error e) ↔
        ∃ place name members, DeclaresStruct tree place name members ∧
          ∃ m ∈ members, ∃ tag fault, m.HasFault tag fault) ∧
      ∀ e, (Package.structsAt "p.go" mistagged.toList).result = .error e →
        ∃ name m tag fault, FirstFault tree name m tag fault ∧
          StandsAt mistagged.toList tag.text tag.position ∧
          e = .parse (.inFile "p.go" tag.position) (.tag (m.badTag name.string tag fault)) ∧
          e.message = "Parse error at " ++ ("p.go" ++ ":" ++ toString tag.position.line ++ ":" ++
            toString tag.position.column) ++ ": " ++ ("parse field '" ++
              ", ".intercalate (m.names.map Token.string) ++ "' of struct '" ++ name.string ++ "': " ++
              fault.message) := by
  have hread : ((parse mistagged.toList).toOption.bind fun tree =>
      match structs tree with
      | .error b => some (b.fields, b.struct, b.position)
      | .ok _ => none) = some (["P", "Q"], "C", ⟨11, 21⟩) := by decide +kernel
  obtain ⟨tree, htree, hfails⟩ := Option.bind_eq_some_iff.1 hread
  have h := eq_ok_of_toOption htree
  refine ⟨tree, h, ?_, structsAt_refused h "p.go"⟩
  split at hfails
  · next b hb =>
    simp only [Option.some.injEq, Prod.mk.injEq] at hfails
    exact ⟨b, hb, hfails⟩
  · cases hfails

end TagSpec.Source
