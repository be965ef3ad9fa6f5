import TagSpec.Proofs.Source.Finding
import TagSpec.Proofs.Source.Shapes

/-!
# Declared structs and fields

The trees by which a source declares structs and fields, told by their form: `IsStruct` and `IsField`.
What is read off such trees is what they say, and no struct is read off another tree that the grammar
gives: `fieldDeclaration?_of_isField` and `structDeclaration?_eq_some_iff`.
-/

namespace TagSpec.Source

/-! ## Forms -/

/-- The trees of tokens. -/
def leaves (ts : List Token) : List SyntaxTree := ts.map .leaf

/-- A tree that declares fields of a struct, with their names and with the literal of their tag if there
is one: names in front of a type, or a type that is embedded. Such a type has an identifier of its own,
and perhaps a star, the name of a package or type arguments around it. -/
inductive IsField : SyntaxTree → List Token → Option Token → Prop
  | named {name : Token} {more : List (Token × Token)} {type : List SyntaxTree} {tag : Option Token} :
      name.kind = .name →
      (∀ p ∈ more, (Terminal.sign ",").accepts p.1 = true ∧ p.2.kind = .name) →
      (∀ t ∈ tag, t.kind = .string) →
      IsField (.node .namedField (leaves (name :: more.flatMap fun p => [p.1, p.2]) ++
        .node .type type :: leaves tag.toList)) (name :: more.map Prod.snd) tag
  | embedded {star : Option Token} {package : Option (Token × Token)} {name : Token}
      {arguments : List SyntaxTree} {tag : Option Token} :
      (∀ t ∈ star, (Terminal.sign "*").accepts t = true) →
      (∀ p ∈ package, p.1.kind = .name ∧ (Terminal.sign ".").accepts p.2 = true) →
      name.kind = .name → (arguments = [] ∨ ∃ as, arguments = [.node .typeArguments as]) →
      (∀ t ∈ tag, t.kind = .string) →
      IsField (.node .embeddedField (leaves star.toList ++
        .node .typeName (leaves (package.toList.flatMap (fun p => [p.1, p.2]) ++ [name]) ++ arguments) ::
          leaves tag.toList)) [name] tag

/-- A member of a struct type: the tree that declares fields, their names, and the literal of their tag
if there is one. -/
structure Member where
  tree : SyntaxTree
  names : List Token
  tag : Option Token
  isField : IsField tree names tag

/-- The children of a type spec that declares a struct: the name of the struct, type parameters or
none, and a struct type with its members. -/
inductive IsStruct : List SyntaxTree → Token → List Member → Prop
  | intro {name keyword opening closing : Token} {parameters : List SyntaxTree}
      {members : List Member} :
      name.kind = .name → (parameters = [] ∨ ∃ ps, parameters = [.node .typeParameters ps]) →
      (Terminal.word "struct").accepts keyword = true → (Terminal.sign "\x7b").accepts opening = true →
      (Terminal.sign "\x7d").accepts closing = true →
      IsStruct (.leaf name :: (parameters ++ [.node .type [.node .structType
        (leaves [keyword, opening] ++ (members.map Member.tree ++ leaves [closing]))]])) name members

/-! ## Trees that rules make -/

theorem exists_map_of_forall {α β : Type} {P : α → Prop} {f : α → β} {bs : List β}
    (h : ∀ b ∈ bs, ∃ a, P a ∧ b = f a) : ∃ as : List α, (∀ a ∈ as, P a) ∧ bs = as.map f := by
  induction bs with
  | nil => exact ⟨[], nofun, rfl⟩
  | cons b bs ih =>
    rw [List.forall_mem_cons] at h
    obtain ⟨⟨a, ha, rfl⟩, hbs⟩ := h
    obtain ⟨as, has, rfl⟩ := ih hbs
    exact ⟨a :: as, List.forall_mem_cons.2 ⟨ha, has⟩, rfl⟩

theorem accepts_name {t : Token} : Terminal.name.accepts t = true ↔ t.kind = .name := by
  simp [Terminal.accepts]

/-- Names are one name, and others with commas in front. -/
theorem makes_names {ts : List SyntaxTree} (h : Grammar.names.Makes ts) :
    ∃ (name : Token) (more : List (Token × Token)), name.kind = .name ∧
      (∀ p ∈ more, (Terminal.sign ",").accepts p.1 = true ∧ p.2.kind = .name) ∧
      ts = leaves (name :: more.flatMap fun p => [p.1, p.2]) := by
  obtain ⟨_, _, ⟨name, hname, rfl⟩, ⟨parts, hparts, rfl⟩, rfl⟩ := h
  have hpairs : ∀ part ∈ parts, ∃ p : Token × Token,
      ((Terminal.sign ",").accepts p.1 = true ∧ p.2.kind = .name) ∧ part = leaves [p.1, p.2] := by
    intro part hpart
    obtain ⟨_, _, ⟨comma, hcomma, rfl⟩, ⟨n, hn, rfl⟩, rfl⟩ := hparts part hpart
    exact ⟨(comma, n), ⟨hcomma, accepts_name.1 hn⟩, rfl⟩
  obtain ⟨more, hmore, rfl⟩ := exists_map_of_forall hpairs
  refine ⟨name, more, accepts_name.1 hname, hmore, ?_⟩
  rw [← List.flatMap_def, leaves, List.map_cons, List.map_flatMap]
  rfl

/-- Members between two signs. -/
theorem makes_members {opening closing : String} {r : Rule Symbol} {P : SyntaxTree → Prop}
    (hr : ∀ ts, r.Makes ts → ∃ t, P t ∧ ts = [t]) {ts : List SyntaxTree}
    (h : (Rule.members opening closing r).Makes ts) :
    ∃ (first last : Token) (members : List SyntaxTree),
      (Terminal.sign opening).accepts first = true ∧ (Terminal.sign closing).accepts last = true ∧
      (∀ m ∈ members, P m) ∧ ts = .leaf first :: (members ++ [.leaf last]) := by
  obtain ⟨_, _, ⟨first, hfirst, rfl⟩, ⟨body, _, hbody, ⟨last, hlast, rfl⟩, rfl⟩, rfl⟩ := h
  refine ⟨first, last, body, hfirst, hlast, ?_, rfl⟩
  rcases hbody with rfl | ⟨_, _, hm, ⟨_, _, ⟨parts, hparts, rfl⟩, hend, rfl⟩, rfl⟩
  · nofun
  · obtain ⟨m, hPm, rfl⟩ := hr _ hm
    have hnone : ∀ us, (Rule.opt (.terminator false)).Makes us → us = [] := by
      rintro us (rfl | rfl) <;> rfl
    rw [hnone _ hend]
    have hsingles : ∀ part ∈ parts, ∃ t, P t ∧ part = [t] := by
      intro part hpart
      obtain ⟨_, _, rfl, hmember, rfl⟩ := hparts part hpart
      exact hr _ hmember
    obtain ⟨more, hmore, rfl⟩ := exists_map_of_forall hsingles
    rw [← List.flatMap_def, List.flatMap_singleton', List.append_nil]
    exact List.forall_mem_cons.2 ⟨hPm, hmore⟩

theorem makes_optToken {c : Terminal} {ts : List SyntaxTree} (h : (Rule.opt (.token c)).Makes ts) :
    ∃ t : Option Token, (∀ u ∈ t, c.accepts u = true) ∧ ts = leaves t.toList := by
  rcases h with rfl | ⟨t, ht, rfl⟩
  · exact ⟨none, nofun, rfl⟩
  · exact ⟨some t, fun u hu => Option.mem_some.1 hu ▸ ht, rfl⟩

theorem makes_optNode {s : Symbol} {ts : List SyntaxTree} (h : (Rule.opt (.ref s)).Makes ts) :
    ts = [] ∨ ∃ children, ts = [.node s children] := h

/-- The children of a type name are its own identifier with the name of a package before it or none, and
with type arguments behind it or none. -/
theorem makes_typeName {ts : List SyntaxTree} (h : (Grammar.rule .typeName).Makes ts) :
    ∃ (package : Option (Token × Token)) (name : Token) (arguments : List SyntaxTree),
      (∀ p ∈ package, p.1.kind = .name ∧ (Terminal.sign ".").accepts p.2 = true) ∧
      name.kind = .name ∧ (arguments = [] ∨ ∃ as, arguments = [.node .typeArguments as]) ∧
      ts = leaves (package.toList.flatMap (fun p => [p.1, p.2]) ++ [name]) ++ arguments := by
  obtain ⟨_, _, ⟨first, hfirst, rfl⟩, ⟨_, arguments, hmore, harguments, rfl⟩, rfl⟩ := h
  rcases hmore with rfl | ⟨_, _, ⟨dot, hdot, rfl⟩, ⟨name, hname, rfl⟩, rfl⟩
  · refine ⟨none, first, arguments, ?_, accepts_name.1 hfirst, makes_optNode harguments, rfl⟩
    rintro _ ⟨⟩
  · refine ⟨some (first, dot), name, arguments, ?_, accepts_name.1 hname, makes_optNode harguments,
      rfl⟩
    rintro _ ⟨⟩
    exact ⟨accepts_name.1 hfirst, hdot⟩

/-! ## Fields -/

/-- What may stand in a struct type as a member. -/
def IsMember (t : SyntaxTree) : Prop :=
  ∃ children, t = .node .namedField children ∨ t = .node .embeddedField children

theorem accepts_string {t : Token} : Terminal.string.accepts t = true ↔ t.kind = .string := by
  simp [Terminal.accepts]

/-- A member of a struct type declares fields. -/
theorem exists_isField {t : SyntaxTree} (h : Formed [t]) (ht : IsMember t) :
    ∃ names tag, IsField t names tag := by
  obtain ⟨children, rfl | rfl⟩ := ht
  · obtain ⟨_, _, hnames, ⟨_, _, ⟨type, rfl⟩, hlast, rfl⟩, rfl⟩ := (formed_node.1 h).1
    obtain ⟨name, more, hname, hmore, rfl⟩ := makes_names hnames
    obtain ⟨tag, htag, rfl⟩ := makes_optToken hlast
    exact ⟨_, _, .named hname hmore fun t ht => accepts_string.1 (htag t ht)⟩
  · obtain ⟨hmakes, hinside⟩ := formed_node.1 h
    obtain ⟨_, _, hfirst, ⟨_, _, ⟨typeName, rfl⟩, ⟨_, _, hlast, rfl, rfl⟩, rfl⟩, rfl⟩ := hmakes
    obtain ⟨star, hstar, rfl⟩ := makes_optToken hfirst
    obtain ⟨tag, htag, rfl⟩ := makes_optToken hlast
    rw [List.append_nil] at hinside ⊢
    have htypeName := (formed_node.1 (formed_cons.1 (formed_append.1 hinside).2).1).1
    obtain ⟨package, name, arguments, hpackage, hname, harguments, rfl⟩ := makes_typeName htypeName
    exact ⟨_, _, .embedded hstar hpackage hname harguments fun t ht => accepts_string.1 (htag t ht)⟩

theorem tokensOf_append (kind : TokenKind) (ts us : List SyntaxTree) :
    tokensOf kind (ts ++ us) = tokensOf kind ts ++ tokensOf kind us := List.filterMap_append

theorem tokensOf_leaves (kind : TokenKind) (ts : List Token) :
    tokensOf kind (leaves ts) = ts.filter fun t => t.kind = kind := by
  induction ts with
  | nil => rfl
  | cons t ts ih =>
    by_cases h : t.kind = kind <;> simp_all [tokensOf, leaves, Tree.token?, Option.filter]

theorem tokensOf_node (kind : TokenKind) (s : Symbol) (children ts : List SyntaxTree) :
    tokensOf kind (.node s children :: ts) = tokensOf kind ts := rfl

theorem kind_of_accepts_sign {s : String} {t : Token} (h : (Terminal.sign s).accepts t = true) :
    t.kind = .sign := by
  simp only [Terminal.accepts, Bool.and_eq_true, decide_eq_true_eq] at h
  exact h.1

/-- Of the tokens of a list with signs in between, those that are names. -/
theorem filter_names {more : List (Token × Token)}
    (h : ∀ p ∈ more, (Terminal.sign ",").accepts p.1 = true ∧ p.2.kind = .name) :
    (more.flatMap fun p => [p.1, p.2]).filter (fun t => t.kind = .name) = more.map Prod.snd := by
  induction more with
  | nil => rfl
  | cons p more ih =>
    rw [List.forall_mem_cons] at h
    rw [List.flatMap_cons, List.filter_append, ih h.2]
    simp [kind_of_accepts_sign h.1.1, h.1.2]

/-- None of the tokens of such a list is a string. -/
theorem filter_strings {more : List (Token × Token)}
    (h : ∀ p ∈ more, (Terminal.sign ",").accepts p.1 = true ∧ p.2.kind = .name) :
    (more.flatMap fun p => [p.1, p.2]).filter (fun t => t.kind = .string) = [] := by
  rw [List.filter_eq_nil_iff]
  intro t ht
  obtain ⟨p, hp, ht⟩ := List.mem_flatMap.1 ht
  have hsign := kind_of_accepts_sign (h p hp).1
  rcases List.mem_pair.1 ht with rfl | rfl
  · simp [hsign]
  · simp [(h p hp).2]

theorem head?_tag {tag : Option Token} (h : ∀ t ∈ tag, t.kind = .string) :
    (tag.toList.filter fun t => t.kind = .string).head? = tag := by
  cases tag with
  | none => rfl
  | some t => simp [h t rfl]

theorem filter_tag {tag : Option Token} (h : ∀ t ∈ tag, t.kind = .string) :
    tag.toList.filter (fun t => t.kind = .name) = [] := by
  cases tag with
  | none => rfl
  | some t => simp [h t rfl]

theorem findSome?_leaves (s : Symbol) (ts : List Token) :
    (leaves ts).findSome? (Tree.children? s) = none := by
  rw [List.findSome?_eq_none_iff]
  intro t ht
  obtain ⟨u, -, rfl⟩ := List.mem_map.1 ht
  rfl

/-- A type is embedded by its own identifier. -/
theorem embeddedName_typeName {package : List Token} {name : Token} {arguments : List SyntaxTree}
    (hname : name.kind = .name)
    (harguments : arguments = [] ∨ ∃ as, arguments = [.node .typeArguments as]) :
    embeddedName (leaves (package ++ [name]) ++ arguments) = name.string := by
  have hnone : tokensOf .name arguments = [] := by
    rcases harguments with rfl | ⟨as, rfl⟩ <;> rfl
  have hlast : [name].filter (fun t => t.kind = .name) = [name] := by simp [hname]
  rw [embeddedName, tokensOf_append, tokensOf_leaves, hnone, List.append_nil, List.filter_append,
    hlast, List.getLast?_append]
  rfl

/-- A member with names declares a field for each name. -/
theorem fieldDeclaration?_named (children : List SyntaxTree) :
    fieldDeclaration? (.node .namedField children) =
      some ⟨(tokensOf .name children).map Token.string, (tokensOf .string children).head?⟩ := rfl

/-- A type that is embedded declares one field, by the name of the type. -/
theorem fieldDeclaration?_embedded (children : List SyntaxTree) :
    fieldDeclaration? (.node .embeddedField children) =
      (children.findSome? (Tree.children? .typeName)).map fun typeName =>
        ⟨[embeddedName typeName], (tokensOf .string children).head?⟩ := rfl

/-- What is read off a member are its names and its tag. -/
theorem fieldDeclaration?_of_isField {t : SyntaxTree} {names : List Token} {tag : Option Token}
    (h : IsField t names tag) : fieldDeclaration? t = some ⟨names.map Token.string, tag⟩ := by
  cases h with
  | @named name more type tag hname hmore htag =>
    have hfirst : ∀ kind, (name :: more.flatMap fun p => [p.1, p.2]).filter (fun t => t.kind = kind) =
        [name].filter (fun t => t.kind = kind) ++
          (more.flatMap fun p => [p.1, p.2]).filter (fun t => t.kind = kind) :=
      fun kind => List.filter_append [name] _
    rw [fieldDeclaration?_named, tokensOf_append, tokensOf_append, tokensOf_node, tokensOf_node]
    simp only [tokensOf_leaves, hfirst, filter_names hmore, filter_strings hmore, filter_tag htag]
    simp [hname, head?_tag htag]
  | @embedded star package name arguments tag hstar hpackage hname harguments htag =>
    have hstarStrings : star.toList.filter (fun t => t.kind = .string) = [] := by
      rw [List.filter_eq_nil_iff]
      intro t ht
      simp [kind_of_accepts_sign (hstar t (Option.mem_toList.1 ht))]
    have htypeName : ∀ (typeName ts : List SyntaxTree),
        (leaves star.toList ++ .node .typeName typeName :: ts).findSome? (Tree.children? .typeName) =
          some typeName := by
      intro typeName ts
      rw [List.findSome?_append, findSome?_leaves, Option.none_or]
      rfl
    rw [fieldDeclaration?_embedded, htypeName, Option.map_some,
      embeddedName_typeName hname harguments, tokensOf_append, tokensOf_leaves, hstarStrings,
      tokensOf_node, tokensOf_leaves, List.nil_append, head?_tag htag]
    rfl

/-- The fields of a member as they are read off it. -/
def Member.declaration (m : Member) : FieldDeclaration := ⟨m.names.map Token.string, m.tag⟩

/-- Every member declares its fields. -/
theorem fieldDeclarations_members (members : List Member) :
    (members.map Member.tree).filterMap fieldDeclaration? = members.map Member.declaration := by
  rw [List.filterMap_map, ← List.filterMap_eq_map]
  exact List.filterMap_congr fun m _ => fieldDeclaration?_of_isField m.isField

/-- What stands in a struct type is a list of members. -/
theorem exists_members {ts : List SyntaxTree} (h : Formed ts) (hts : ∀ t ∈ ts, IsMember t) :
    ∃ members : List Member, ts = members.map Member.tree := by
  have hmember : ∀ t ∈ ts, ∃ m : Member, True ∧ t = m.tree := by
    intro t ht
    obtain ⟨names, tag, hfield⟩ := exists_isField (h.mem ht) (hts t ht)
    exact ⟨⟨t, names, tag, hfield⟩, trivial, rfl⟩
  obtain ⟨members, -, rfl⟩ := exists_map_of_forall hmember
  exact ⟨members, rfl⟩

/-! ## Structs -/

theorem filterMap_leaves (ts : List Token) : (leaves ts).filterMap fieldDeclaration? = [] := by
  rw [List.filterMap_eq_nil_iff]
  intro t ht
  obtain ⟨u, -, rfl⟩ := List.mem_map.1 ht
  rfl

/-- A struct type is read off with its name and its members. -/
theorem structDeclaration?_of_isStruct {spec : List SyntaxTree} {name : Token}
    {members : List Member} (h : IsStruct spec name members) :
    structDeclaration? spec = some ⟨name, members.map Member.declaration⟩ := by
  cases h with
  | @intro name keyword opening closing parameters members hname hparameters =>
    have hbody : (leaves [keyword, opening] ++ (members.map Member.tree ++ leaves [closing])).filterMap
        fieldDeclaration? = members.map Member.declaration := by
      rw [List.filterMap_append, List.filterMap_append, filterMap_leaves, filterMap_leaves,
        List.nil_append, List.append_nil, fieldDeclarations_members]
    rw [← hbody]
    rcases hparameters with rfl | ⟨ps, rfl⟩
    · simp [structDeclaration?, tokensOf, Tree.token?, Option.filter, hname, Tree.children?]
    · simp [structDeclaration?, tokensOf, Tree.token?, Option.filter, hname, Tree.children?]

/-- A type spec has a name, type parameters or none, and a type. -/
theorem makes_typeSpec {ts : List SyntaxTree} (h : (Grammar.rule .typeSpec).Makes ts) :
    ∃ (name : Token) (parameters type : List SyntaxTree), name.kind = .name ∧
      (parameters = [] ∨ ∃ ps, parameters = [.node .typeParameters ps]) ∧
      ts = .leaf name :: (parameters ++ [.node .type type]) := by
  rcases h with ⟨_, _, ⟨name, hname, rfl⟩, ⟨_, _, rfl, ⟨type, rfl⟩, rfl⟩, rfl⟩ |
    ⟨_, _, ⟨name, hname, rfl⟩, ⟨_, _, rfl, ⟨_, _, ⟨ps, rfl⟩, ⟨_, _, rfl, ⟨type, rfl⟩, rfl⟩, rfl⟩, rfl⟩,
      rfl⟩
  · exact ⟨name, [], type, accepts_name.1 hname, .inl rfl, rfl⟩
  · exact ⟨name, [.node .typeParameters ps], type, accepts_name.1 hname, .inr ⟨ps, rfl⟩, rfl⟩

/-- A struct type has its keyword, and its members between braces. -/
theorem makes_structType {ts : List SyntaxTree} (h : (Grammar.rule .structType).Makes ts) :
    ∃ (keyword opening closing : Token) (members : List SyntaxTree),
      (Terminal.word "struct").accepts keyword = true ∧
      (Terminal.sign "\x7b").accepts opening = true ∧ (Terminal.sign "\x7d").accepts closing = true ∧
      (∀ m ∈ members, IsMember m) ∧
      ts = leaves [keyword, opening] ++ (members ++ leaves [closing]) := by
  obtain ⟨_, _, ⟨keyword, hkeyword, rfl⟩, hbody, rfl⟩ := h
  have hmember : ∀ us, (Rule.alt (.ref .embeddedField) (.ref .namedField)).Makes us →
      ∃ t, IsMember t ∧ us = [t] := by
    rintro us (⟨children, rfl⟩ | ⟨children, rfl⟩)
    · exact ⟨_, ⟨children, .inr rfl⟩, rfl⟩
    · exact ⟨_, ⟨children, .inl rfl⟩, rfl⟩
  obtain ⟨opening, closing, members, hopening, hclosing, hmembers, rfl⟩ := makes_members hmember hbody
  exact ⟨keyword, opening, closing, members, hkeyword, hopening, hclosing, hmembers, rfl⟩

/-- A struct is read off a type spec exactly if it declares one, with the name and the fields that it
declares. -/
theorem structDeclaration?_eq_some_iff {spec : List SyntaxTree} {d : StructDeclaration}
    (h : Formed [.node .typeSpec spec]) :
    structDeclaration? spec = some d ↔
      ∃ members, IsStruct spec d.name members ∧ d.fields = members.map Member.declaration := by
  constructor
  swap
  · rintro ⟨members, hstruct, hfields⟩
    rw [structDeclaration?_of_isStruct hstruct, ← hfields]
  intro hd
  obtain ⟨hmakes, hformed⟩ := formed_node.1 h
  obtain ⟨name, parameters, type, hname, hparameters, rfl⟩ := makes_typeSpec hmakes
  have hbody : ∃ body, type = [.node .structType body] := by
    have hfirst : (tokensOf .name (.leaf name :: (parameters ++ [.node .type type]))).head? =
        some name := by
      simp [tokensOf, Tree.token?, Option.filter, hname]
    have htype : (.leaf name :: (parameters ++ [.node .type type])).findSome?
        (Tree.children? .type) = some type := by
      rcases hparameters with rfl | ⟨ps, rfl⟩ <;> rfl
    simp only [structDeclaration?, hfirst, htype, Option.bind_eq_bind, Option.bind_some] at hd
    split at hd
    · next t =>
      obtain ⟨body, hbody, -⟩ := Option.bind_eq_some_iff.1 hd
      rw [children?_eq_some_iff.1 hbody]
      exact ⟨body, rfl⟩
    · cases hd
  obtain ⟨body, rfl⟩ := hbody
  rw [← List.cons_append, formed_append, formed_node] at hformed
  obtain ⟨hstructType, hinside⟩ := formed_node.1 hformed.2.2
  obtain ⟨keyword, opening, closing, trees, hkeyword, hopening, hclosing, htrees, rfl⟩ :=
    makes_structType hstructType
  rw [formed_append, formed_append] at hinside
  obtain ⟨members, rfl⟩ := exists_members hinside.2.1 htrees
  have hstruct : IsStruct _ name members :=
    .intro hname hparameters hkeyword hopening hclosing
  rw [structDeclaration?_of_isStruct hstruct] at hd
  cases hd
  exact ⟨members, hstruct, rfl⟩

end TagSpec.Source
