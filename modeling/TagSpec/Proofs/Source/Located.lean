import TagSpec.Journal
import TagSpec.Proofs.Outcomes
import TagSpec.Proofs.Source.Declared
import TagSpec.Proofs.Source.Finding
import TagSpec.Proofs.Source.Standing

/-!
# Structs at their places

Which structs are declared in a tree, and where. Every declaration is found once, in the order of the
text and at the place of its name: `structs_located`.
-/

namespace TagSpec.Source

/-! ## Trees of a text -/

/-- A tree by the grammar of a file with all the tokens of a text in their order, but for signs that end
statements. -/
structure IsTreeOf (text : List Char) (tree : SyntaxTree) : Prop where
  file : ∃ parts, tree = .node .file parts
  formed : Formed [tree]
  tokens : (withoutSigns tree.tokens).map Token.settled = (withoutSigns (lex text)).map Token.settled

/-- A tree that is read of a text has all its tokens in their order. -/
theorem isTreeOf_of_parse {text : List Char} {tree : SyntaxTree} (h : parse text = .ok tree) :
    IsTreeOf text tree where
  file := exists_file_of_parse h
  formed := formed_of_parse h
  tokens := withoutSigns_tokens h

/-! ## Declarations in a tree -/

/-- A struct is declared at a place in a tree, with a name and with members. -/
def DeclaresStruct (tree : SyntaxTree) (place : List Nat) (name : Token) (members : List Member) :
    Prop :=
  ∃ spec, tree.at? place = some (.node .typeSpec spec) ∧ IsStruct spec name members

/-- All places in a tree at which a struct is declared, in their order. -/
structure StructPlaces (tree : SyntaxTree) (places : List (List Nat)) : Prop where
  ordered : places.Pairwise (· < ·)
  complete : ∀ place, place ∈ places ↔ ∃ name members, DeclaresStruct tree place name members

theorem formed_at? {tree t : SyntaxTree} {place : List Nat} (h : Formed [tree])
    (hat : tree.at? place = some t) : Formed [t] :=
  at?_of_children (P := fun t => Formed [t]) (fun _ _ hnode _ ht => (formed_node.1 hnode).2.mem ht)
    h hat

/-- The declarations of structs with their places. -/
def declarationsAt (tree : SyntaxTree) : List (List Nat × StructDeclaration) :=
  (tree.selectAt .typeSpec).filterMap fun node => (structDeclaration? node.2).map (node.1, ·)

theorem map_snd_declarationsAt (tree : SyntaxTree) :
    (declarationsAt tree).map Prod.snd = structDeclarations tree := by
  rw [declarationsAt, structDeclarations, ← map_snd_selectAt, List.map_filterMap,
    List.filterMap_map]
  refine List.filterMap_congr fun node _ => ?_
  rw [Option.map_map]
  exact Option.map_id_apply

/-- Declarations are found in the order of their places in the tree. -/
theorem pairwise_declarationsAt (tree : SyntaxTree) :
    (declarationsAt tree).Pairwise (·.1 < ·.1) := by
  rw [declarationsAt, List.pairwise_filterMap]
  refine (pairwise_selectAt tree).imp fun {a b} hab x hx y hy => ?_
  obtain ⟨d, -, rfl⟩ := Option.map_eq_some_iff.1 hx
  obtain ⟨e, -, rfl⟩ := Option.map_eq_some_iff.1 hy
  exact hab

section Formed

variable {tree : SyntaxTree} (h : Formed [tree])

include h

/-- The declarations that are found are those of structs, each at its place in the tree. -/
theorem mem_declarationsAt_iff {place : List Nat} {d : StructDeclaration} :
    (place, d) ∈ declarationsAt tree ↔
      ∃ members, DeclaresStruct tree place d.name members ∧
        d.fields = members.map Member.declaration := by
  simp only [declarationsAt, List.mem_filterMap, Option.map_eq_some_iff, Prod.exists]
  constructor
  · rintro ⟨place, spec, hnode, _, hd, hsame⟩
    cases hsame
    have hat := (mem_selectAt_iff tree).1 hnode
    obtain ⟨members, hstruct, hfields⟩ := (structDeclaration?_eq_some_iff (formed_at? h hat)).1 hd
    exact ⟨members, ⟨spec, hat, hstruct⟩, hfields⟩
  · rintro ⟨members, ⟨spec, hat, hstruct⟩, hfields⟩
    have hd := (structDeclaration?_eq_some_iff (formed_at? h hat)).2 ⟨members, hstruct, hfields⟩
    exact ⟨place, spec, (mem_selectAt_iff tree).2 hat, d, hd, rfl⟩

theorem mem_structDeclarations_iff {d : StructDeclaration} :
    d ∈ structDeclarations tree ↔
      ∃ place members, DeclaresStruct tree place d.name members ∧
        d.fields = members.map Member.declaration := by
  simp only [← map_snd_declarationsAt, List.mem_map, Prod.exists, exists_eq_right,
    mem_declarationsAt_iff h]

/-- What belongs to each of the declarations that are read belongs to the struct at each place. -/
theorem exists_structPlaces {α : Type} {R : StructDeclaration → α → Prop} {as : List α}
    (has : List.Forall₂ R (structDeclarations tree) as) :
    ∃ places, StructPlaces tree places ∧ List.Forall₂ (fun place a => ∃ name members,
      DeclaresStruct tree place name members ∧ R ⟨name, members.map Member.declaration⟩ a)
        places as := by
  refine ⟨(declarationsAt tree).map Prod.fst, ⟨?_, fun place => ?_⟩, ?_⟩
  · exact List.pairwise_map.2 (pairwise_declarationsAt tree)
  · simp only [List.mem_map, Prod.exists, exists_and_right, exists_eq_right,
      mem_declarationsAt_iff h]
    constructor
    · rintro ⟨d, members, hdeclares, -⟩
      exact ⟨d.name, members, hdeclares⟩
    · rintro ⟨name, members, hdeclares⟩
      exact ⟨⟨name, members.map Member.declaration⟩, members, hdeclares, rfl⟩
  · rw [← map_snd_declarationsAt, List.forall₂_map_left_iff] at has
    rw [List.forall₂_map_left_iff]
    have hmem : ∀ node ∈ declarationsAt tree, node ∈ declarationsAt tree := fun _ hnode => hnode
    refine ((List.forall₂_and_left _ _).2 ⟨hmem, has⟩).imp ?_
    rintro ⟨place, name, fields⟩ a ⟨hnode, ha⟩
    obtain ⟨members, hdeclares, rfl⟩ := (mem_declarationsAt_iff h).1 hnode
    exact ⟨name, members, hdeclares, ha⟩

end Formed

/-! ## Names in the order of the text -/

/-- The token with which trees begin. -/
def firstToken? : List SyntaxTree → Option Token
  | .leaf t :: _ => some t
  | _ => none

mutual

/-- The first tokens of nodes come one behind the other in a tree, since no node begins inside
another with the same token. -/
theorem firstTokens_sublist (s : Symbol) (t : SyntaxTree) :
    ((t.select s).filterMap firstToken?).Sublist t.tokens := by
  cases t with
  | leaf u => exact List.nil_sublist _
  | node r children =>
    rw [Tree.select, Tree.tokens, List.filterMap_append]
    match children with
    | [] => split <;> exact .slnil
    | .leaf u :: ts =>
      have hrest := firstTokensAll_sublist s ts
      split
      · exact hrest.cons_cons u
      · exact hrest.cons u
    | .node q us :: ts =>
      have hall := firstTokensAll_sublist s (.node q us :: ts)
      split <;> exact hall

theorem firstTokensAll_sublist (s : Symbol) (ts : List SyntaxTree) :
    ((Tree.selectAll s ts).filterMap firstToken?).Sublist (Tree.tokensAll ts) := by
  cases ts with
  | nil => exact .slnil
  | cons t ts =>
    rw [Tree.selectAll, Tree.tokensAll, List.filterMap_append]
    exact (firstTokens_sublist s t).append (firstTokensAll_sublist s ts)

end

theorem filterMap_sublist_filterMap {α β : Type} {f g : α → Option β} {as : List α}
    (h : ∀ a ∈ as, ∀ b, f a = some b → g a = some b) :
    (as.filterMap f).Sublist (as.filterMap g) := by
  induction as with
  | nil => exact .slnil
  | cons a as ih =>
    obtain ⟨ha, has⟩ := List.forall_mem_cons.1 h
    cases hf : f a with
    | some b =>
      rw [List.filterMap_cons_some hf, List.filterMap_cons_some (ha b hf)]
      exact (ih has).cons_cons b
    | none =>
      rw [List.filterMap_cons_none hf]
      cases hg : g a with
      | some b =>
        rw [List.filterMap_cons_some hg]
        exact (ih has).cons b
      | none =>
        rw [List.filterMap_cons_none hg]
        exact ih has

/-- The names of the structs that are declared in a tree come one behind the other in it. -/
theorem names_sublist {tree : SyntaxTree} (h : Formed [tree]) :
    ((structDeclarations tree).map StructDeclaration.name).Sublist tree.tokens := by
  rw [structDeclarations, List.map_filterMap]
  refine (filterMap_sublist_filterMap ?_).trans (firstTokens_sublist .typeSpec tree)
  intro spec hspec name hname
  obtain ⟨d, hd, rfl⟩ := Option.map_eq_some_iff.1 hname
  rw [← map_snd_selectAt] at hspec
  obtain ⟨⟨place, spec⟩, hnode, rfl⟩ := List.mem_map.1 hspec
  have hformed := formed_at? h ((mem_selectAt_iff tree).1 hnode)
  obtain ⟨members, hstruct, -⟩ := (structDeclaration?_eq_some_iff hformed).1 hd
  cases hstruct
  rfl

/-- Structs are found in the order in which their names stand in the text. -/
theorem pairwise_structDeclarations {text : List Char} {tree : SyntaxTree}
    (h : parse text = .ok tree) :
    (structDeclarations tree).Pairwise fun d e => d.name.position.Before e.name.position := by
  have hnames := (pairwise_tokens h).sublist (names_sublist (formed_of_parse h))
  rwa [List.pairwise_map] at hnames

/-! ## Structs of a source -/

theorem StructDeclaration.struct_eq_map (d : StructDeclaration) :
    d.struct = (d.fields.mapM (FieldDeclaration.fields d.name.string)).map fun fields =>
      ⟨⟨d.name.string, fields.flatten⟩, d.name.position⟩ :=
  bind_pure_comp _ _

/-- A struct is read with the fields of its members and the place of its name. -/
theorem StructDeclaration.struct_eq_ok_iff {d : StructDeclaration} {l : Located} :
    d.struct = .ok l ↔ ∃ fields, d.fields.mapM (FieldDeclaration.fields d.name.string) = .ok fields ∧
      l = ⟨⟨d.name.string, fields.flatten⟩, d.name.position⟩ := by
  rw [StructDeclaration.struct_eq_map, map_eq_ok_iff]

/-- The structs of a source are those that are declared in it at whatever depth, each once, in the
order of the text. The place that is told for one tells where its name stands. -/
theorem structs_located {text : List Char} {tree : SyntaxTree} {ls : List Located}
    (h : parse text = .ok tree) (hls : structs tree = .ok ls) :
    IsTreeOf text tree ∧
      (∃ places, StructPlaces tree places ∧
        List.Forall₂ (fun place l => ∃ name members, DeclaresStruct tree place name members ∧
          l.struct.name = name.string ∧ l.position = name.position ∧
            StandsAt text l.struct.name.toList l.position) places ls) ∧
      ls.Pairwise fun k l => k.position.Before l.position := by
  have htree := isTreeOf_of_parse h
  have hformed := htree.formed
  have hread := mapM_eq_ok_iff.1 hls
  have hnames : ∀ d ∈ structDeclarations tree, d.name ∈ tree.tokens := fun d hd =>
    (names_sublist hformed).subset (List.mem_map_of_mem hd)
  refine ⟨htree, ?_, ?_⟩
  · obtain ⟨places, hplaces, hall⟩ :=
      exists_structPlaces hformed ((List.forall₂_and_left _ _).2 ⟨hnames, hread⟩)
    refine ⟨places, hplaces, hall.imp ?_⟩
    rintro place l ⟨name, members, hdeclares, hname, hstruct⟩
    obtain ⟨fields, -, rfl⟩ := StructDeclaration.struct_eq_ok_iff.1 hstruct
    refine ⟨name, members, hdeclares, rfl, rfl, ?_⟩
    rw [Token.string, String.toList_ofList]
    exact standsAt_tokens h name hname
  · have hpositions : (structDeclarations tree).map (fun d => d.name.position) =
        ls.map Located.position := by
      rw [← List.forall₂_eq_eq_eq, List.forall₂_map_left_iff, List.forall₂_map_right_iff]
      refine hread.imp fun d l hstruct => ?_
      obtain ⟨fields, -, rfl⟩ := StructDeclaration.struct_eq_ok_iff.1 hstruct
      rfl
    have hordered := List.pairwise_map.2 (pairwise_structDeclarations h)
    rw [hpositions] at hordered
    exact List.pairwise_map.1 hordered

/-- A text of whose structs something is computed can be read, and so can its tags. -/
theorem exists_structs_of_read {α : Type} {text : List Char} {f : List Located → α} {a : α}
    (h : ((parse text).toOption.bind fun tree => (structs tree).toOption).map f = some a) :
    ∃ tree ls, parse text = .ok tree ∧ structs tree = .ok ls ∧ f ls = a := by
  obtain ⟨ls, hls, ha⟩ := Option.map_eq_some_iff.1 h
  obtain ⟨tree, htree, hls⟩ := Option.bind_eq_some_iff.1 hls
  exact ⟨tree, ls, eq_ok_of_toOption htree, eq_ok_of_toOption hls, ha⟩

/-- A source with structs in a group, behind a comment and in a function, and with an alias. One of the
structs embeds a type with type arguments in front of a field. -/
def scattered : String :=
  "package p\n\ntype (\n\tA struct\x7b\x7d\n\tB = struct\x7b\x7d\n)\n\n" ++
    "/* ü */ type C struct\x7b\n\tBase[int]\n\tF struct\x7b\x7d\n\x7d\n\n" ++
      "func f() \x7b\n\ttype D[T any] struct\x7b X T \x7d\n\x7d\n"

theorem structs_located_scattered :
    ∃ tree ls, parse scattered.toList = .ok tree ∧ structs tree = .ok ls ∧
      ls.map (fun l => (l.struct.name, l.position)) = [("A", ⟨4, 2⟩), ("C", ⟨8, 15⟩), ("D", ⟨14, 7⟩)] ∧
      IsTreeOf scattered.toList tree ∧
      (∃ places, StructPlaces tree places ∧
        List.Forall₂ (fun place l => ∃ name members, DeclaresStruct tree place name members ∧
          l.struct.name = name.string ∧ l.position = name.position ∧
            StandsAt scattered.toList l.struct.name.toList l.position) places ls) ∧
      ls.Pairwise fun k l => k.position.Before l.position := by
  have hread : ((parse scattered.toList).toOption.bind fun tree => (structs tree).toOption).map
      (List.map fun l => (l.struct.name, l.position)) =
        some [("A", ⟨4, 2⟩), ("C", ⟨8, 15⟩), ("D", ⟨14, 7⟩)] := by decide +kernel
  obtain ⟨tree, ls, h, h', hnames⟩ := exists_structs_of_read hread
  exact ⟨tree, ls, h, h', hnames, structs_located h h'⟩

end TagSpec.Source
