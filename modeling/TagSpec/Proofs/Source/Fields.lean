import TagSpec.Proofs.Source.Comments
import TagSpec.Proofs.Source.Located

/-!
# Fields of declared structs

A struct has the fields that its members declare, in their order, whatever the types of the fields are
and whatever surrounds the types that are embedded: `structs_fields`. Comments have no say in them.
-/

namespace TagSpec.Source

/-! ## Fields of members -/

/-- The tags that a member gives to its fields. -/
def Member.Tagged (m : Member) (tags : Tags) : Prop :=
  match m.tag with
  | none => tags = Tags.empty
  | some t => Tags.ofLiteral t.string = .ok tags

/-- The fields that a member declares: one for each of its names, all with the same tags. -/
def Member.Declares (m : Member) (fields : List Field) : Prop :=
  ∃ tags, m.Tagged tags ∧ fields = m.names.map fun name => ⟨name.string, tags⟩

/-- What is read of a member are the fields that it declares. -/
theorem Member.fields_eq_ok_iff {m : Member} {struct : String} {fields : List Field} :
    m.declaration.fields struct = .ok fields ↔ m.Declares fields := by
  have hmap : ∀ tags, (m.names.map Token.string).map (fun name => (⟨name, tags⟩ : Field)) =
      m.names.map fun name => ⟨name.string, tags⟩ := fun tags => List.map_map
  unfold FieldDeclaration.fields Member.Declares Member.Tagged Member.declaration
  cases m.tag with
  | none => simp only [hmap, exists_eq_left, Except.ok.injEq, eq_comm]
  | some t =>
    cases hread : Tags.ofLiteral t.string with
    | ok tags => simp only [hread, hmap, Except.ok.injEq, exists_eq_left', eq_comm]
    | error fault => simp [hread]

/-- What is read of a struct are the fields of its members, one member after another. -/
theorem struct_members_eq_ok_iff {name : Token} {members : List Member} {l : Located} :
    StructDeclaration.struct ⟨name, members.map Member.declaration⟩ = .ok l ↔
      ∃ fields, List.Forall₂ Member.Declares members fields ∧
        l = ⟨⟨name.string, fields.flatten⟩, name.position⟩ := by
  simp only [StructDeclaration.struct_eq_ok_iff, mapM_eq_ok_iff, List.forall₂_map_left_iff,
    Member.fields_eq_ok_iff]

/-! ## Fields of a source -/

/-- Two texts have the same tokens, each of them at the start of a line in both or in neither. Comments
and places may differ. -/
def SameTokens (text text' : List Char) : Prop :=
  (lex text').map Token.silent = (lex text).map Token.silent

/-- Texts with the same tokens declare the same structs, perhaps at other places. -/
theorem SameTokens.exists_structs {text text' : List Char} (hlex : SameTokens text text')
    {tree : SyntaxTree} {ls : List Located} (h : parse text = .ok tree)
    (hls : structs tree = .ok ls) :
    ∃ tree' ls', parse text' = .ok tree' ∧ structs tree' = .ok ls' ∧
      ls'.map Located.struct = ls.map Located.struct := by
  unfold SameTokens at hlex
  have hread := readFile_change unnoticed_silent (lex text')
  rw [hlex, readFile_change unnoticed_silent, readFile_of_parse h, Option.map_some] at hread
  obtain ⟨tree', htree', hsame⟩ := Option.map_eq_some_iff.1 hread.symm
  have hdeclared : declaredStructs tree' = .ok (ls.map Located.struct) := by
    rw [← declaredStructs_change unnoticed_silent tree', hsame,
      declaredStructs_change unnoticed_silent]
    exact unplace_eq_ok_iff.2 ⟨ls, hls, rfl⟩
  obtain ⟨ls', hls', hstructs⟩ := unplace_eq_ok_iff.1 hdeclared
  exact ⟨tree', ls', parse_eq_ok htree', hls', hstructs⟩

/-- Each declared struct has the fields that its members declare, one for each name of a member, in
their order. A text with other comments between the same tokens has structs with the same fields. -/
theorem structs_fields {text : List Char} {tree : SyntaxTree} {ls : List Located}
    (h : parse text = .ok tree) (hls : structs tree = .ok ls) :
    IsTreeOf text tree ∧
      (∃ places, StructPlaces tree places ∧
        List.Forall₂ (fun place l => ∃ name members, DeclaresStruct tree place name members ∧
          ∃ fields, List.Forall₂ Member.Declares members fields ∧
            l.struct = ⟨name.string, fields.flatten⟩) places ls) ∧
      ∀ text', SameTokens text text' →
        ∃ tree' ls', parse text' = .ok tree' ∧ structs tree' = .ok ls' ∧
          ls'.map Located.struct = ls.map Located.struct := by
  refine ⟨isTreeOf_of_parse h, ?_, fun _ hlex => hlex.exists_structs h hls⟩
  obtain ⟨places, hplaces, hall⟩ := exists_structPlaces (formed_of_parse h) (mapM_eq_ok_iff.1 hls)
  refine ⟨places, hplaces, hall.imp ?_⟩
  rintro place l ⟨name, members, hdeclares, hstruct⟩
  obtain ⟨fields, hfields, rfl⟩ := struct_members_eq_ok_iff.1 hstruct
  exact ⟨name, members, hdeclares, fields, hfields, rfl⟩

/-- A source with a struct that has two fields of one member, embedded types and a struct type inside.
Behind type arguments come a type that is embedded, a field and the type of the elements of an array. -/
def embedding : String :=
  "package p\n\ntype S struct \x7b\n\tA, B int `k:\"v\"`\n\t*Base\n\tq.Other\n" ++
    "\t*q.List[map[string]*q.T, struct\x7b F int \x7d]\n\tSet[int]\n\tLock\n" ++
      "\tPair[K, V]\n\tIn struct \x7b G int \x7d\n\tbuf [N]\n\t[]byte\n\x7d\n"

theorem structs_fields_embedding :
    ∃ tree ls, parse embedding.toList = .ok tree ∧ structs tree = .ok ls ∧
      ls.map (fun l => l.struct.fields.map Field.name) =
        [["A", "B", "Base", "Other", "List", "Set", "Lock", "Pair", "In", "buf"]] ∧
      IsTreeOf embedding.toList tree ∧
      (∃ places, StructPlaces tree places ∧
        List.Forall₂ (fun place l => ∃ name members, DeclaresStruct tree place name members ∧
          ∃ fields, List.Forall₂ Member.Declares members fields ∧
            l.struct = ⟨name.string, fields.flatten⟩) places ls) ∧
      ∀ text', SameTokens embedding.toList text' →
        ∃ tree' ls', parse text' = .ok tree' ∧ structs tree' = .ok ls' ∧
          ls'.map Located.struct = ls.map Located.struct := by
  have hread : ((parse embedding.toList).toOption.bind fun tree => (structs tree).toOption).map
      (List.map fun l => l.struct.fields.map Field.name) =
        some [["A", "B", "Base", "Other", "List", "Set", "Lock", "Pair", "In", "buf"]] := by
    decide +kernel
  obtain ⟨tree, ls, h, h', hnames⟩ := exists_structs_of_read hread
  exact ⟨tree, ls, h, h', hnames, structs_fields h h'⟩

end TagSpec.Source
