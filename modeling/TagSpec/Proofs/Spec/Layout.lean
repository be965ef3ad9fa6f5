import TagSpec.Proofs.Source.Lines
import TagSpec.Proofs.Spec.Checking
import TagSpec.Proofs.Spec.Parsing
import TagSpec.Spec.Rendering

/-!
# Rendered text in lines

The text of a spec file laid out in lines, and the tokens that each of them gives.
-/

namespace TagSpec

open Source

/-! ## Entries -/

namespace Entry

def valueLine (gap : Nat) (e : Entry) : List Item :=
  blanks 2 '\t' ++ (.token .name e.field.toList :: .token .sign ":".toList :: (blanks (gap + 1) ' ' ++
    [.token .string (StringLiteral.encode e.value.toList), .token .sign ",".toList, .blank '\n']))

theorem lines_valueLine (gap : Nat) {e : Entry} (h : IsName e.field.toList) :
    Lines false false (valueLine gap e) (e.valueTokens ++ [Token.sign ","]) := by
  refine Lines.indented 2 ⟨?_, ?_⟩
  · intro rest
    refine ⟨h.cut (by rfl), Item.cut_signBlank (by decide), ?_⟩
    refine separate_append (closed_blanks _ (by decide) _) ?_
    exact ⟨Item.cut_encode _ _, Item.cut_brace (by decide), Item.cut_blank (by decide), trivial⟩
  · intro afterName
    have hgap : ∀ m, marksOf m (blanks (gap + 1) ' ') = m := fun m => marksOf_blanks m _ (by decide)
    rw [itemTokens, itemTokens, itemTokens_append, itemTokens_blanks, hgap]
    rw [marksOf, List.foldl_cons, List.foldl_cons, ← marksOf, marksOf_append, hgap]
    cases afterName <;> exact ⟨rfl, _, rfl⟩

end Entry

/-! ## Groups -/

namespace Group

/-- The blanks behind the name of a field that make the names of a group equally long. -/
def gap (g : Group) (e : Entry) : Nat := widest g.fieldNames - e.field.toList.length

def typeLines (g : Group) : List Item :=
  g.entries.flatMap fun e => fieldLine 2 (g.gap e) e.field.toList none

def valueLines (g : Group) : List Item := g.entries.flatMap fun e => e.valueLine (g.gap e)

theorem layout_typeLines (g : Group) : layout g.typeLines = g.typeText := by
  unfold typeLines typeText
  rw [layout_flatMap]
  congr 1
  funext e
  simp [fieldLine, Item.text, lineOf, padRight, gap, List.replicate_succ']

theorem layout_valueLines (g : Group) : layout g.valueLines = g.valueText := by
  unfold valueLines valueText
  rw [layout_flatMap]
  congr 1
  funext e
  simp [Entry.valueLine, Item.text, lineOf, padRight, gap, List.replicate_succ']

/-- The lines of the part of the type that holds a group. -/
def declarationLines (g : Group) : List Item :=
  [.blank '\t', .token .name g.displayName.toList, .blank ' ', .token .keyword "struct".toList,
    .blank ' ', .token .sign "\x7b".toList, .blank '\n'] ++
    (g.typeLines ++ closeLine 1 [])

/-- The lines of the part of the value that holds a group. -/
def literalLines (g : Group) : List Item :=
  [.blank '\t', .token .name g.displayName.toList, .token .sign ":".toList, .blank ' ',
    .token .keyword "struct".toList, .blank ' ', .token .sign "\x7b".toList, .blank '\n'] ++
    (g.typeLines ++ (closeLine 1 ["\x7b"] ++ (g.valueLines ++ closeLine 1 [","])))

theorem layout_declarationLines (g : Group) : layout g.declarationLines = g.declarationText := by
  simp [declarationLines, declarationText, closeLine, layout_typeLines, Item.text, lineOf]

theorem layout_literalLines (g : Group) : layout g.literalLines = g.literalText := by
  simp [literalLines, literalText, closeLine, layout_typeLines, layout_valueLines, Item.text, lineOf]

theorem lines_typeLines {g : Group} (h : ∀ e ∈ g.entries, IsName e.field.toList) :
    Lines true true g.typeLines (g.entries.flatMap Entry.typeTokens) :=
  Lines.flatMap fun e he => lines_fieldLine 2 (g.gap e) (h e he) fun _ htext => nomatch htext

theorem lines_valueLines {g : Group} (h : ∀ e ∈ g.entries, IsName e.field.toList) :
    Lines false false g.valueLines
      (g.entries.flatMap fun e => e.valueTokens ++ [Token.sign ","]) :=
  Lines.flatMap fun e he => Entry.lines_valueLine (g.gap e) (h e he)

/-- The lines that declare a group have the tokens of its declaration. -/
theorem lines_declarationLines {g : Group} (hg : IsName g.displayName.toList)
    (he : ∀ e ∈ g.entries, IsName e.field.toList) :
    Lines true true g.declarationLines g.declarationTokens := by
  refine Lines.structType [(Token.name g.displayName.toList).onNewLine] ?_ (lines_typeLines he)
    (lines_closeLine 1 [] (by decide))
  refine ⟨fun rest => ?_, fun afterName => by cases afterName <;> exact ⟨rfl, _, rfl⟩⟩
  exact ⟨Item.cut_blank (by decide), hg.cut isNameTail_space, Item.cut_blank (by decide),
    cut_struct isNameTail_space, Item.cut_blank (by decide), Item.cut_brace (by decide),
    Item.cut_blank (by decide), trivial⟩

/-- The lines of the value of a group have the tokens of that value. -/
theorem lines_literalLines {g : Group} (hg : IsName g.displayName.toList)
    (he : ∀ e ∈ g.entries, IsName e.field.toList) :
    Lines false false g.literalLines (g.literalTokens ++ [Token.sign ","]) := by
  have hclose : Lines true false (closeLine 1 ["\x7b"])
      [(Token.sign "\x7d").onNewLine, Token.sign "\x7b"] := lines_closeLine 1 ["\x7b"] (by decide)
  have hend : Lines false false (closeLine 1 [","]) [Token.sign "\x7d", Token.sign ","] :=
    lines_closeLine 1 [","] (by decide)
  have htokens : g.literalTokens ++ [Token.sign ","] =
      [Token.name g.displayName.toList, Token.sign ":"] ++
        structTokens (g.entries.flatMap Entry.typeTokens)
          (Token.sign "\x7b" :: ((g.entries.flatMap fun e => e.valueTokens ++ [Token.sign ","]) ++
            [Token.sign "\x7d", Token.sign ","])) := by
    simp [literalTokens, valueTokens]
  rw [htokens]
  refine Lines.structType _ ?_ (lines_typeLines he)
    (hclose.append ((lines_valueLines he).append hend))
  refine ⟨fun rest => ?_, fun afterName => by cases afterName <;> exact ⟨rfl, _, rfl⟩⟩
  exact ⟨Item.cut_blank (by decide), hg.cut (by rfl), Item.cut_signBlank (by decide),
    Item.cut_blank (by decide), cut_struct isNameTail_space, Item.cut_blank (by decide),
    Item.cut_brace (by decide), Item.cut_blank (by decide), trivial⟩

end Group

/-! ## Specs -/

namespace Spec

/-- The comment in front of the variable of a spec. -/
def comment (s : Spec) : List Char :=
  "// ".toList ++ s.name.toList ++ "Spec lists struct tag names of ".toList ++ s.name.toList ++
    " fields.".toList

def lines (s : Spec) : List Item :=
  [.comment s.comment, .blank '\n', .token .keyword "var".toList, .blank ' ',
    .token .name s.variableName, .blank ' ', .token .sign "=".toList, .blank ' ',
    .token .keyword "struct".toList] ++
  if s.groups.isEmpty then
    [.token .sign "\x7b".toList, .token .sign "\x7d".toList, .token .sign "\x7b".toList,
      .token .sign "\x7d".toList, .blank '\n']
  else
    [.blank ' ', .token .sign "\x7b".toList, .blank '\n'] ++
      (s.groups.flatMap Group.declarationLines ++
        (closeLine 0 ["\x7b"] ++ (s.groups.flatMap Group.literalLines ++ closeLine 0 [])))

theorem layout_lines (s : Spec) : layout s.lines = s.text := by
  have hdeclarations : layout (s.groups.flatMap Group.declarationLines) =
      s.groups.flatMap Group.declarationText := by
    rw [layout_flatMap]
    congr 1
    funext g
    exact g.layout_declarationLines
  have hliterals : layout (s.groups.flatMap Group.literalLines) =
      s.groups.flatMap Group.literalText := by
    rw [layout_flatMap]
    congr 1
    funext g
    exact g.layout_literalLines
  unfold lines text
  split
  · simp [Item.text, comment, variableName, lineOf]
  · simp [Item.text, comment, variableName, closeLine, lineOf, hdeclarations, hliterals]

/-- No keyword ends like the name of a variable. -/
theorem isName_variableName {s : Spec} (h : IsName s.name.toList) : IsName s.variableName := by
  have hkeywords : keywords.all (fun w => !"Spec".toList.isSuffixOf w.toList) = true := by rfl
  have htail : "Spec".toList.all isNameTail = true := by rfl
  refine ⟨?_, ?_⟩
  · obtain ⟨hword, -⟩ := h
    unfold variableName
    cases hname : s.name.toList with
    | nil =>
      rw [hname] at hword
      cases hword
    | cons c cs =>
      rw [hname, isWord, Bool.and_eq_true] at hword
      rw [List.cons_append, isWord, List.all_append, hword.1, hword.2, htail]
      rfl
  · cases hc : keywords.contains (String.ofList s.variableName) with
    | false => rfl
    | true =>
      have hspelled : (String.ofList s.variableName).toList = s.variableName :=
        String.toList_ofList
      have hsuffix : "Spec".toList.isSuffixOf s.variableName = true :=
        List.isSuffixOf_iff_suffix.2 (List.suffix_append _ _)
      have hnone := List.all_eq_true.1 hkeywords _ (List.contains_iff_mem.1 hc)
      rw [hspelled, hsuffix] at hnone
      cases hnone

theorem cut_comment {s : Spec} (h : IsName s.name.toList) (rest : List Char) :
    (Item.comment s.comment).Cut ('\n' :: rest) := by
  have hname := h.notMem (c := '\n') (by rfl) isNameTail_newline
  have htext : s.comment = '/' :: '/' :: ' ' :: (s.name.toList ++
      "Spec lists struct tag names of ".toList ++ s.name.toList ++ " fields.".toList) := rfl
  rw [htext]
  refine Item.cut_comment ?_
  simp only [List.mem_cons, List.mem_append, not_or]
  exact ⟨by decide, ⟨⟨hname, by decide⟩, hname⟩, by decide⟩

theorem lines_lines {s : Spec} (h : ∀ n ∈ s.names, IsName n.toList) :
    Lines true true s.lines (s.tokens s.comment) := by
  have hs : IsName s.name.toList := h _ List.mem_cons_self
  have hg : ∀ g ∈ s.groups, ∀ n ∈ g.names, IsName n.toList := fun g hg n hn =>
    h n (List.mem_cons_of_mem _ (List.mem_flatMap_of_mem hg hn))
  have he : ∀ g ∈ s.groups, ∀ e ∈ g.entries, IsName e.field.toList := fun g hgs e hes =>
    hg g hgs _ (List.mem_cons_of_mem _ (List.mem_map_of_mem hes))
  have hdeclarations : Lines true true (s.groups.flatMap Group.declarationLines)
      (s.groups.flatMap Group.declarationTokens) :=
    Lines.flatMap fun g hgs =>
      Group.lines_declarationLines (hg g hgs _ List.mem_cons_self) (he g hgs)
  have hliterals : Lines false false (s.groups.flatMap Group.literalLines)
      (s.groups.flatMap fun g => g.literalTokens ++ [Token.sign ","]) :=
    Lines.flatMap fun g hgs => Group.lines_literalLines (hg g hgs _ List.mem_cons_self) (he g hgs)
  have hvar : ∀ rest, (Item.token .keyword "var".toList).Cut (' ' :: rest) := fun rest =>
    Item.cut_keyword (by rfl) (by rfl) (by simp [endsWord, isNameTail_space])
  unfold lines
  split
  · next hempty =>
    rw [tokens, List.isEmpty_iff.1 hempty]
    refine ⟨fun rest => ?_, fun afterName => by cases afterName <;> exact ⟨rfl, _, rfl⟩⟩
    exact ⟨cut_comment hs _, Item.cut_blank (by decide), hvar _, Item.cut_blank (by decide),
      (isName_variableName hs).cut isNameTail_space, Item.cut_blank (by decide),
      Item.cut_signBlank (by decide), Item.cut_blank (by decide), cut_struct (by rfl),
      Item.cut_brace (by decide), Item.cut_brace (by decide), Item.cut_brace (by decide),
      Item.cut_brace (by decide), Item.cut_blank (by decide), trivial⟩
  · have hclose : Lines true false (closeLine 0 ["\x7b"])
        [(Token.sign "\x7d").onNewLine, Token.sign "\x7b"] := lines_closeLine 0 ["\x7b"] (by decide)
    have hend : Lines false true (closeLine 0 []) [Token.sign "\x7d"] :=
      lines_closeLine 0 [] (by decide)
    rw [← List.append_assoc]
    refine Lines.structType [{ (Token.keyword "var").onNewLine with comment := some s.comment },
      Token.name s.variableName, Token.sign "="] ?_ hdeclarations
      (hclose.append (hliterals.append hend))
    refine ⟨fun rest => ?_, fun afterName => by cases afterName <;> exact ⟨rfl, _, rfl⟩⟩
    exact ⟨cut_comment hs _, Item.cut_blank (by decide), hvar _, Item.cut_blank (by decide),
      (isName_variableName hs).cut isNameTail_space, Item.cut_blank (by decide),
      Item.cut_signBlank (by decide), Item.cut_blank (by decide), cut_struct isNameTail_space,
      Item.cut_blank (by decide), Item.cut_brace (by decide), Item.cut_blank (by decide), trivial⟩

end Spec

/-! ## Files -/

namespace SpecFile

def lines (f : SpecFile) : List Item :=
  [.comment generatedHeader.toList, .blank '\n', .blank '\n'] ++ packageLine f.package.toList ++
    f.specs.flatMap fun s => .blank '\n' :: s.lines

/-- The parts of a spec file with their trees. -/
def parts (f : SpecFile) : List (List Token × List SyntaxTree) :=
  (packageTokens (some generatedHeader.toList) f.package.toList,
    [packageTree (some generatedHeader.toList) f.package.toList]) ::
    f.specs.map fun s => (s.tokens s.comment, [s.tree s.comment])

theorem layout_lines (f : SpecFile) : layout f.lines = f.text := by
  have hspecs : layout (f.specs.flatMap fun s => .blank '\n' :: s.lines) =
      f.specs.flatMap fun s => lineOf [] ++ s.text := by
    rw [layout_flatMap]
    congr 1
    funext s
    rw [layout_cons, s.layout_lines]
    rfl
  simp [lines, text, packageLine, Item.text, lineOf, hspecs]

theorem readsParts (f : SpecFile) : ReadsParts 21 f.parts := by
  intro p hp
  rcases List.mem_cons.1 hp with rfl | hp
  · exact ⟨⟨_, _, rfl, rfl⟩, fun ts hts => (gives_package _ _ hts).mono (by decide)⟩
  · obtain ⟨s, -, rfl⟩ := List.mem_map.1 hp
    exact ⟨⟨_, _, rfl, rfl⟩, fun ts hts => s.gives_part s.comment hts⟩

theorem lines_lines {f : SpecFile} (h : ∀ n ∈ f.names, IsName n.toList) :
    Lines true true f.lines (f.parts.flatMap Prod.fst) := by
  have hpackage : IsName f.package.toList := h _ List.mem_cons_self
  have hs : ∀ s ∈ f.specs, ∀ n ∈ s.names, IsName n.toList := fun s hs n hn =>
    h n (List.mem_cons_of_mem _ (List.mem_flatMap_of_mem hs hn))
  have hhead : Lines true true
      ([.comment generatedHeader.toList, .blank '\n', .blank '\n'] ++ packageLine f.package.toList)
      (packageTokens (some generatedHeader.toList) f.package.toList) := by
    refine ⟨Closed.append (fun rest => ?_) (closed_packageLine hpackage), fun afterName => ?_⟩
    · exact ⟨Item.cut_comment (by decide), Item.cut_blank (by decide), Item.cut_blank (by decide),
        trivial⟩
    · cases afterName <;> exact ⟨rfl, _, rfl⟩
  have hspecs : Lines true true (f.specs.flatMap fun s => .blank '\n' :: s.lines)
      (f.specs.flatMap fun s => s.tokens s.comment) :=
    Lines.flatMap fun s hmem => Lines.blankLine.append (s.lines_lines (hs s hmem))
  have hall := hhead.append hspecs
  rw [parts, List.flatMap_cons, List.flatMap_map]
  exact hall

end SpecFile

end TagSpec
