import TagSpec.Proofs.Spec.Checking
import TagSpec.Proofs.Spec.Parsing
import TagSpec.Proofs.StringLiteral
import TagSpec.Proofs.Text.Determining
import TagSpec.Proofs.Text.Utf8

/-!
# Rendering loses nothing

The text of a spec file determines the spec file: its names end at a blank or a colon, its values
are literals, and the lines of a group or spec begin unlike the line that ends them.
-/

namespace TagSpec

/-! ## Literals -/

namespace StringLiteral

theorem next_high : ∀ n < 0x20, Utf8.next [UInt8.ofNat (n + 0x80)] = some (none, []) := by decide

/-- A control character beyond ASCII is no text by its item alone, any other character is. -/
theorem next_itemBytes (c : Char) :
    Utf8.next (itemBytes c) = some (if isHighControl c then none else some c, []) := by
  unfold itemBytes
  split
  · next h =>
    simp only [isHighControl, Bool.and_eq_true, decide_eq_true_eq] at h
    have hcode : c.toNat - 0x80 + 0x80 = c.toNat := by omega
    have hnext := next_high (c.toNat - 0x80) (by omega)
    rwa [hcode] at hnext
  · have hnext := Utf8.next_encodeChar c []
    rwa [List.append_nil] at hnext

/-- No two characters are written for the same bytes. -/
theorem itemBytes_injective {c d : Char} (h : itemBytes c = itemBytes d) : c = d := by
  have hnext := congrArg Utf8.next h
  rw [next_itemBytes, next_itemBytes] at hnext
  split at hnext <;> split at hnext
  · next hc hd =>
    rw [itemBytes, itemBytes, if_pos hc, if_pos hd] at h
    simp only [isHighControl, Bool.and_eq_true, decide_eq_true_eq] at hc hd
    have hbyte : ∀ {e : Char}, e.toNat < 0xA0 → e.toNat.toUInt8.toNat = e.toNat := fun he =>
      UInt8.toNat_ofNat_of_lt' (Nat.lt_trans he (by decide))
    have hcode := congrArg UInt8.toNat (List.cons.inj h).1
    rw [hbyte hc.2, hbyte hd.2] at hcode
    exact Char.ext (UInt32.toNat_inj.1 hcode)
  · cases hnext
  · cases hnext
  · cases hnext
    rfl

/-- An item of a literal tells its character. -/
theorem determines_encodeItem : Determines (fun _ => True) encodeItem id := by
  intro c d _ _ rest rest' heq
  have hread := congrArg readItem heq
  rw [readItem_encodeItem, readItem_encodeItem, Option.some.injEq, Prod.mk.injEq] at hread
  exact ⟨itemBytes_injective hread.1, hread.2⟩

/-- No item begins with the quote that ends a literal. -/
theorem encodeItem_append_ne (c : Char) (rest rest' : List Char) :
    encodeItem c ++ rest ≠ ['"'] ++ rest' := by
  intro heq
  have hread := congrArg readItem heq
  rw [readItem_encodeItem] at hread
  cases hread

/-- A literal behind its first quote tells its text and where it ends. -/
theorem determines_items :
    Determines (fun _ : List Char => True) (fun cs => cs.flatMap encodeItem ++ ['"']) id :=
  have hitems := determines_encodeItem.flatMap _ fun c _ => encodeItem_append_ne c
  (hitems.mono fun _ _ _ _ => trivial).tells fun cs ds heq => by simpa using heq

end StringLiteral

/-! ## Names -/

theorem isTail_of_isValid {n : String} (h : Identifier.isValid n = true) :
    ∀ c ∈ n.toList, Identifier.isTail c = true := by
  simp only [Identifier.isValid, Bool.and_eq_true] at h
  cases hn : n.toList with
  | nil => exact nofun
  | cons c cs =>
    rw [hn, Identifier.isWord, Bool.and_eq_true] at h
    refine List.forall_mem_cons.2 ⟨?_, List.all_eq_true.1 h.1.2⟩
    rw [Identifier.isTail, h.1.1, Bool.true_or]

/-- A name ends at any mark that is not part of names. -/
theorem determines_name {mark : Char} (hmark : Identifier.isTail mark = false) :
    Determines (fun n : String => Identifier.isValid n = true) (fun n => n.toList ++ [mark]) id :=
  (((Determines.marked hmark).part String.toList).mono fun _ => isTail_of_isValid).tells
    fun _ _ heq => String.toList_inj.1 heq

theorem isTail_space : Identifier.isTail ' ' = false := by decide
theorem isTail_colon : Identifier.isTail ':' = false := by decide
theorem isTail_newline : Identifier.isTail '\n' = false := by decide

/-! ## Entries -/

/-- An entry and the blanks that are written behind the name of its field. -/
abbrev Padded := Nat × Entry

theorem determines_gap (mark : Char) (hmark : mark ≠ ' ') :
    Determines (fun _ : Nat => True) (fun gap => List.replicate gap ' ' ++ [mark]) (fun _ => ()) := by
  have hrun := (Determines.marked (p := (· == ' ')) (beq_false_of_ne hmark)).part
    (List.replicate · ' ')
  refine (hrun.mono fun gap _ c hc => ?_).tells fun _ _ _ => rfl
  exact beq_iff_eq.2 (List.eq_of_mem_replicate hc)

def Padded.typeLine (p : Padded) : List Char :=
  "\t\t".toList ++ (p.2.field.toList ++ [' '] ++ (List.replicate p.1 ' ' ++ ['s'])) ++
    "tring\n".toList

def Padded.valueLine (p : Padded) : List Char :=
  "\t\t".toList ++ (p.2.field.toList ++ [':'] ++ ((List.replicate (p.1 + 1) ' ' ++ ['"']) ++
    (p.2.value.toList.flatMap StringLiteral.encodeItem ++ ['"']))) ++ ",\n".toList

/-- The line of a type tells the name of its field. -/
theorem determines_typeLine :
    Determines (fun p : Padded => Identifier.isValid p.2.field = true) Padded.typeLine
      (fun p => p.2.field) := by
  have hname := (determines_name isTail_space).part fun p : Padded => p.2.field
  have hgap := (determines_gap 's' (by decide)).part (Prod.fst : Padded → Nat)
  have hfield := hname.append (hgap.mono fun _ _ => trivial)
  refine ((hfield.tells ?_).textBefore _).textBehind _
  exact fun _ _ heq => congrArg Prod.fst heq

/-- The line of a value tells its entry. -/
theorem determines_valueLine :
    Determines (fun p : Padded => Identifier.isValid p.2.field = true) Padded.valueLine Prod.snd := by
  have hname := (determines_name isTail_colon).part fun p : Padded => p.2.field
  have hgap := (determines_gap '"' (by decide)).part fun p : Padded => p.1 + 1
  have hvalue := StringLiteral.determines_items.part fun p : Padded => p.2.value.toList
  have hentry := hname.append ((hgap.append hvalue).mono fun _ _ => trivial)
  refine ((hentry.tells ?_).textBefore _).textBehind _
  rintro ⟨gap, field, value⟩ ⟨gap', field', value'⟩ heq
  obtain ⟨hfield, hvalues⟩ := Prod.mk.inj heq
  exact congrArg₂ Entry.mk hfield (String.toList_inj.1 (Prod.mk.inj hvalues).2)

/-! ## Groups -/

namespace Group

def Named (g : Group) : Prop := ∀ n ∈ g.names, Identifier.isValid n = true

/-- The entries of a group with the blanks that make their names equally long. -/
def padded (g : Group) : List Padded :=
  g.entries.map fun e => (widest g.fieldNames - e.field.toList.length, e)

theorem typeText_eq (g : Group) : g.typeText = g.padded.flatMap Padded.typeLine := by
  have hgap : ∀ n cs, List.replicate n ' ' ++ ' ' :: cs = ' ' :: (List.replicate n ' ' ++ cs) := by
    intro n cs
    rw [List.append_cons, ← List.replicate_succ', List.replicate_succ, List.cons_append]
  rw [typeText, padded, List.flatMap_map]
  congr 1
  funext e
  simp [lineOf, padRight, Padded.typeLine, hgap]

theorem valueText_eq (g : Group) : g.valueText = g.padded.flatMap Padded.valueLine := by
  rw [valueText, padded, List.flatMap_map]
  congr 1
  funext e
  simp [lineOf, padRight, Padded.valueLine, StringLiteral.encode, List.replicate_succ']

/-- Lines for the entries of a group end at a line that is not indented like them. -/
theorem determines_padded {β : Type} {line : Padded → List Char} {view : Padded → β}
    (h : Determines (fun p => Identifier.isValid p.2.field = true) line view)
    (hline : ∀ p rest rest', line p ++ rest ≠ "\t\x7d".toList ++ rest') :
    Determines Named (fun g => g.padded.flatMap line ++ "\t\x7d".toList)
      (fun g => g.padded.map view) := by
  refine ((h.flatMap _ fun p _ => hline p).part padded).mono fun g hg p hp => ?_
  obtain ⟨e, he, rfl⟩ := List.mem_map.1 hp
  exact hg _ (List.mem_cons_of_mem _ (List.mem_map_of_mem he))

theorem determines_typeText :
    Determines Named (fun g => g.typeText ++ "\t\x7d".toList) (fun _ => ()) := by
  simp only [typeText_eq]
  exact (determines_padded determines_typeLine fun _ _ _ heq => by cases heq).tells fun _ _ _ => rfl

theorem determines_valueText :
    Determines Named (fun g => g.valueText ++ "\t\x7d".toList) Group.entries := by
  simp only [valueText_eq]
  refine (determines_padded determines_valueLine fun _ _ _ heq => by cases heq).tells ?_
  intro g h heq
  simpa [padded, Function.comp_def] using heq

theorem determines_displayName {mark : Char} (hmark : Identifier.isTail mark = false) :
    Determines Named (fun g => g.displayName.toList ++ [mark]) displayName :=
  ((determines_name hmark).part displayName).mono fun _ h => h _ List.mem_cons_self

/-- The part of the type that holds a group tells where it ends. -/
theorem determines_declarationText : Determines Named declarationText (fun _ => ()) := by
  have htext : declarationText = fun g => "\t".toList ++ (g.displayName.toList ++ [' '] ++
      ("struct \x7b\n".toList ++ (g.typeText ++ "\t\x7d".toList))) ++ "\n".toList := by
    funext g
    simp [declarationText, lineOf]
  rw [htext]
  have hname := determines_displayName isTail_space
  have htype := determines_typeText.textBefore "struct \x7b\n".toList
  exact (((hname.append htype).tells fun _ _ _ => rfl).textBefore _).textBehind _

/-- The part of the value that holds a group tells the group. -/
theorem determines_literalText : Determines Named literalText id := by
  have htext : literalText = fun g => "\t".toList ++ (g.displayName.toList ++ [':'] ++
      (" struct \x7b\n".toList ++ (g.typeText ++ "\t\x7d".toList) ++
        ("\x7b\n".toList ++ (g.valueText ++ "\t\x7d".toList)))) ++ ",\n".toList := by
    funext g
    simp [literalText, lineOf]
  rw [htext]
  have hname := determines_displayName isTail_colon
  have htype := determines_typeText.textBefore " struct \x7b\n".toList
  have hvalue := determines_valueText.textBefore "\x7b\n".toList
  refine (((hname.append (htype.append hvalue)).tells ?_).textBefore _).textBehind _
  rintro ⟨name, entries⟩ ⟨name', entries'⟩ heq
  obtain ⟨hsame, hentries⟩ := Prod.mk.inj heq
  exact congrArg₂ Group.mk hsame (Prod.mk.inj hentries).2

end Group

/-! ## Specs -/

namespace Spec

def Named (s : Spec) : Prop := ∀ n ∈ s.names, Identifier.isValid n = true

theorem Named.groups {s : Spec} (h : s.Named) : ∀ g ∈ s.groups, g.Named := fun _ hg n hn =>
  h n (List.mem_cons_of_mem _ (List.mem_flatMap_of_mem hg hn))

/-- The value of a spec behind its keyword. -/
def valueText (s : Spec) : List Char :=
  if s.groups.isEmpty then "\x7b\x7d\x7b\x7d\n".toList
  else " \x7b\n".toList ++ (s.groups.flatMap Group.declarationText ++ "\x7d\x7b\n".toList ++
    (s.groups.flatMap Group.literalText ++ "\x7d\n".toList))

theorem determines_valueText : Determines Named valueText Spec.groups := by
  have hdeclarations := (Group.determines_declarationText.flatMap "\x7d\x7b\n".toList
    fun _ _ _ _ heq => by cases heq).part Spec.groups
  have hliterals := (Group.determines_literalText.flatMap "\x7d\n".toList
    fun _ _ _ _ heq => by cases heq).part Spec.groups
  have hboth := (hdeclarations.append hliterals).mono fun (s : Spec) (h : s.Named) => h.groups
  have hgroups : Determines Named _ Spec.groups := hboth.tells fun s s' heq => by
    simpa using (Prod.mk.inj heq).2
  have hbraced := hgroups.textBefore " \x7b\n".toList
  intro s s' hs hs' rest rest' heq
  unfold valueText at heq
  -- the first character tells whether there are groups
  split at heq <;> split at heq
  · next h h' =>
    rw [List.isEmpty_iff.1 h, List.isEmpty_iff.1 h']
    exact ⟨rfl, List.append_cancel_left heq⟩
  · cases heq
  · cases heq
  · exact hbraced hs hs' heq

/-- The name of a spec is told where a blank follows it. -/
theorem determines_name : Determines Named (fun s => s.name.toList ++ [' ']) Spec.name :=
  ((TagSpec.determines_name isTail_space).part Spec.name).mono fun _ h => h _ List.mem_cons_self

theorem determines_variableName :
    Determines Named (fun s => s.variableName ++ [' ']) Spec.name := by
  have hword := (Determines.marked isTail_space).part Spec.variableName
  refine (hword.mono fun s hs c hc => ?_).tells fun s s' heq => ?_
  · rcases List.mem_append.1 hc with hc | hc
    · exact isTail_of_isValid (hs _ List.mem_cons_self) c hc
    · exact List.all_eq_true.1 (by decide : "Spec".toList.all Identifier.isTail = true) c hc
  · exact String.toList_inj.1 (List.append_cancel_right heq)

/-- The text of a spec tells the spec. -/
theorem determines_text : Determines Named Spec.text id := by
  have htext : Spec.text = fun s => "// ".toList ++ ((s.variableName ++ [' '] ++
      ("lists struct tag names of ".toList ++ (s.name.toList ++ [' ']))) ++
        ("fields.\nvar ".toList ++ (s.variableName ++ [' '] ++ ("= struct".toList ++
          s.valueText)))) := by
    funext s
    unfold text valueText
    split <;> simp [lineOf, variableName]
  rw [htext]
  have hcomment := determines_variableName.append
    (determines_name.textBefore "lists struct tag names of ".toList)
  have hvariable := (determines_variableName.append
    (determines_valueText.textBefore "= struct".toList)).textBefore "fields.\nvar ".toList
  refine ((hcomment.append hvariable).tells ?_).textBefore _
  rintro ⟨name, groups⟩ ⟨name', groups'⟩ heq
  obtain ⟨hname, hgroups⟩ := Prod.mk.inj (Prod.mk.inj heq).2
  exact congrArg₂ Spec.mk hname hgroups

end Spec

/-! ## Spec files -/

namespace SpecFile

def Named (f : SpecFile) : Prop := ∀ n ∈ f.names, Identifier.isValid n = true

theorem Named.specs {f : SpecFile} (h : f.Named) : ∀ s ∈ f.specs, s.Named := fun _ hs n hn =>
  h n (List.mem_cons_of_mem _ (List.mem_flatMap_of_mem hs hn))

/-- The text of a spec file tells the file, in front of a mark that begins no spec. -/
theorem determines_text : Determines Named (fun f => f.text ++ ['.']) id := by
  have htext : (fun f : SpecFile => f.text ++ ['.']) = fun f =>
      (generatedHeader.toList ++ "\n\npackage ".toList) ++ (f.package.toList ++ ['\n'] ++
        (f.specs.flatMap (fun s => ['\n'] ++ s.text) ++ ['.'])) := by
    funext f
    simp [text, lineOf]
  rw [htext]
  have hpackage := ((determines_name isTail_newline).part SpecFile.package).mono
    fun (f : SpecFile) (h : f.Named) => h _ List.mem_cons_self
  have hspecs := (((Spec.determines_text.textBefore ['\n']).flatMap ['.']
    fun _ _ _ _ heq => by cases heq).part SpecFile.specs).mono
      fun (f : SpecFile) (h : f.Named) => h.specs
  refine ((hpackage.append hspecs).tells ?_).textBefore _
  rintro ⟨package, specs⟩ ⟨package', specs'⟩ heq
  obtain ⟨hsame, hviews⟩ := Prod.mk.inj heq
  exact congrArg₂ SpecFile.mk hsame (by simpa using hviews)

/-- No two spec files with names that are identifiers have one text. -/
theorem text_injective {f g : SpecFile} (hf : f.Named) (hg : g.Named) (h : f.text = g.text) :
    f = g := by
  have heq : f.text ++ ['.'] ++ [] = g.text ++ ['.'] ++ [] := by rw [h]
  exact (determines_text hf hg heq).1

theorem Accepted.named {f : SpecFile} (h : f.Accepted) : f.cleaned.Named := fun n hn =>
  (h.kept n hn).2

/-- Two rendered texts are equal exactly if the spec files are, but for the fields that cannot be
referred to and groups that hold no others. Without these a spec file has the same text. -/
theorem render_lossless {f g : SpecFile} {t u : String} (hf : f.render.result = .ok t)
    (hg : g.render.result = .ok u) :
    f.cleaned.render.result = .ok t ∧
      (t = u ↔ f.package = g.package ∧ f.cleaned.specs = g.cleaned.specs) := by
  rw [render_eq_ok_iff] at hf hg
  obtain ⟨hf, ht⟩ := hf
  obtain ⟨hg, hu⟩ := hg
  refine ⟨render_eq_ok_iff.2 ⟨hf.cleaned, by rw [cleaned_cleaned, ht]⟩, ?_⟩
  constructor
  · rintro rfl
    have hsame := text_injective hf.named hg.named (ht.symm.trans hu)
    exact SpecFile.mk.inj hsame
  · rintro ⟨hpackage, hspecs⟩
    have hsame : f.cleaned = g.cleaned := congrArg₂ SpecFile.mk hpackage hspecs
    rw [← String.toList_inj, ht, hu, hsame]

/-- Two spec files that differ in what cannot be referred to, with a value that looks like the end
of its line. -/
theorem render_lossless_blank :
    let f : SpecFile := ⟨"model", [⟨"User", [⟨"Json", [⟨"ID", "\",\n\t\tX: "⟩, ⟨"_", "-"⟩]⟩]⟩]⟩
    let g : SpecFile := ⟨"model",
      [⟨"User", [⟨"Db", [⟨"_", "x"⟩]⟩, ⟨"Json", [⟨"ID", "\",\n\t\tX: "⟩]⟩]⟩]⟩
    ∃ t u, f.render.result = .ok t ∧ g.render.result = .ok u ∧ f.cleaned.render.result = .ok t ∧
      (t = u ↔ f.package = g.package ∧ f.cleaned.specs = g.cleaned.specs) ∧ t = u := by
  intro f g
  obtain ⟨t, hf⟩ := exists_eq_ok_of_isOk (by decide +kernel : f.render.result.isOk = true)
  obtain ⟨u, hg⟩ := exists_eq_ok_of_isOk (by decide +kernel : g.render.result.isOk = true)
  obtain ⟨hcleaned, hsame⟩ := render_lossless hf hg
  exact ⟨t, u, hf, hg, hcleaned, hsame, hsame.2 ⟨rfl, by decide +kernel⟩⟩

end SpecFile

end TagSpec
