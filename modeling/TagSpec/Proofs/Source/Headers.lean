import TagSpec.Proofs.Source.Lexing
import TagSpec.Proofs.Text.Trimming
import TagSpec.Source.BuildConstraint

/-!
# Headers

The lines at the start of a text that may say whether it takes part in builds. By the rule a
constraint settles the matter, and one of the older form does so if there is none of the newer.
`isBuildIgnored_eq_iff` says where the text is told by its first line with a keyword instead.
-/

namespace TagSpec.Source

/-! ## The header of a text -/

/-- Whether a line may stand in front of a package clause: it is blank, or it is a comment. -/
def isHeaderLine (line : List Char) : Bool :=
  (trim line).isEmpty || "//".toList.isPrefixOf (trim line)

/-- The blank lines and comments at the start of a text. -/
def header (text : List Char) : List (List Char) := (textLines text).takeWhile isHeaderLine

/-- The header ends at the first line that is neither blank nor a comment. -/
theorem headerLine_eq_stop_iff {line : List Char} :
    headerLine line = .stop ↔ isHeaderLine line = false := by
  rw [isHeaderLine, headerLine, dropStart?]
  cases hblank : (trim line).isEmpty with
  | true => simp
  | false =>
    cases hcomment : "//".toList.isPrefixOf (trim line) with
    | false => simp
    | true =>
      simp only [Bool.false_eq_true, if_false, if_true]
      split
      · simp
      · split <;> simp

theorem headerLine_ne_stop {line : List Char} (h : headerLine line ≠ .stop) :
    isHeaderLine line = true := by
  rwa [ne_eq, headerLine_eq_stop_iff, Bool.not_eq_false] at h

/-- Whether a file takes part in no build is settled by the lines of its header, whatever follows
them. -/
theorem ignoresBuild_of_header {lines : List (List Char)} (h : ignoresBuild lines = true)
    (rest : List (List Char)) : ignoresBuild (lines.takeWhile isHeaderLine ++ rest) = true := by
  induction lines with
  | nil => cases h
  | cons line lines ih =>
    rw [ignoresBuild] at h
    have hline : headerLine line ≠ .stop := by
      intro hstop
      rw [hstop] at h
      cases h
    rw [List.takeWhile_cons, if_pos (headerLine_ne_stop hline), List.cons_append, ignoresBuild]
    cases hkind : headerLine line with
    | stop => exact absurd hkind hline
    | other =>
      rw [hkind] at h
      exact ih h
    | constraint expr =>
      rw [hkind] at h
      exact h
    | legacy expr =>
      simp only [hkind] at h ⊢
      split
      · rfl
      · next hexpr =>
        rw [if_neg hexpr] at h
        exact ih h

/-- A text that begins with the header of one that takes part in no build takes part in none
either. -/
theorem isBuildIgnored_of_header {text other : List Char} (h : isBuildIgnored text = true)
    (hother : header text <+: textLines other) : isBuildIgnored other = true := by
  obtain ⟨rest, hrest⟩ := hother
  rw [isBuildIgnored, ← hrest]
  exact ignoresBuild_of_header h rest

/-! ## The rule -/

/-- What follows a word at the start of a text, if the word ends there. -/
def behindWord? (word cs : List Char) : Option (List Char) :=
  (dropStart? word cs).filter fun rest => rest.head?.all isBlank

/-- The expression of a line that is a constraint. -/
def constraint? (line : List Char) : Option (List Char) :=
  (behindWord? "//go:build".toList (trim line)).map trim

/-- The expression of a line that is a constraint of the older form. -/
def legacy? (line : List Char) : Option (List Char) :=
  (dropStart? "//".toList (trim line)).bind fun comment =>
    (behindWord? "+build".toList (trimStart comment)).map trim

/-- Whether lines say by the rule that a text takes part in no build: the first constraint does, or
there is none and one of the older form does. -/
def excludes (lines : List (List Char)) : Bool :=
  match lines.findSome? constraint? with
  | some expr => expr = "ignore".toList
  | none => lines.any fun line => legacy? line = some "ignore".toList

/-! ## Lines with a keyword -/

theorem dropStart?_eq_some_iff {start cs rest : List Char} :
    dropStart? start cs = some rest ↔ cs = start ++ rest := by
  rw [dropStart?]
  split
  · next hprefix =>
    obtain ⟨tail, rfl⟩ := List.isPrefixOf_iff_prefix.1 hprefix
    simp
  · next hprefix =>
    refine iff_of_false nofun ?_
    rintro rfl
    exact hprefix (List.isPrefixOf_iff_prefix.2 (List.prefix_append start rest))

/-- A constraint begins with `//go:build`, and a blank or nothing is behind it. -/
theorem constraint?_eq_some_iff {line expr : List Char} :
    constraint? line = some expr ↔ ∃ rest, trim line = "//go:build".toList ++ rest ∧
      rest.head?.all isBlank = true ∧ trim rest = expr := by
  simp [constraint?, behindWord?, Option.filter_eq_some_iff, dropStart?_eq_some_iff, and_assoc]

/-- A constraint of the older form begins with `// +build`, and a blank or nothing is behind it. -/
theorem legacy?_eq_some_iff {line expr : List Char} :
    legacy? line = some expr ↔ ∃ comment rest, trim line = "//".toList ++ comment ∧
      trimStart comment = "+build".toList ++ rest ∧ rest.head?.all isBlank = true ∧
        trim rest = expr := by
  simp [legacy?, behindWord?, Option.bind_eq_some_iff, Option.filter_eq_some_iff,
    dropStart?_eq_some_iff, and_assoc]

/-- A line that begins with the keyword of a constraint is read as one, whatever follows it. -/
theorem headerLine_constraint {line rest : List Char}
    (h : trim line = "//go:build".toList ++ rest) : headerLine line = .constraint (trim rest) := by
  rw [headerLine, h]
  simp [dropStart?]

theorem exists_of_headerLine_constraint {line expr : List Char}
    (h : headerLine line = .constraint expr) :
    ∃ rest, trim line = "//go:build".toList ++ rest ∧ trim rest = expr := by
  rw [headerLine] at h
  split at h
  · cases h
  split at h
  · cases h
  next comment hcomment =>
  split at h
  · next rest hrest =>
    cases h
    refine ⟨rest, ?_, rfl⟩
    rw [dropStart?_eq_some_iff.1 hcomment, dropStart?_eq_some_iff.1 hrest]
    rfl
  · split at h <;> cases h

theorem headerLine_legacy {line comment rest : List Char} (h : trim line = "//".toList ++ comment)
    (hcomment : trimStart comment = "+build".toList ++ rest) :
    headerLine line = .legacy (trim rest) := by
  have hno : dropStart? "go:build".toList comment = none := by
    cases hgo : dropStart? "go:build".toList comment with
    | none => rfl
    | some tail =>
      rw [dropStart?_eq_some_iff.1 hgo] at hcomment
      cases hcomment
  have hstart : dropStart? "//".toList (trim line) = some comment := dropStart?_eq_some_iff.2 h
  have hold : dropStart? "+build".toList (trimStart comment) = some rest :=
    dropStart?_eq_some_iff.2 hcomment
  have hne : (trim line).isEmpty = false := by
    rw [h]
    rfl
  simp only [headerLine, hne, hstart, hno, hold, Bool.false_eq_true, if_false]

/-! ## The line that settles the matter -/

/-- What a line says that settles whether a text takes part in no build. -/
def verdict? (line : List Char) : Option Bool :=
  match headerLine line with
  | .constraint expr => some (expr = "ignore".toList)
  | .legacy expr => if expr = "ignore".toList then some true else none
  | _ => none

/-- The lines from the first one on that settles the matter. -/
def decisive (lines : List (List Char)) : List (List Char) :=
  lines.dropWhile fun line => (verdict? line).isNone

/-- The lines of a header are read up to the first that settles the matter. -/
theorem ignoresBuild_cons (line : List Char) (lines : List (List Char)) :
    ignoresBuild (line :: lines) =
      if isHeaderLine line then (verdict? line).getD (ignoresBuild lines) else false := by
  rw [ignoresBuild, verdict?]
  cases hline : headerLine line with
  | stop => rw [if_neg (by simp [headerLine_eq_stop_iff.1 hline])]
  | other => rw [if_pos (headerLine_ne_stop (by simp [hline])), Option.getD_none]
  | constraint expr => rw [if_pos (headerLine_ne_stop (by simp [hline])), Option.getD_some]
  | legacy expr =>
    rw [if_pos (headerLine_ne_stop (by simp [hline]))]
    dsimp only
    split <;> rfl

/-- The first line of a header that settles the matter decides. -/
theorem ignoresBuild_eq (lines : List (List Char)) :
    ignoresBuild lines =
      ((decisive (lines.takeWhile isHeaderLine)).head?.bind verdict?).getD false := by
  induction lines with
  | nil => rfl
  | cons line lines ih =>
    rw [ignoresBuild_cons, List.takeWhile_cons]
    by_cases hheader : isHeaderLine line = true
    · rw [if_pos hheader, if_pos hheader, decisive, List.dropWhile_cons]
      cases hverdict : verdict? line with
      | none => simpa [decisive] using ih
      | some v => simp [hverdict]
    · rw [if_neg hheader, if_neg hheader]
      rfl

theorem excludes_cons_of_verdict?_none {line : List Char} (h : verdict? line = none)
    (lines : List (List Char)) : excludes (line :: lines) = excludes lines := by
  have hconstraint : constraint? line = none := by
    rw [Option.eq_none_iff_forall_ne_some]
    intro expr hexpr
    obtain ⟨rest, hline, -, -⟩ := constraint?_eq_some_iff.1 hexpr
    simp [verdict?, headerLine_constraint hline] at h
  have hlegacy : legacy? line ≠ some "ignore".toList := by
    intro hexpr
    obtain ⟨comment, rest, hline, hcomment, -, hrest⟩ := legacy?_eq_some_iff.1 hexpr
    simp [verdict?, headerLine_legacy hline hcomment, hrest] at h
  rw [excludes, excludes, List.findSome?_cons, hconstraint, List.any_cons, decide_eq_false hlegacy,
    Bool.false_or]

/-- The lines in front of those that settle the matter say nothing. -/
theorem excludes_decisive (lines : List (List Char)) : excludes (decisive lines) = excludes lines := by
  induction lines with
  | nil => rfl
  | cons line lines ih =>
    rw [decisive, List.dropWhile_cons]
    split
    · next hnone => rw [excludes_cons_of_verdict?_none (Option.isNone_iff_eq_none.1 hnone), ← ih, decisive]
    · rfl

/-! ## A mark in front of the header -/

theorem exists_dropReturn_cons {c : Char} (hc : c ≠ '\r') (line : List Char) :
    ∃ rest, dropReturn (c :: line) = c :: rest := by
  rw [dropReturn, dropTail?]
  split
  · next htail =>
    obtain ⟨front, hfront⟩ := List.isSuffixOf_iff_suffix.1 htail
    cases front with
    | nil =>
      rw [List.nil_append, List.cons.injEq] at hfront
      exact absurd hfront.1.symm hc
    | cons d ds =>
      rw [List.cons_append, List.cons.injEq] at hfront
      obtain ⟨rfl, rfl⟩ := hfront
      exact ⟨_, by simp [List.take_succ_cons]; rfl⟩
  · exact ⟨line, rfl⟩

theorem exists_textLines_cons {c : Char} (hn : c ≠ '\n') (hr : c ≠ '\r') (cs : List Char) :
    ∃ line lines, textLines (c :: cs) = (c :: line) :: lines := by
  have hcut : cutLine (c :: cs) = (c :: (cutLine cs).1, (cutLine cs).2) := by
    rw [cutLine, if_neg hn]
  rw [textLines]
  split
  · exact ⟨_, [], by rw [hcut]; rfl⟩
  · obtain ⟨rest, hrest⟩ := exists_dropReturn_cons hr (cutLine cs).1
    exact ⟨rest, _, by rw [hcut, hrest]⟩

/-- No line of a text with a byte order mark is part of its header. -/
theorem header_marked {text : List Char} (h : text.head? = some byteOrderMark) :
    header text = [] := by
  obtain ⟨cs, rfl⟩ := List.head?_eq_some_iff.1 h
  obtain ⟨line, lines, hlines⟩ := exists_textLines_cons (c := byteOrderMark) (by decide) (by decide) cs
  have hstop : isHeaderLine (byteOrderMark :: line) = false := by
    rw [isHeaderLine, trim_cons (by decide)]
    rfl
  rw [header, hlines, List.takeWhile_cons, hstop]
  rfl

/-! ## Where the rule is missed -/

/-- A text whose header is not read by the rule. -/
inductive Misled (text : List Char) : Prop
  /-- a byte order mark hides a header that says that the text takes part in no build -/
  | marked : text.head? = some byteOrderMark → excludes (header (codeOf text)) = true → Misled text
  /-- a longer word is taken for the keyword of a constraint, and says otherwise than what follows -/
  | runOn {line rest : List Char} {after : List (List Char)} :
      decisive (header text) = line :: after → trim line = "//go:build".toList ++ rest →
      rest.head?.all isBlank = false → decide (trim rest = "ignore".toList) ≠ excludes after →
      Misled text
  /-- a line of the older form is taken in front of a constraint that says otherwise, or in spite of a
  longer word for its keyword -/
  | overtaken {line : List Char} {after : List (List Char)} :
      decisive (header text) = line :: after → headerLine line = .legacy "ignore".toList →
      excludes (line :: after) = false → Misled text

/-- A text takes part in no build if the first decisive line of its header says so. -/
theorem isBuildIgnored_eq (text : List Char) :
    isBuildIgnored text = ((decisive (header text)).head?.bind verdict?).getD false :=
  ignoresBuild_eq (textLines text)

/-- A constraint that settles the matter says what the rule says. -/
theorem excludes_cons_of_constraint? {line expr : List Char} (h : constraint? line = some expr)
    (lines : List (List Char)) : excludes (line :: lines) = decide (expr = "ignore".toList) := by
  rw [excludes, List.findSome?_cons, h]

/-- A line that is a constraint in neither form makes no difference to the rule. -/
theorem excludes_cons_of_none {line : List Char} (h : constraint? line = none)
    (h' : legacy? line = none) (lines : List (List Char)) :
    excludes (line :: lines) = excludes lines := by
  rw [excludes, excludes, List.findSome?_cons, h, List.any_cons, h']
  rfl

/-- A word that goes on behind the keyword makes a line no constraint in either form. -/
theorem excludes_cons_of_runOn {line rest : List Char} (h : trim line = "//go:build".toList ++ rest)
    (hrest : rest.head?.all isBlank = false) (lines : List (List Char)) :
    excludes (line :: lines) = excludes lines := by
  have hline := headerLine_constraint h
  have hconstraint : constraint? line = none := by
    rw [Option.eq_none_iff_forall_ne_some]
    intro expr hexpr
    obtain ⟨rest', hline', hblank, -⟩ := constraint?_eq_some_iff.1 hexpr
    obtain rfl : rest = rest' := List.append_cancel_left (h.symm.trans hline')
    rw [hrest] at hblank
    cases hblank
  have hlegacy : legacy? line = none := by
    rw [Option.eq_none_iff_forall_ne_some]
    intro expr hexpr
    obtain ⟨comment, rest', hline', hcomment, -⟩ := legacy?_eq_some_iff.1 hexpr
    rw [headerLine_legacy hline' hcomment] at hline
    cases hline
  exact excludes_cons_of_none hconstraint hlegacy lines

/-- Where a line settles the matter, the text is misled if that line says otherwise than the rule. -/
theorem misled_iff_of_decisive {text line : List Char} {after : List (List Char)}
    (h : decisive (header text) = line :: after) :
    Misled text ↔ (verdict? line).getD false ≠ excludes (line :: after) := by
  have hverdict : verdict? line ≠ none := by
    intro hnone
    have hhead := List.head?_dropWhile_not (fun line => (verdict? line).isNone) (header text)
    rw [← decisive, h, List.head?_cons] at hhead
    simp [hnone] at hhead
  constructor
  · rintro (⟨hmark, -⟩ | ⟨h', hline, hrest, hsays⟩ | ⟨h', hline, hsays⟩)
    · rw [header_marked hmark] at h
      cases h
    · obtain ⟨rfl, rfl⟩ := List.cons.inj (h.symm.trans h')
      rw [excludes_cons_of_runOn hline hrest, verdict?, headerLine_constraint hline]
      exact hsays
    · obtain ⟨rfl, rfl⟩ := List.cons.inj (h.symm.trans h')
      simp [verdict?, hline, hsays]
  · intro hsays
    cases hline : headerLine line with
    | stop => exact absurd (by simp [verdict?, hline]) hverdict
    | other => exact absurd (by simp [verdict?, hline]) hverdict
    | constraint expr =>
      obtain ⟨rest, htrim, rfl⟩ := exists_of_headerLine_constraint hline
      have hvalue : verdict? line = some (decide (trim rest = "ignore".toList)) := by
        rw [verdict?, hline]
      rw [hvalue, Option.getD_some] at hsays
      cases hrest : rest.head?.all isBlank with
      | true =>
        have hconstraint := constraint?_eq_some_iff.2 ⟨rest, htrim, hrest, rfl⟩
        exact absurd (excludes_cons_of_constraint? hconstraint after).symm hsays
      | false =>
        rw [excludes_cons_of_runOn htrim hrest] at hsays
        exact .runOn h htrim hrest hsays
    | legacy expr =>
      obtain rfl : expr = "ignore".toList := by
        by_contra hexpr
        exact hverdict (by rw [verdict?, hline]; exact if_neg hexpr)
      refine .overtaken h hline ?_
      simpa [verdict?, hline] using hsays.symm

/-- The first line of the header that settles the matter decides whether a text takes part in no
build. That is as the rule says exactly if the text is not misled. -/
theorem isBuildIgnored_eq_iff (text : List Char) :
    isBuildIgnored text = ((decisive (header text)).head?.bind verdict?).getD false ∧
      (isBuildIgnored text = excludes (header (codeOf text)) ↔ ¬Misled text) := by
  have heq := isBuildIgnored_eq text
  refine ⟨heq, ?_⟩
  rw [heq]
  by_cases hmark : text.head? = some byteOrderMark
  · have hnone : decisive (header text) = [] := by
      rw [header_marked hmark]
      rfl
    rw [hnone]
    constructor
    · rintro hsays (⟨-, hexcludes⟩ | ⟨h, -⟩ | ⟨h, -⟩)
      · rw [hexcludes] at hsays
        cases hsays
      · exact absurd (hnone.symm.trans h) (List.cons_ne_nil _ _).symm
      · exact absurd (hnone.symm.trans h) (List.cons_ne_nil _ _).symm
    · intro hmisled
      by_contra hsays
      exact hmisled (.marked hmark (by simpa using hsays))
  · have hcode : codeOf text = text := by
      rw [codeOf, markOf_eq, if_neg hmark]
      rfl
    rw [hcode, ← excludes_decisive]
    cases hdecisive : decisive (header text) with
    | nil =>
      refine iff_of_true rfl ?_
      rintro (⟨h, -⟩ | ⟨h, -⟩ | ⟨h, -⟩)
      · exact hmark h
      · exact absurd (hdecisive.symm.trans h) (List.cons_ne_nil _ _).symm
      · exact absurd (hdecisive.symm.trans h) (List.cons_ne_nil _ _).symm
    | cons line after =>
      rw [misled_iff_of_decisive hdecisive, not_not]
      rfl

/-- A longer word, a line of the older form in front of a constraint and a byte order mark mislead. -/
theorem isBuildIgnored_misled :
    let longer := "//go:buildignore\npackage p\n".toList
    let twice := "// +build ignore\n//go:build linux\npackage p\n".toList
    let marked := byteOrderMark :: "//go:build ignore\npackage p\n".toList
    isBuildIgnored longer = true ∧ excludes (header (codeOf longer)) = false ∧
      isBuildIgnored twice = true ∧ excludes (header (codeOf twice)) = false ∧
      isBuildIgnored marked = false ∧ excludes (header (codeOf marked)) = true := by
  decide +kernel

end TagSpec.Source
