import TagSpec.Proofs.Names
import TagSpec.Proofs.Regex.Literals

/-!
# Names as rules

A rule of letters, digits and underscores matches one name, which is the rule itself, whether it is
read as a name or as a pattern. As a pattern it may be too large. Main statement: `modes_agree`.
-/

namespace TagSpec

namespace NameMatcher

open Regex

/-! ## One rule -/

/-- Whether a rule consists of characters of names. It may be empty, and it may begin with a digit. -/
def isPlain (rule : String) : Bool := rule.toList.all Identifier.isTail

/-- A rule that is refused as a pattern because its program takes more bytes than it may. -/
def IsTooLarge (rule : String) : Prop := fault? (anchored rule.toList) = some .tooLarge

instance (rule : String) : Decidable (IsTooLarge rule) :=
  inferInstanceAs (Decidable (fault? _ = some _))

/-- Between the anchors a plain rule is read character by character. -/
theorem readParts_plain {rule : String} (h : isPlain rule = true) :
    readParts ((anchored rule.toList).length + 1) .start (anchored rule.toList) =
      .ok (wholeItem (literal rule.toList)) := by
  have hnames : ∀ c ∈ rule.toList, Identifier.isTail c = true := List.all_eq_true.1 h
  have hitems : (rule.toList.map Flags.initial.char).reverse ++
      (Progress.start.within anchors).items = (rule.toList.map Flags.initial.char).reverse :=
    List.append_nil _
  rw [readParts_anchored, readParts_names 5 rfl hnames, hitems,
    readParts_of_skip_cons (c := ')') (r := ['$']) rfl]
  exact readParts_dollar (literal rule.toList) [] 2

/-- The pattern of a plain rule. -/
def plainPattern (rule : String) : Pattern := wholePattern (literal rule.toList).pattern

/-- The program of a plain rule has a state for each byte, one for each anchor, and those around every
pattern. -/
theorem programSize_plain (rule : String) :
    (wholeItem (literal rule.toList)).programSize =
      stateSize * (Utf8.byteLength rule.toList + 6) := by
  simp only [Item.programSize, Item.size, wholeItem, cost_literal, frameSize, stateSize]
  omega

/-- Between the anchors a plain rule writes its pattern, unless its program is too large. -/
theorem parse_plain {rule : String} (h : isPlain rule = true) :
    parse (anchored rule.toList) =
      if costLimit < stateSize * (Utf8.byteLength rule.toList + 6) then .error .tooLarge
      else .ok (plainPattern rule) := by
  have hdepth : ¬ depthLimit < (wholeItem (literal rule.toList)).depth := by
    have hflat := depth_literal rule.toList
    simp only [wholeItem, depthLimit]
    omega
  rw [parse, readParts_plain h, ← programSize_plain]
  exact if_neg hdepth

/-- A plain rule is too large when its bytes take more states than there may be. -/
theorem isTooLarge_iff {rule : String} (h : isPlain rule = true) :
    IsTooLarge rule ↔ costLimit < stateSize * (Utf8.byteLength rule.toList + 6) := by
  rw [IsTooLarge, fault?, parse_plain h]
  by_cases hlimit : costLimit < stateSize * (Utf8.byteLength rule.toList + 6)
  · simp [hlimit]
  · simp [hlimit]

/-- A plain rule is a pattern unless it is too large. -/
theorem pattern_plain {rule : String} (h : isPlain rule = true) :
    pattern rule =
      if IsTooLarge rule then .error ⟨rule, .tooLarge⟩ else .ok (plainPattern rule) := by
  rw [pattern, parse_plain h]
  by_cases hlimit : costLimit < stateSize * (Utf8.byteLength rule.toList + 6)
  · rw [if_pos hlimit, if_pos ((isTooLarge_iff h).2 hlimit)]
  · rw [if_neg hlimit, if_neg (hlimit ∘ (isTooLarge_iff h).1)]

theorem pattern_plain_iff {rule : String} (h : isPlain rule = true) (q : Pattern) :
    pattern rule = .ok q ↔ ¬ IsTooLarge rule ∧ q = plainPattern rule := by
  rw [pattern_plain h]
  by_cases hlarge : IsTooLarge rule
  · simp [hlarge]
  · simp [hlarge, eq_comm]

/-- Nothing but its size is wrong with a plain rule. -/
theorem pattern_plain_eq_error_iff {rule : String} (h : isPlain rule = true) {b : BadRule} :
    pattern rule = .error b ↔ IsTooLarge rule ∧ b = ⟨rule, .tooLarge⟩ := by
  rw [pattern_plain h]
  by_cases hlarge : IsTooLarge rule
  · simp [hlarge, eq_comm]
  · simp [hlarge]

/-- As a pattern it matches itself and nothing else. -/
theorem isMatch_plainPattern (rule name : String) :
    (plainPattern rule).isMatch name.toList = true ↔ name = rule := by
  rw [plainPattern, isMatch_wholePattern (ordered_literal _), matches_literal,
    spells_rest (Nat.zero_le _), List.drop_zero, String.toList_inj]

/-! ## Lists of rules -/

/-- All rules are patterns exactly if none of them is too large. -/
theorem forall₂_pattern_iff {rules : List String} (h : ∀ rule ∈ rules, isPlain rule = true)
    {ps : List Pattern} :
    List.Forall₂ (fun rule q => pattern rule = .ok q) rules ps ↔
      (∀ rule ∈ rules, ¬ IsTooLarge rule) ∧ ps = rules.map plainPattern := by
  induction rules generalizing ps with
  | nil => simp
  | cons rule rules ih =>
    obtain ⟨hrule, hrules⟩ := List.forall_mem_cons.1 h
    rw [List.forall₂_cons_left_iff, List.forall_mem_cons, List.map_cons]
    constructor
    · rintro ⟨q, qs, hq, hqs, rfl⟩
      obtain ⟨hsmall, rfl⟩ := (pattern_plain_iff hrule q).1 hq
      obtain ⟨hsmalls, rfl⟩ := (ih hrules).1 hqs
      exact ⟨⟨hsmall, hsmalls⟩, rfl⟩
    · rintro ⟨⟨hsmall, hsmalls⟩, rfl⟩
      exact ⟨_, _, (pattern_plain_iff hrule _).2 ⟨hsmall, rfl⟩, (ih hrules).2 ⟨hsmalls, rfl⟩, rfl⟩

/-- Plain rules are patterns unless one of them is too large. -/
theorem ofPatterns_plain_iff {rules : List String} (h : ∀ rule ∈ rules, isPlain rule = true)
    (m : NameMatcher) :
    ofPatterns rules = .ok m ↔
      (∀ rule ∈ rules, ¬ IsTooLarge rule) ∧ m = .patterns (rules.map plainPattern) := by
  simp only [ofPatterns_eq_ok_iff, forall₂_pattern_iff h]
  constructor
  · rintro ⟨_, ⟨hsmall, rfl⟩, rfl⟩
    exact ⟨hsmall, rfl⟩
  · rintro ⟨hsmall, rfl⟩
    exact ⟨_, ⟨hsmall, rfl⟩, rfl⟩

/-- The rule that is reported is one of them that is too large. -/
theorem ofPatterns_plain_error {rules : List String} (h : ∀ rule ∈ rules, isPlain rule = true)
    {b : BadRule} (hb : ofPatterns rules = .error b) :
    ∃ rule ∈ rules, IsTooLarge rule ∧ b = ⟨rule, .tooLarge⟩ := by
  obtain ⟨front, rule, back, rfl, -, hrule⟩ := mapM_eq_error_iff.1 (map_eq_error_iff.1 hb)
  have hmem : rule ∈ front ++ rule :: back := by simp
  exact ⟨rule, hmem, (pattern_plain_eq_error_iff (h rule hmem)).1 hrule⟩

/-- Read as patterns and read as names, plain rules match the same. -/
theorem isMatch_patterns (rules : List String) :
    (NameMatcher.patterns (rules.map plainPattern)).isMatch = (NameMatcher.names rules).isMatch := by
  funext name
  rw [Bool.eq_iff_iff, isMatch, isMatch, List.any_map, List.any_eq_true, List.contains_iff_mem]
  constructor
  · rintro ⟨rule, hrule, hmatch⟩
    rwa [(isMatch_plainPattern rule name).1 hmatch]
  · intro hname
    exact ⟨name, hname, (isMatch_plainPattern name name).2 rfl⟩

end NameMatcher

/-! ## Filters -/

open NameMatcher

/-- Rules that are read in two ways, or none, with the same meaning. -/
def MatchMode.SameMatches (m m' : Option NameMatcher) : Prop := m.map isMatch = m'.map isMatch

/-- Any rules can be read as names. -/
theorem MatchMode.compile_exact (rules : List String) :
    ∃ m, MatchMode.exact.compile rules = .ok m := by
  unfold compile
  split
  · exact ⟨none, rfl⟩
  · exact ⟨_, rfl⟩

/-- Plain rules can be read as patterns unless one of them is too large. -/
theorem MatchMode.compile_regex_iff {rules : List String}
    (h : ∀ rule ∈ rules, isPlain rule = true) :
    (∃ m, MatchMode.regex.compile rules = .ok m) ↔ ∀ rule ∈ rules, ¬ IsTooLarge rule := by
  unfold compile
  split
  · next hempty => simp [List.isEmpty_iff.1 hempty]
  · simp [map_eq_ok_iff, ofPatterns_plain_iff h]

theorem MatchMode.compile_regex_error {rules : List String}
    (h : ∀ rule ∈ rules, isPlain rule = true) {b : BadRule}
    (hb : MatchMode.regex.compile rules = .error b) :
    ∃ rule ∈ rules, IsTooLarge rule ∧ b = ⟨rule, .tooLarge⟩ := by
  unfold compile at hb
  split at hb
  · cases hb
  · exact ofPatterns_plain_error h (map_eq_error_iff.1 hb)

/-- Rules that can be read as patterns have the same meaning as names. -/
theorem MatchMode.compile_sameMatches {rules : List String}
    (h : ∀ rule ∈ rules, isPlain rule = true) {m m' : Option NameMatcher}
    (hm : MatchMode.regex.compile rules = .ok m) (hm' : MatchMode.exact.compile rules = .ok m') :
    SameMatches m m' := by
  unfold compile at hm hm'
  split at hm
  · next hempty =>
    rw [if_pos hempty] at hm'
    cases hm
    cases hm'
    rfl
  · next hempty =>
    rw [if_neg hempty] at hm'
    obtain ⟨n, hn, rfl⟩ := map_eq_ok_iff.1 hm
    obtain ⟨-, rfl⟩ := (ofPatterns_plain_iff h n).1 hn
    cases hm'
    exact congrArg some (isMatch_patterns rules)

namespace NameFilter

/-- A filter is made of both lists of rules. -/
theorem compile_eq_ok_iff {mode : MatchMode} {included excluded : List String} {f : NameFilter} :
    compile mode included excluded = .ok f ↔
      mode.compile included = .ok f.included ∧ mode.compile excluded = .ok f.excluded := by
  simp only [compile, bind_eq_ok_iff]
  constructor
  · rintro ⟨i, hi, e, he, h⟩
    cases h
    exact ⟨hi, he⟩
  · rintro ⟨hi, he⟩
    exact ⟨_, hi, _, he, rfl⟩

/-- A name passes two filters alike whose rules match the same. -/
theorem accepts_congr {f g : NameFilter} (hi : MatchMode.SameMatches f.included g.included)
    (he : MatchMode.SameMatches f.excluded g.excluded) (name : String) :
    f.accepts name = g.accepts name := by
  have hany (m : Option NameMatcher) :
      m.any (·.isMatch name) = (m.map isMatch).any (· name) := by cases m <;> rfl
  have hall (m : Option NameMatcher) :
      m.all (·.isMatch name) = (m.map isMatch).all (· name) := by cases m <;> rfl
  rw [accepts, accepts, hany, hany, hall, hall, hi, he]

theorem compile_exact (included excluded : List String) :
    ∃ f, compile .exact included excluded = .ok f := by
  obtain ⟨i, hi⟩ := MatchMode.compile_exact included
  obtain ⟨e, he⟩ := MatchMode.compile_exact excluded
  exact ⟨⟨i, e⟩, compile_eq_ok_iff.2 ⟨hi, he⟩⟩

section Plain

variable {included excluded : List String}
  (h : ∀ rule ∈ included ++ excluded, isPlain rule = true)

include h

/-- Lists of plain rules can be read as patterns unless one of the rules is too large. -/
theorem compile_regex_iff :
    (∃ f, compile .regex included excluded = .ok f) ↔
      ∀ rule ∈ included ++ excluded, ¬ IsTooLarge rule := by
  obtain ⟨hincluded, hexcluded⟩ := List.forall_mem_append.1 h
  rw [List.forall_mem_append, ← MatchMode.compile_regex_iff hincluded,
    ← MatchMode.compile_regex_iff hexcluded]
  constructor
  · rintro ⟨f, hf⟩
    obtain ⟨hi, he⟩ := compile_eq_ok_iff.1 hf
    exact ⟨⟨_, hi⟩, _, he⟩
  · rintro ⟨⟨i, hi⟩, e, he⟩
    exact ⟨⟨i, e⟩, compile_eq_ok_iff.2 ⟨hi, he⟩⟩

/-- Plain rules that cannot be read as patterns: one of them is too large, and it is reported. -/
theorem compile_regex_error {b : BadRule} (hb : compile .regex included excluded = .error b) :
    ∃ rule ∈ included ++ excluded, IsTooLarge rule ∧ b = ⟨rule, .tooLarge⟩ := by
  obtain ⟨hincluded, hexcluded⟩ := List.forall_mem_append.1 h
  rcases bind_eq_error_iff.1 hb with hi | ⟨i, -, hrest⟩
  · obtain ⟨rule, hmem, hrule⟩ := MatchMode.compile_regex_error hincluded hi
    exact ⟨rule, List.mem_append_left _ hmem, hrule⟩
  rcases bind_eq_error_iff.1 hrest with he | ⟨e, -, hpure⟩
  · obtain ⟨rule, hmem, hrule⟩ := MatchMode.compile_regex_error hexcluded he
    exact ⟨rule, List.mem_append_right _ hmem, hrule⟩
  · cases hpure

/-- Read in either way, plain rules let the same names pass. -/
theorem accepts_of_compile {f g : NameFilter} (hf : compile .regex included excluded = .ok f)
    (hg : compile .exact included excluded = .ok g) (name : String) :
    f.accepts name = g.accepts name := by
  obtain ⟨hincluded, hexcluded⟩ := List.forall_mem_append.1 h
  obtain ⟨hi, he⟩ := compile_eq_ok_iff.1 hf
  obtain ⟨hi', he'⟩ := compile_eq_ok_iff.1 hg
  exact accepts_congr (MatchMode.compile_sameMatches hincluded hi hi')
    (MatchMode.compile_sameMatches hexcluded he he') name

end Plain

/-- Lists of plain rules select the same names and structs whichever way they are read. As names they
can always be read, and as patterns unless one of them is too large for a pattern, which is
reported then. -/
theorem modes_agree (included excluded : List String)
    (h : ∀ rule ∈ included ++ excluded, isPlain rule = true) :
    (∃ f, compile .exact included excluded = .ok f) ∧
      ((∃ f, compile .regex included excluded = .ok f) ↔
        ∀ rule ∈ included ++ excluded, ¬ IsTooLarge rule) ∧
      (∀ b, compile .regex included excluded = .error b →
        ∃ rule ∈ included ++ excluded, IsTooLarge rule ∧ b = ⟨rule, .tooLarge⟩) ∧
      ∀ f g, compile .regex included excluded = .ok f → compile .exact included excluded = .ok g →
        (∀ name, f.accepts name = g.accepts name) ∧ ∀ structs, f.kept structs = g.kept structs := by
  refine ⟨compile_exact _ _, compile_regex_iff h, fun b => compile_regex_error h, ?_⟩
  intro f g hf hg
  have haccepts := accepts_of_compile h hf hg
  exact ⟨haccepts, fun structs => by simp only [kept, haccepts]⟩

/-- A name that passes, although it begins with a rule that excludes, and one that does not because it
ends in a line break. -/
theorem modes_agree_lineBreak :
    (∀ rule ∈ ["User_1", "", "Item"] ++ ["User"], isPlain rule = true) ∧
      ∃ f g, compile .regex ["User_1", "", "Item"] ["User"] = .ok f ∧
        compile .exact ["User_1", "", "Item"] ["User"] = .ok g ∧
        f.accepts "User_1" = true ∧ f.accepts "User_1\n" = false := by
  have hplain : ∀ rule ∈ ["User_1", "", "Item"] ++ ["User"], isPlain rule = true := by
    decide +kernel
  obtain ⟨⟨g, hg⟩, hregex, -, hagree⟩ := modes_agree _ _ hplain
  obtain ⟨f, hf⟩ := hregex.2 (by decide +kernel)
  obtain ⟨haccepts, -⟩ := hagree f g hf hg
  refine ⟨hplain, f, g, hf, hg, ?_, ?_⟩
  · rw [haccepts]
    cases hg
    decide +kernel
  · rw [haccepts]
    cases hg
    decide +kernel

theorem byteLength_replicate (n : Nat) : Utf8.byteLength (List.replicate n 'a') = n := by
  rw [Utf8.byteLength, ← List.sum_eq_foldl_nat, List.map_replicate, List.sum_replicate_nat]
  exact Nat.mul_one n

/-- The rule that is a letter a number of times. -/
def manyLetters (n : Nat) : String := String.ofList (List.replicate n 'a')

theorem isPlain_manyLetters (n : Nat) : isPlain (manyLetters n) = true := by
  have ha : Identifier.isTail 'a' = true := by decide +kernel
  rw [isPlain, manyLetters, String.toList_ofList, List.all_eq_true]
  intro c hc
  rwa [(List.mem_replicate.1 hc).2]

theorem isTooLarge_manyLetters_iff {n : Nat} :
    IsTooLarge (manyLetters n) ↔ Regex.costLimit < Regex.stateSize * (n + 6) := by
  rw [isTooLarge_iff (isPlain_manyLetters n), manyLetters, String.toList_ofList,
    byteLength_replicate]

/-- A rule of letters may be too large to be read as a pattern. -/
theorem modes_disagree :
    (∀ rule ∈ [manyLetters 400000], isPlain rule = true) ∧
      (∃ f, compile .exact [manyLetters 400000] [] = .ok f) ∧
      ¬∃ f, compile .regex [manyLetters 400000] [] = .ok f := by
  have hplain : ∀ rule ∈ [manyLetters 400000], isPlain rule = true :=
    List.forall_mem_singleton.2 (isPlain_manyLetters _)
  have hlarge : IsTooLarge (manyLetters 400000) :=
    isTooLarge_manyLetters_iff.2 (by decide)
  refine ⟨hplain, ⟨_, rfl⟩, fun hregex => ?_⟩
  have hsmall : ∀ rule ∈ [manyLetters 400000] ++ [], ¬ IsTooLarge rule :=
    (compile_regex_iff hplain).1 hregex
  exact hsmall _ (List.mem_singleton_self _) hlarge

end NameFilter

end TagSpec
