import TagSpec.Names
import TagSpec.Proofs.Outcomes
import TagSpec.Proofs.Regex.Enclosing
import TagSpec.Proofs.Regex.Ordering

/-!
# Rules for whole names

A rule is anchored by its text: it is put in a group between the anchors and read again. What was read
of the rule is found there if the rule closes no group but its own, does not end in a comment and
leaves room for the anchors. Main statement: `ofPatterns_wholeName`.
-/

namespace TagSpec.NameMatcher

open Regex

/-! ## Between the anchors -/

/-- What is around a rule between the anchors. -/
def anchors : Around := ⟨[Flags.initial.caret], [], .initial, false⟩

/-- The pattern of a whole text. -/
def wholePattern (p : Pattern) : Pattern := .seq (.look .textStart) (.seq p (.look .textEnd))

/-- A part between the anchors: each of them is one state more, and the group around it is none. -/
def wholeItem (i : Item) : Item :=
  ⟨wholePattern i.pattern, i.depth + 2, i.cost + 2 * stateSize, true⟩

theorem anchored_eq (rule : List Char) :
    anchored rule = '^' :: '(' :: '?' :: ':' :: (rule ++ [')', '$']) := by
  simp [anchored]

/-- Behind the opening of the group the rule is read within the anchors. -/
theorem readParts_anchored (rule : List Char) :
    readParts ((anchored rule).length + 1) .start (anchored rule) =
      readParts (rule.length + 5) (Progress.start.within anchors) (rule ++ [')', '$']) := by
  have hlength : (anchored rule).length + 1 = rule.length + 5 + 1 + 1 := by
    simp [anchored]
  rw [hlength, anchored_eq]
  rfl

/-- Behind the group only the second anchor is left. -/
theorem readParts_dollar (i : Item) (names : List (List Char)) (n : Nat) :
    readParts (n + 2) ⟨[], i.grouped anchors.captures :: anchors.items, anchors.branches,
      anchors.flags, names⟩ ['$'] = .ok (wholeItem i) := by
  have hread : readParts (n + 2) ⟨[], i.grouped anchors.captures :: anchors.items,
      anchors.branches, anchors.flags, names⟩ ['$'] =
        .ok ⟨wholePattern i.pattern, 1 + max (max (max 0 0) (i.depth + 1)) 0,
          0 + stateSize + i.cost + stateSize, true⟩ := rfl
  rw [hread, wholeItem]
  congr 2 <;> omega

/-- Whether a part is neither too deep nor too large for a pattern. -/
def fits (i : Item) : Bool := i.depth ≤ depthLimit && i.programSize ≤ costLimit

/-- What is wrong with a text that writes no pattern. -/
def fault? (text : List Char) : Option Fault :=
  match parse text with
  | .ok _ => none
  | .error fault => some fault

/-- A rule keeps its meaning between the anchors. -/
structure KeepsMeaning (rule : List Char) : Prop where
  /-- The rule closes no group that it has not opened. -/
  balanced : fault? rule ≠ some .unopenedGroup
  /-- The rule does not end in a comment, where a parenthesis would change nothing. -/
  uncommented : isValid rule = true → isValid (rule ++ [')']) = false
  /-- The rule leaves room for the anchors. -/
  small : (readParts (rule.length + 1) .start rule).toOption.all
    fun i => !fits i || fits (wholeItem i)

instance (rule : List Char) : Decidable (KeepsMeaning rule) :=
  decidable_of_iff (fault? rule ≠ some .unopenedGroup ∧
      (isValid rule = true → isValid (rule ++ [')']) = false) ∧
      (readParts (rule.length + 1) .start rule).toOption.all fun i => !fits i || fits (wholeItem i))
    ⟨fun ⟨hb, hu, hs⟩ => ⟨hb, hu, hs⟩, fun ⟨hb, hu, hs⟩ => ⟨hb, hu, hs⟩⟩

/-- A text is valid exactly if it writes some pattern. -/
theorem isValid_iff {text : List Char} : isValid text = true ↔ ∃ p, parse text = .ok p := by
  unfold isValid
  cases parse text with
  | error e => simp [Except.isOk, Except.toBool]
  | ok p => simp [Except.isOk, Except.toBool]

theorem fits_iff {i : Item} :
    fits i = true ↔ i.depth ≤ depthLimit ∧ i.programSize ≤ costLimit := by
  simp [fits]

/-- The anchors make a program larger. -/
theorem programSize_le_wholeItem (i : Item) : i.programSize ≤ (wholeItem i).programSize := by
  simp only [Item.programSize, Item.size, wholeItem]
  omega

/-- What fits between the anchors fits without them. -/
theorem fits_of_wholeItem {i : Item} (h : fits (wholeItem i) = true) : fits i = true := by
  obtain ⟨hdepth, hcost⟩ := fits_iff.1 h
  exact fits_iff.2 ⟨Nat.le_of_add_right_le hdepth, Nat.le_trans (programSize_le_wholeItem i) hcost⟩

/-- A text of which a part can be read writes the pattern of that part, if the part fits. -/
theorem parse_of_read {text : List Char} {i : Item}
    (h : readParts (text.length + 1) .start text = .ok i) (q : Pattern) :
    parse text = .ok q ↔ fits i = true ∧ q = i.pattern := by
  rw [parse_eq_ok_iff, h, fits_iff]
  constructor
  · rintro ⟨_, ⟨⟩, hdepth, hcost, rfl⟩
    exact ⟨⟨hdepth, hcost⟩, rfl⟩
  · rintro ⟨⟨hdepth, hcost⟩, rfl⟩
    exact ⟨i, rfl, hdepth, hcost, rfl⟩

theorem not_parse_of_read {text : List Char} {e : Fault}
    (h : readParts (text.length + 1) .start text = .error e) (q : Pattern) : parse text ≠ .ok q := by
  intro hq
  obtain ⟨i, hi, -⟩ := parse_eq_ok_iff.1 hq
  rw [h] at hi
  cases hi

/-- A rule that ends in a comment writes the same with a parenthesis behind it. -/
theorem isValid_of_endsInComment {rule : List Char} {i : Item} (h : EndsInComment .start rule i)
    (hi : fits i = true) : isValid (rule ++ [')']) = true := by
  have hlength : rule.length < (rule ++ [')']).length + 1 := by
    rw [List.length_append]
    omega
  have hread := h.alone _ hlength
  exact isValid_iff.2 ⟨i.pattern, (parse_of_read hread _).2 ⟨hi, rfl⟩⟩

/-- Between the anchors a rule that keeps its meaning writes its own pattern, or none. -/
theorem parse_anchored_iff {rule : List Char} (h : KeepsMeaning rule) (q : Pattern) :
    parse (anchored rule) = .ok q ↔ ∃ p, parse rule = .ok p ∧ q = wholePattern p := by
  have htails : ['$'] ∈ tails := by decide
  have hanchored := readParts_anchored rule
  cases hread : readParts (rule.length + 1) .start rule with
  | error e =>
    have hfault : e ≠ .unopenedGroup := by
      rintro rfl
      exact h.balanced (by simp [fault?, parse, hread, bind, Except.bind])
    obtain ⟨e', he'⟩ := readParts_within_error hread (Nat.lt_succ_self _) hfault htails anchors
      (rule.length + 5)
    rw [he'] at hanchored
    refine iff_of_false (not_parse_of_read hanchored q) ?_
    rintro ⟨p, hp, -⟩
    exact not_parse_of_read hread p hp
  | ok i =>
    simp only [parse_of_read hread]
    rcases readParts_within_ok hread with hgroup | hcomment
    · obtain ⟨k, names, hk, hclosed⟩ := hgroup ['$'] htails anchors (rule.length + 5) (by simp)
      rw [List.length_singleton] at hk
      obtain ⟨n, rfl⟩ : ∃ n, k = n + 2 := ⟨k - 2, by omega⟩
      rw [hclosed, readParts_dollar] at hanchored
      have hsmall : fits i = true → fits (wholeItem i) = true := by
        simpa [hread, Except.toOption, imp_iff_not_or] using h.small
      rw [parse_of_read hanchored]
      constructor
      · rintro ⟨hfits, rfl⟩
        exact ⟨i.pattern, ⟨fits_of_wholeItem hfits, rfl⟩, rfl⟩
      · rintro ⟨_, ⟨hfits, rfl⟩, rfl⟩
        exact ⟨hsmall hfits, rfl⟩
    · obtain ⟨e, he⟩ := hcomment.open_group ['$'] htails anchors (rule.length + 5)
      rw [he] at hanchored
      refine iff_of_false (not_parse_of_read hanchored q) ?_
      rintro ⟨p, ⟨hfits, rfl⟩, -⟩
      have hvalid := isValid_iff.2 ⟨i.pattern, (parse_of_read hread _).2 ⟨hfits, rfl⟩⟩
      exact absurd (isValid_of_endsInComment hcomment hfits) (by simp [h.uncommented hvalid])

/-! ## Whole names -/

/-- A pattern between the anchors is found exactly if it matches all of a text. -/
theorem isMatch_wholePattern {p : Pattern} (hp : p.Ordered) (text : List Char) :
    (wholePattern p).isMatch text = true ↔ p.Matches text.toArray 0 text.length := by
  have hordered : (wholePattern p).Ordered := ⟨trivial, hp, trivial⟩
  rw [Pattern.isMatch_iff hordered]
  constructor
  · rintro ⟨_, j, hi, i, ⟨hstart, rfl⟩, _, hmatch, hend, rfl⟩
    have hzero : i = 0 := by
      cases i with
      | zero => rfl
      | succ n => simp [Look.holds, charBefore, Nat.lt_of_succ_le hi] at hstart
    subst hzero
    have hj : text.length ≤ j := by simpa [Look.holds] using hend
    have hbounds := hmatch.bounds.2
    rw [List.size_toArray] at hbounds
    obtain rfl : j = text.length := by omega
    exact hmatch
  · intro h
    refine ⟨0, text.length, Nat.zero_le _, 0, ⟨rfl, rfl⟩, text.length, h, ?_, rfl⟩
    simp [Look.holds]

/-- The text is a pattern by itself and matches all of a name. -/
def WritesMatch (rule name : String) : Prop :=
  ∃ p, parse rule.toList = .ok p ∧ p.Matches name.toList.toArray 0 name.toList.length

theorem pattern_eq_ok_iff {rule : String} {q : Pattern} :
    pattern rule = .ok q ↔ parse (anchored rule.toList) = .ok q := by
  unfold pattern
  cases parse (anchored rule.toList) <;> simp

/-- What a rule for names matches. -/
theorem pattern_matches_iff {rule : String} (h : KeepsMeaning rule.toList) (name : String) :
    (∃ q, pattern rule = .ok q ∧ q.isMatch name.toList = true) ↔ WritesMatch rule name := by
  simp only [pattern_eq_ok_iff, parse_anchored_iff h]
  constructor
  · rintro ⟨_, ⟨p, hp, rfl⟩, hmatch⟩
    exact ⟨p, hp, (isMatch_wholePattern (parse_ordered hp) _).1 hmatch⟩
  · rintro ⟨p, hp, hmatch⟩
    exact ⟨_, ⟨p, hp, rfl⟩, (isMatch_wholePattern (parse_ordered hp) _).2 hmatch⟩

/-- A rule that keeps its meaning is accepted exactly if it is a pattern by itself. -/
theorem pattern_isOk_iff {rule : String} (h : KeepsMeaning rule.toList) :
    (∃ q, pattern rule = .ok q) ↔ isValid rule.toList = true := by
  simp only [pattern_eq_ok_iff, parse_anchored_iff h, isValid_iff]
  constructor
  · rintro ⟨_, p, hp, -⟩
    exact ⟨p, hp⟩
  · rintro ⟨p, hp⟩
    exact ⟨_, p, hp, rfl⟩

/-- Rules are accepted exactly if each of them is, and then each has its pattern. -/
theorem ofPatterns_eq_ok_iff {rules : List String} {m : NameMatcher} :
    ofPatterns rules = .ok m ↔
      ∃ ps, List.Forall₂ (fun rule q => pattern rule = .ok q) rules ps ∧ m = .patterns ps := by
  simp only [ofPatterns, map_eq_ok_iff, mapM_eq_ok_iff]

theorem exists_mem_of_forall₂ {α β ε : Type} {f : α → Except ε β} {as : List α} {bs : List β}
    (h : List.Forall₂ (fun a b => f a = .ok b) as bs) (S : β → Prop) :
    (∃ b ∈ bs, S b) ↔ ∃ a ∈ as, ∃ b, f a = .ok b ∧ S b := by
  induction h with
  | nil => simp
  | cons hab _ ih => simp [hab, ih]

/-- Rules that keep their meaning: they are accepted exactly if each of them is a pattern by itself,
and then they match the names of which one of them matches all. -/
theorem ofPatterns_wholeName (rules : List String) (h : ∀ rule ∈ rules, KeepsMeaning rule.toList) :
    ((∃ m, ofPatterns rules = .ok m) ↔ ∀ rule ∈ rules, isValid rule.toList = true) ∧
    (∀ m, ofPatterns rules = .ok m → ∀ name,
      m.isMatch name = true ↔ ∃ rule ∈ rules, WritesMatch rule name) ∧
    ∀ rule ∈ rules, isValid (anchored rule.toList) = isValid rule.toList := by
  refine ⟨?_, fun m hm name => ?_, fun rule hrule => ?_⟩
  · simp only [ofPatterns_eq_ok_iff]
    calc (∃ m ps, List.Forall₂ (fun rule q => pattern rule = .ok q) rules ps ∧
          m = NameMatcher.patterns ps)
        ↔ ∃ ps, List.Forall₂ (fun rule q => pattern rule = .ok q) rules ps :=
          ⟨fun ⟨_, ps, hps, _⟩ => ⟨ps, hps⟩, fun ⟨ps, hps⟩ => ⟨_, ps, hps, rfl⟩⟩
      _ ↔ ∀ rule ∈ rules, ∃ q, pattern rule = .ok q := exists_forall₂_iff
      _ ↔ ∀ rule ∈ rules, isValid rule.toList = true :=
          forall₂_congr fun rule hrule => pattern_isOk_iff (h rule hrule)
  · obtain ⟨ps, hps, rfl⟩ := ofPatterns_eq_ok_iff.1 hm
    calc (NameMatcher.patterns ps).isMatch name = true
        ↔ ∃ q ∈ ps, q.isMatch name.toList = true := List.any_eq_true
      _ ↔ ∃ rule ∈ rules, ∃ q, pattern rule = .ok q ∧ q.isMatch name.toList = true :=
          exists_mem_of_forall₂ hps _
      _ ↔ ∃ rule ∈ rules, WritesMatch rule name :=
          exists_congr fun rule => and_congr_right fun hrule =>
            pattern_matches_iff (h rule hrule) name
  · rw [Bool.eq_iff_iff, ← pattern_isOk_iff (h rule hrule), isValid_iff]
    simp only [pattern_eq_ok_iff]

/-- The rules of a filter with alternatives, flags and classes. -/
theorem ofPatterns_wholeName_flags :
    (∀ rule ∈ ["User|Order", "(?i)x[a-c]+ # y"], KeepsMeaning rule.toList) ∧
      ∃ m, ofPatterns ["User|Order", "(?i)x[a-c]+ # y"] = .ok m ∧
        (m.isMatch "Order" = true ↔
          ∃ rule ∈ ["User|Order", "(?i)x[a-c]+ # y"], WritesMatch rule "Order") := by
  have hrules : ∀ rule ∈ ["User|Order", "(?i)x[a-c]+ # y"], KeepsMeaning rule.toList := by
    decide +kernel
  obtain ⟨haccepted, hmatch, -⟩ := ofPatterns_wholeName _ hrules
  obtain ⟨m, hm⟩ := haccepted.2 (by decide +kernel)
  exact ⟨hrules, m, hm, hmatch m hm "Order"⟩

/-- A rule that closes the group around it is accepted though it is no pattern, and matches parts of
names; one that ends in a comment is refused though it is a pattern. -/
theorem ofPatterns_by_text :
    isValid "a)|(?:b".toList = false ∧
      (ofPatterns ["a)|(?:b"]).toOption.map (·.isMatch "ax") = some true ∧
      isValid "(?x)a # c".toList = true ∧ (ofPatterns ["(?x)a # c"]).isOk = false := by
  decide +kernel

end TagSpec.NameMatcher
