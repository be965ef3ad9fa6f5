import TagSpec.Proofs.Text.Trimming
import TagSpec.Settings.Loading

/-!
# Settings that make no sense

Which settings are refused, and that nothing else is asked of them: `validate_eq_error_iff`, and
`load_eq_error_iff` for settings that are loaded. Letters beyond ASCII make no difference to levels,
however they are lower-cased: `Config.isLevelWord_eq_lowered`.
-/

namespace TagSpec

namespace Level

/-- A text is the word for the level, in upper or lower case, with blanks around it or without. -/
def IsNamedBy (l : Level) (s : String) : Prop :=
  ∃ before word after : List Char, s.toList = before ++ word ++ after ∧
    (∀ c ∈ before, isBlank c = true) ∧ (∀ c ∈ after, isBlank c = true) ∧
    word.map Char.toLower = l.word.toList

theorem isBlank_word (l : Level) : ∀ c ∈ l.word.toList, isBlank c = false := by
  have hall : l.word.toList.all (fun c => !isBlank c) = true := by cases l <;> decide
  intro c hc
  simpa using List.all_eq_true.1 hall c hc

/-- Nothing in a word for a level is a blank, in whichever case. -/
theorem isBlank_of_map_toLower {l : Level} {cs : List Char}
    (h : cs.map Char.toLower = l.word.toList) : ∀ c ∈ cs, isBlank c = false := by
  intro c hc
  rw [← isBlank_toLower]
  exact isBlank_word l _ (h ▸ List.mem_map_of_mem hc)

/-- A level is named by a text that becomes its word when it is trimmed and put in lower case. -/
theorem isNamedBy_iff {l : Level} {s : String} :
    l.IsNamedBy s ↔ (trim s.toList).map Char.toLower = l.word.toList := by
  constructor
  · rintro ⟨before, word, after, hs, hbefore, hafter, hword⟩
    rw [hs, trim_append hbefore hafter (isBlank_of_map_toLower hword), hword]
  · intro hword
    obtain ⟨before, hs, hbefore⟩ := exists_trimStart s.toList
    obtain ⟨after, hrest, hafter⟩ := exists_trimEnd (trimStart s.toList)
    refine ⟨before, trim s.toList, after, ?_, hbefore, hafter, hword⟩
    rw [List.append_assoc, trim, ← hrest]
    exact hs

end Level

namespace Settings

/-! ## What makes no sense -/

/-- A text without a character that is not a blank. -/
def IsBlank (s : String) : Prop := ∀ c ∈ s.toList, isBlank c = true

/-- A text that is the word for a level, in upper or lower case, with blanks around it or without. -/
def IsLevel (s : String) : Prop :=
  ∃ (l : Level) (before word after : List Char), s.toList = before ++ word ++ after ∧
    (∀ c ∈ before, isBlank c = true) ∧ (∀ c ∈ after, isBlank c = true) ∧
    word.map Char.toLower = l.word.toList

/-- The level is blank or none that is known. -/
def Logging.IsInvalid (l : Logging) : Prop := IsBlank l.level ∨ ¬IsLevel l.level

/-- One of some patterns is blank. -/
def HasBlank (patterns : List String) : Prop := ∃ pattern ∈ patterns, IsBlank pattern

/-- Settings that make no sense. -/
def Config.IsInvalid (c : Config) : Prop := c.logging.IsInvalid ∨ HasBlank c.generation.files

/-- A text is a level if some level is named by it. -/
theorem isLevel_iff {s : String} : IsLevel s ↔ ∃ l : Level, l.IsNamedBy s := Iff.rfl

namespace Config

theorem isBlankText_iff {s : String} : isBlankText s = true ↔ IsBlank s := List.all_eq_true

theorem mem_levelWords_iff {w : String} : w ∈ levelWords ↔ ∃ l : Level, l.word = w := by
  constructor
  · intro h
    obtain ⟨l, -, rfl⟩ := List.mem_map.1 h
    exact ⟨l, rfl⟩
  · rintro ⟨l, rfl⟩
    cases l <;> decide

/-- The check of a level accepts the texts that name one. -/
theorem isLevelWord_iff {s : String} : isLevelWord s = true ↔ IsLevel s := by
  simp only [isLevelWord, List.any_eq_true, mem_levelWords_iff, beq_iff_eq, isLevel_iff,
    Level.isNamedBy_iff]
  constructor
  · rintro ⟨_, ⟨l, rfl⟩, hword⟩
    exact ⟨l, hword.symm⟩
  · rintro ⟨l, hword⟩
    exact ⟨_, ⟨l, rfl⟩, hword.symm⟩

theorem any_isBlankText_iff {patterns : List String} :
    patterns.any isBlankText = true ↔ HasBlank patterns := by
  simp only [List.any_eq_true, isBlankText_iff, HasBlank]

instance (l : Logging) : Decidable l.IsInvalid :=
  decidable_of_iff (isBlankText l.level = true ∨ ¬isLevelWord l.level = true) (by
    rw [isBlankText_iff, isLevelWord_iff, Logging.IsInvalid])

instance (patterns : List String) : Decidable (HasBlank patterns) :=
  decidable_of_iff _ any_isBlankText_iff

instance (c : Config) : Decidable c.IsInvalid := inferInstanceAs (Decidable (_ ∨ _))

/-- Settings are refused exactly if they make no sense. -/
theorem validate_eq_error_iff {c : Config} : (∃ fault, c.validate = .error fault) ↔ c.IsInvalid := by
  unfold validate IsInvalid Logging.IsInvalid
  simp only [Bool.not_eq_true', ← isBlankText_iff, ← isLevelWord_iff, ← any_isBlankText_iff]
  split
  · next h => simp [h]
  · next hblank =>
    split
    · next h => simp [h]
    · next hlevel =>
      split
      · next h => simp [h]
      · next hfiles => simp_all

end Config

/-! ## Lower case beyond ASCII -/

/-- What lower-casing texts by the rules of Unicode comes to for words of ASCII: a text of ASCII
becomes what it becomes in ASCII, and any other keeps a character beyond ASCII or has a small k, which
is what becomes of the sign for the kelvin. -/
structure LowerCases (lower : List Char → List Char) : Prop where
  plain : ∀ cs, (∀ c ∈ cs, c.toNat < 0x80) → lower cs = cs.map Char.toLower
  beyond : ∀ cs, (∃ c ∈ cs, 0x80 ≤ c.toNat) → ∃ d ∈ lower cs, 0x80 ≤ d.toNat ∨ d = 'k'

theorem toLower_of_beyond {c : Char} (h : 0x80 ≤ c.toNat) : c.toLower = c := by
  refine dif_neg fun hupper => ?_
  have hle : c.toNat ≤ 90 := UInt32.le_iff_toNat_le.1 hupper.2
  omega

/-- Keys are lower-cased like that. -/
theorem lowerCases_key : LowerCases (List.map Environment.lowerKeyChar) where
  plain cs h := by
    refine List.map_congr_left fun c hc => if_neg ?_
    rintro rfl
    exact absurd (h _ hc) (by decide)
  beyond cs := by
    rintro ⟨c, hc, hbeyond⟩
    refine ⟨_, List.mem_map_of_mem hc, ?_⟩
    unfold Environment.lowerKeyChar
    split
    · exact .inr rfl
    · rw [toLower_of_beyond hbeyond]
      exact .inl hbeyond

/-- For a word of ASCII without a k, it makes no difference which letters beyond ASCII are
lower-cased. -/
theorem LowerCases.eq_iff {lower : List Char → List Char} (h : LowerCases lower) {cs word : List Char}
    (hword : ∀ c ∈ word, c.toNat < 0x80 ∧ c ≠ 'k') :
    lower cs = word ↔ cs.map Char.toLower = word := by
  by_cases hplain : ∀ c ∈ cs, c.toNat < 0x80
  · rw [h.plain cs hplain]
  · have hexists : ∃ c ∈ cs, 0x80 ≤ c.toNat := by simpa using hplain
    obtain ⟨c, hc, hbeyond⟩ := hexists
    obtain ⟨d, hd, hforeign⟩ := h.beyond cs ⟨c, hc, hbeyond⟩
    constructor
    · rintro rfl
      rcases hforeign with hforeign | rfl
      · exact absurd (hword d hd).1 (Nat.not_lt.2 hforeign)
      · exact absurd rfl (hword _ hd).2
    · rintro rfl
      have hmem : c ∈ cs.map Char.toLower :=
        toLower_of_beyond hbeyond ▸ List.mem_map_of_mem hc
      exact absurd (hword c hmem).1 (Nat.not_lt.2 hbeyond)

/-- The words for levels are recognized alike by any such reader. -/
theorem Config.isLevelWord_eq_lowered {lower : List Char → List Char} (h : LowerCases lower)
    (s : String) :
    isLevelWord s = levelWords.any fun w => w.toList == lower (trim s.toList) := by
  refine Bool.eq_iff_iff.2 ?_
  simp only [isLevelWord, List.any_eq_true, mem_levelWords_iff, beq_iff_eq]
  refine exists_congr fun w => and_congr_right ?_
  rintro ⟨l, rfl⟩
  have hall : l.word.toList.all (fun c => c.toNat < 0x80 ∧ c ≠ 'k') = true := by cases l <;> decide
  have hword : ∀ c ∈ l.word.toList, c.toNat < 0x80 ∧ c ≠ 'k' := by
    simpa using List.all_eq_true.1 hall
  rw [eq_comm, ← h.eq_iff hword, eq_comm]

section Loading

variable {t : Files.Tree} {path : Option String} {environment : List (String × String)} {c : Config}
  (h : extract t path environment = .ok c)
include h

/-- Settings that can be read are loaded unless they are refused. -/
theorem load_eq : load t path environment =
    match c.validate with
    | .ok _ => .ok c
    | .error fault => .error (.invalid fault) := by
  unfold load
  rw [h]
  show (c.validate.mapError LoadFault.invalid >>= fun _ => pure c) = _
  cases c.validate <;> rfl

/-- Settings are refused for a fault exactly if they make no sense. -/
theorem load_eq_error_iff :
    (∃ fault, load t path environment = .error (.invalid fault)) ↔ c.IsInvalid := by
  rw [← Config.validate_eq_error_iff, load_eq h]
  cases c.validate <;> simp

/-- Settings that make sense are loaded. -/
theorem load_eq_ok (hvalid : ¬c.IsInvalid) : load t path environment = .ok c := by
  rw [← Config.validate_eq_error_iff] at hvalid
  rw [load_eq h]
  cases hvalidate : c.validate with
  | ok _ => rfl
  | error fault => exact absurd ⟨fault, hvalidate⟩ hvalid

end Loading

end Settings

end TagSpec
