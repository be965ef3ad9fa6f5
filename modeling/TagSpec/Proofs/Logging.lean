import TagSpec.Logging
import TagSpec.Proofs.Settings.Validation
import TagSpec.Proofs.Text.Digits

/-!
# Levels of the settings

Two readers look at the level of the settings: one that accepts settings, and one that decides what is
logged. The first passes over blanks around the word for a level and the second does not, so that a
level that was accepted counts exactly if there are none around it: `level_exact`.
-/

namespace TagSpec

-- ---------------------------------------------------------------------------
-- Words and numbers for levels
-- ---------------------------------------------------------------------------

namespace Level

theorem word_injective : Function.Injective word := by
  intro l l' h
  revert h
  cases l <;> cases l' <;> decide

theorem rank_injective : Function.Injective rank := by
  intro l l' h
  revert h
  cases l <;> cases l' <;> decide

/-- What tells levels apart finds the only level that has it. -/
theorem find?_all_eq_some_iff {α : Type} [DecidableEq α] {f : Level → α}
    (hf : Function.Injective f) {a : α} {l : Level} :
    (all.find? fun l => f l = a) = some l ↔ f l = a := by
  constructor
  · intro h
    simpa using List.find?_some h
  · rintro rfl
    simp only [hf.eq_iff]
    cases l <;> rfl

/-- Letters of words for levels are letters in either case. -/
theorem not_digit_of_toLower {l : Level} {c : Char} (h : c.toLower ∈ l.word.toList) :
    isDigit c = false ∧ c ≠ '+' := by
  have hall : l.word.toList.all (fun c => 'a' ≤ c) = true := by cases l <;> decide
  have hlow : 'a' ≤ c.toLower := by simpa using List.all_eq_true.1 hall _ h
  refine ⟨Bool.eq_false_iff.2 fun hdigit => ?_, ?_⟩
  · simp only [isDigit, Bool.and_eq_true, decide_eq_true_eq] at hdigit
    have hsame : c.toLower = c := by
      refine dif_neg fun hupper => ?_
      exact absurd (UInt32.le_trans hupper.1 hdigit.2) (by decide)
    rw [hsame] at hlow
    exact absurd (UInt32.le_trans hlow hdigit.2) (by decide)
  · rintro rfl
    exact absurd hlow (by decide)

theorem word_ne_nil (l : Level) : l.word.toList ≠ [] := by cases l <;> decide

/-- A text with the word for a level in it is no number. -/
theorem IsNamedBy.unsigned?_eq_none {l : Level} {s : String} (h : l.IsNamedBy s) :
    unsigned? s.toList = none := by
  obtain ⟨before, word, after, hs, -, -, hword⟩ := h
  cases word with
  | nil => exact absurd hword.symm (word_ne_nil l)
  | cons c word =>
    have hletter : c.toLower ∈ l.word.toList := hword ▸ List.mem_cons_self
    obtain ⟨hdigit, hplus⟩ := not_digit_of_toLower hletter
    exact TagSpec.unsigned?_eq_none (by simp [hs]) hdigit hplus

/-- What stands for a level is its word in upper or lower case, without blanks, or the number of its
rank. -/
theorem parse?_eq_some_iff {s : String} {l : Level} :
    parse? s = some l ↔
      s.toList.map Char.toLower = l.word.toList ∨ unsigned? s.toList = some l.rank := by
  unfold parse?
  split
  · next n hn =>
    have hnot : s.toList.map Char.toLower ≠ l.word.toList := by
      intro h
      have hnamed : l.IsNamedBy s := ⟨[], s.toList, [], by simp, nofun, nofun, h⟩
      exact nomatch hn.symm.trans hnamed.unsigned?_eq_none
    rw [find?_all_eq_some_iff rank_injective, hn]
    simp [hnot, eq_comm]
  · next hn =>
    have hinjective : Function.Injective fun l : Level => l.word.toList :=
      fun _ _ h => word_injective (String.toList_inj.1 h)
    rw [find?_all_eq_some_iff hinjective, hn]
    simp [eq_comm]

/-- A text names one level at most. -/
theorem IsNamedBy.unique {l l' : Level} {s : String} (h : l.IsNamedBy s) (h' : l'.IsNamedBy s) :
    l' = l := by
  rw [isNamedBy_iff] at h h'
  exact word_injective (String.toList_inj.1 (h'.symm.trans h))

/-- A text that names a level stands for it if no blanks are around it, and for none otherwise. -/
theorem IsNamedBy.parse?_eq {l : Level} {s : String} (h : l.IsNamedBy s) :
    parse? s = if trim s.toList = s.toList then some l else none := by
  split
  · next htrim =>
    rw [isNamedBy_iff, htrim] at h
    exact parse?_eq_some_iff.2 (.inl h)
  · next htrim =>
    refine Option.eq_none_iff_forall_ne_some.2 fun l' hl' => ?_
    rcases parse?_eq_some_iff.1 hl' with hword | hnumber
    · have hnone : ∀ c ∈ ([] : List Char), isBlank c = true := nofun
      have hwhole := trim_append hnone hnone (isBlank_of_map_toLower hword)
      rw [List.nil_append, List.append_nil] at hwhole
      exact htrim hwhole
    · rw [h.unsigned?_eq_none] at hnumber
      cases hnumber

end Level

-- ---------------------------------------------------------------------------
-- The level that counts
-- ---------------------------------------------------------------------------

namespace Logging

/-- The level of settings that make sense has a name. -/
theorem isNamedBy_of_validate {c : Settings.Config} (h : c.validate = .ok ()) :
    ∃ l : Level, l.IsNamedBy c.logging.level := by
  have hvalid : ¬c.IsInvalid := by
    rw [← Settings.Config.validate_eq_error_iff, h]
    nofun
  exact Settings.isLevel_iff.1 (not_not.1 fun hlevel => hvalid (.inl (.inr hlevel)))

/-- The level of accepted settings names one level. Where the environment does not say what is logged,
that level is read off the settings, and not the one for want of any, exactly if there are no blanks
around the word for it; it counts in this case, and when it is the one that counts anyway. -/
theorem level_exact {c : Settings.Config} {wish : Option String} (hvalid : c.validate = .ok ())
    (hwish : wish.bind Level.parse? = none) :
    ∃ l : Level, (∀ l' : Level, l'.IsNamedBy c.logging.level ↔ l' = l) ∧
      (Level.parse? c.logging.level =
        if trim c.logging.level.toList = c.logging.level.toList then some l else none) ∧
      (level wish c.logging.level = l ↔
        trim c.logging.level.toList = c.logging.level.toList ∨ l = .warn) := by
  obtain ⟨l, hl⟩ := isNamedBy_of_validate hvalid
  refine ⟨l, fun l' => ⟨hl.unique, fun h => h ▸ hl⟩, hl.parse?_eq, ?_⟩
  have hlevel : level wish c.logging.level =
      if trim c.logging.level.toList = c.logging.level.toList then l else .warn := by
    have hsettings : level wish c.logging.level = (Level.parse? c.logging.level).getD .warn := by
      rw [level, hwish]
    rw [hsettings, hl.parse?_eq]
    split <;> rfl
  rw [hlevel]
  split
  · next htrim => exact iff_of_true rfl (.inl htrim)
  · next htrim =>
    constructor
    · exact fun h => .inr h.symm
    · exact fun h => (h.resolve_left htrim).symm

/-- Settings that ask for a level, and are the usual ones otherwise. -/
def asking (text : String) : Settings.Config := ⟨.default, ⟨text, .pretty⟩⟩

/-- Without blanks, the word for a level counts in upper or lower case, also when the environment says
something else that is no level. -/
theorem level_exact_unspaced :
    (asking "Debug").validate = .ok () ∧ (some "chatty").bind Level.parse? = none ∧
      Level.debug.IsNamedBy "Debug" ∧ level (some "chatty") "Debug" = .debug := by
  have hvalid : (asking "Debug").validate = .ok () := by decide
  have hwish : (some "chatty").bind Level.parse? = none := by decide
  have hnamed : Level.debug.IsNamedBy "Debug" := Level.isNamedBy_iff.2 (by decide)
  obtain ⟨l, hl, -, hlevel⟩ := level_exact hvalid hwish
  obtain rfl : Level.debug = l := (hl _).1 hnamed
  exact ⟨hvalid, hwish, hnamed, hlevel.2 (.inl (by decide))⟩

/-- With blanks it is accepted too, but only warnings and errors are logged. -/
theorem level_of_spaced :
    (asking " debug ").validate = .ok () ∧ Level.debug.IsNamedBy " debug " ∧
      level none " debug " = .warn :=
  ⟨by decide, Level.isNamedBy_iff.2 (by decide), by decide⟩

end Logging

end TagSpec
