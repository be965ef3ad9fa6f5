import Mathlib.Data.List.Basic
import TagSpec.Proofs.StringLiteral.Grammar
import TagSpec.Tags.Reading

/-!
# Where a value ends

A value is cut off at the first quote that no backslash escapes. A literal that denotes something
ends at that quote and nowhere else.
-/

namespace TagSpec.Tags

/-- What may stand between two quotes: characters, and backslashes each with the character behind
it. -/
inductive Enclosed : List Char → Prop
  | nil : Enclosed []
  | char {c : Char} {cs : List Char} : c ≠ '"' → c ≠ '\\' → Enclosed cs → Enclosed (c :: cs)
  | escape {c : Char} {cs : List Char} : Enclosed cs → Enclosed ('\\' :: c :: cs)

theorem Enclosed.chars {cs ds : List Char} (hcs : ∀ c ∈ cs, c ≠ '"' ∧ c ≠ '\\')
    (h : Enclosed ds) : Enclosed (cs ++ ds) := by
  induction cs with
  | nil => exact h
  | cons c cs ih =>
    obtain ⟨hq, hb⟩ := hcs c List.mem_cons_self
    exact .char hq hb (ih fun d hd => hcs d (List.mem_cons_of_mem c hd))

/-- A text is cut behind the quote at which what is enclosed ends. -/
theorem cutQuote_of_enclosed {body : List Char} (h : Enclosed body) (rest : List Char) :
    cutQuote (body ++ '"' :: rest) = some (body ++ ['"'], rest) := by
  induction h with
  | nil =>
    rw [List.nil_append, cutQuote.eq_def]
    rfl
  | char hq hb _ ih =>
    rw [List.cons_append, cutQuote.eq_def]
    simp [hq, hb, ih]
  | escape _ ih =>
    rw [List.cons_append, List.cons_append, cutQuote.eq_def]
    simp [ih]

/-- A text is cut exactly if there is a quote at which what is enclosed ends. -/
theorem cutQuote_eq_some_iff {cs quoted rest : List Char} :
    cutQuote cs = some (quoted, rest) ↔
      ∃ body, Enclosed body ∧ quoted = body ++ ['"'] ∧ cs = body ++ '"' :: rest := by
  constructor
  · intro h
    fun_induction cutQuote cs generalizing quoted rest with
    | case1 => cases h
    | case2 cs =>
      cases h
      exact ⟨[], .nil, rfl, rfl⟩
    | case3 => cases h
    | case4 d ds _ ih =>
      obtain ⟨⟨q, r⟩, hq, he⟩ := Option.map_eq_some_iff.1 h
      cases he
      obtain ⟨body, hbody, rfl, rfl⟩ := ih hq
      exact ⟨'\\' :: d :: body, .escape hbody, rfl, rfl⟩
    | case5 c cs hquote hb ih =>
      obtain ⟨⟨q, r⟩, hq, he⟩ := Option.map_eq_some_iff.1 h
      cases he
      obtain ⟨body, hbody, rfl, rfl⟩ := ih hq
      exact ⟨c :: body, .char hquote hb hbody, rfl, rfl⟩
  · rintro ⟨body, hbody, rfl, rfl⟩
    exact cutQuote_of_enclosed hbody rest

/-- A text is not cut where no quote ends what is enclosed. -/
theorem cutQuote_eq_none {cs : List Char}
    (h : ∀ body rest, Enclosed body → cs ≠ body ++ '"' :: rest) : cutQuote cs = none := by
  rw [Option.eq_none_iff_forall_ne_some]
  rintro ⟨quoted, rest⟩ hcut
  obtain ⟨body, hbody, -, hcs⟩ := cutQuote_eq_some_iff.1 hcut
  exact h body rest hbody hcs

/-- A text that cannot be cut is enclosed as a whole, or up to a backslash at its end. -/
theorem enclosed_of_cutQuote_eq_none {cs : List Char} (h : cutQuote cs = none) :
    ∃ body, Enclosed body ∧ (cs = body ∨ cs = body ++ ['\\']) := by
  fun_induction cutQuote cs with
  | case1 => exact ⟨[], .nil, .inl rfl⟩
  | case2 => cases h
  | case3 => exact ⟨[], .nil, .inr rfl⟩
  | case4 d ds _ ih =>
    obtain ⟨body, hbody, rfl | rfl⟩ := ih (Option.map_eq_none_iff.1 h)
    · exact ⟨_, .escape hbody, .inl rfl⟩
    · exact ⟨_, .escape hbody, .inr rfl⟩
  | case5 c cs hq hb ih =>
    obtain ⟨body, hbody, rfl | rfl⟩ := ih (Option.map_eq_none_iff.1 h)
    · exact ⟨_, .char hq hb hbody, .inl rfl⟩
    · exact ⟨_, .char hq hb hbody, .inr rfl⟩

/-- Items hold no quote but behind a backslash. -/
theorem enclosed_of_items {cs : List Char} {bs : List UInt8} (h : StringLiteral.Items cs bs) :
    Enclosed cs := by
  induction h with
  | nil => exact .nil
  | cons hitem _ ih =>
    cases hitem with
    | char hq hb _ => exact .char hq hb ih
    | escape hescape =>
      obtain ⟨e, ds, rfl, hds⟩ := hescape.exists_cons
      exact .escape (ih.chars hds)

/-- A literal that denotes something is enclosed in quotes. -/
theorem exists_enclosed_of_decode? {literal : List Char} {bs : List UInt8}
    (h : StringLiteral.decode? literal = some bs) :
    ∃ body, Enclosed body ∧ literal = '"' :: (body ++ ['"']) := by
  obtain ⟨body, hbody, rfl⟩ := StringLiteral.decode?_eq_some_iff.1 h
  exact ⟨body, enclosed_of_items hbody, rfl⟩

end TagSpec.Tags
