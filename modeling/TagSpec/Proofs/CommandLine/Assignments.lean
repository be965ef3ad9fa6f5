import TagSpec.CommandLine.Flags

/-!
# What a command line gives flags

The words of a command line that can be read are flags with their values, and each flag ends up with
the values that it is given, in their order. Main statement: `exists_given`.
-/

namespace TagSpec.CommandLine

/-! ## Words -/

/-- Words that give flags values: each flag is one word with its value, or two. -/
inductive Assigns : List String → List (Flag × String) → Prop
  | nil : Assigns [] []
  | escape {word : String} : Word.ofString word = .escape → Assigns [word] []
  | joined {word name value : String} {flag : Flag} {words : List String}
      {as : List (Flag × String)} : Word.ofString word = .long name (some value) →
      Flag.ofName? name = some flag → Assigns words as → Assigns (word :: words) ((flag, value) :: as)
  | apart {word name next value : String} {flag : Flag} {words : List String}
      {as : List (Flag × String)} : Word.ofString word = .long name none →
      Flag.ofName? name = some flag → Word.ofString next = .plain value → Assigns words as →
      Assigns (word :: next :: words) ((flag, value) :: as)

/-- Words give flags values in one way only. -/
theorem Assigns.unique {words : List String} {as as' : List (Flag × String)}
    (h : Assigns words as) (h' : Assigns words as') : as' = as := by
  induction h generalizing as' with
  | nil =>
    cases h'
    rfl
  | escape hword =>
    cases h' with
    | escape => rfl
    | joined hword' => cases hword.symm.trans hword'
  | joined hword hname _ ih =>
    cases h' with
    | escape hword' => cases hword.symm.trans hword'
    | joined hword' hname' hrest =>
      cases hword.symm.trans hword'
      cases hname.symm.trans hname'
      rw [ih hrest]
    | apart hword' => cases hword.symm.trans hword'
  | apart hword hname hnext _ ih =>
    cases h' with
    | joined hword' => cases hword.symm.trans hword'
    | apart hword' hname' hnext' hrest =>
      cases hword.symm.trans hword'
      cases hname.symm.trans hname'
      cases hnext.symm.trans hnext'
      rw [ih hrest]

/-- Gives flags their values one after another. -/
def giveAll (f : Flags) (as : List (Flag × String)) : Except Refusal Flags :=
  as.foldlM (fun f a => give f a.1 a.2) f

theorem giveAll_cons (f : Flags) (a : Flag × String) (as : List (Flag × String)) :
    giveAll f (a :: as) = give f a.1 a.2 >>= fun f => giveAll f as := List.foldlM_cons

/-- What words give flags if one of them waits for its value, or has it but not been given it. -/
def Continues (words : List String) (as : List (Flag × String)) : Pending → Prop
  | none => Assigns words as
  | some (flag, some value) => ∃ rest, as = (flag, value) :: rest ∧ Assigns words rest
  | some (flag, none) => ∃ next value words' rest, words = next :: words' ∧
      Word.ofString next = .plain value ∧ as = (flag, value) :: rest ∧ Assigns words' rest

theorem continues_of_settle {f f₁ f' : Flags} {p : Pending} {words : List String}
    {as : List (Flag × String)} (hsettle : settle f p = .ok f₁) (hwords : Assigns words as)
    (hgive : giveAll f₁ as = .ok f') : ∃ as', Continues words as' p ∧ giveAll f as' = .ok f' := by
  match p with
  | none =>
    cases hsettle
    exact ⟨as, hwords, hgive⟩
  | some (flag, some value) =>
    refine ⟨(flag, value) :: as, ⟨as, rfl, hwords⟩, ?_⟩
    rw [giveAll_cons]
    exact bind_eq_ok_iff.2 ⟨f₁, hsettle, hgive⟩
  | some (flag, none) => cases hsettle

/-- A fault is told even where the pending flag gets its value. -/
theorem not_settleThen {f f' : Flags} {p : Pending} {r : Refusal} : settleThen f p r ≠ .ok f' := by
  unfold settleThen
  split <;> nofun

/-- Words that can be read give flags values, one after another. -/
theorem exists_continues {f f' : Flags} {p : Pending} {words : List String}
    (h : readFlags f p words = .ok f') : ∃ as, Continues words as p ∧ giveAll f as = .ok f' := by
  induction words generalizing f p with
  | nil => exact continues_of_settle h .nil rfl
  | cons word rest ih =>
    unfold readFlags at h
    cases hword : Word.ofString word with
    | escape =>
      rw [hword] at h
      cases rest with
      | nil => exact continues_of_settle h (.escape hword) rfl
      | cons next rest => cases h
    | short c =>
      rw [hword] at h
      dsimp only at h
      split at h
      · exact absurd h not_settleThen
      · cases h
    | plain text =>
      rw [hword] at h
      match p with
      | some (flag, none) =>
        obtain ⟨as, ⟨as', rfl, hrest⟩, hgive⟩ := ih h
        exact ⟨_, ⟨word, text, rest, as', rfl, hword, rfl, hrest⟩, hgive⟩
      | some (flag, some value) => cases h
      | none => cases h
    | long name value =>
      rw [hword] at h
      dsimp only at h
      cases hname : Flag.ofName? name with
      | none =>
        rw [hname] at h
        dsimp only at h
        split at h
        · split at h
          · cases h
          · exact absurd h not_settleThen
        · cases h
      | some flag =>
        rw [hname] at h
        cases hsettle : settle f p with
        | error r => cases value <;> (rw [hsettle] at h; cases h)
        | ok f₁ =>
          cases value with
          | some value =>
            rw [hsettle] at h
            dsimp only at h
            cases hgiven : give f₁ flag value with
            | error r =>
              rw [hgiven] at h
              cases h
            | ok f₂ =>
              rw [hgiven] at h
              obtain ⟨as, hrest, hgive⟩ := ih h
              refine continues_of_settle hsettle (.joined hword hname hrest) ?_
              rw [giveAll_cons]
              exact bind_eq_ok_iff.2 ⟨f₂, hgiven, hgive⟩
          | none =>
            rw [hsettle] at h
            obtain ⟨_, ⟨next, value, words, as, rfl, hnext, rfl, hrest⟩, hgive⟩ := ih h
            exact continues_of_settle hsettle (.apart hword hname hnext hrest) hgive

/-! ## Values -/

/-- The values that a flag is given. -/
def values (flag : Flag) (as : List (Flag × String)) : List String :=
  as.filterMap fun a => if a.1 = flag then some a.2 else none

/-- What flags are after they were given values. -/
structure Given (f : Flags) (as : List (Flag × String)) (f' : Flags) : Prop where
  source : f'.source = f.source.or (values .source as).head?
  files : f'.files = f.files ++ (values .files as).flatMap (textPieces ',')
  structs : f'.structs = f.structs ++ values .structs as
  ignore : f'.ignore = f.ignore ++ values .ignore as
  tags : f'.tags = f.tags ++ (values .tags as).flatMap (textPieces ',')
  outFile : f'.outFile = f.outFile.or (values .outFile as).head?
  outPackage : f'.outPackage = f.outPackage.or (values .outPackage as).head?
  mode : f'.mode = f.mode.or ((values .mode as).head?.bind MatchMode.parse?)
  config : f'.config = f.config.or (values .config as).head?

/-- A flag is given one more value in front of others. -/
theorem Given.cons {f f₁ f' : Flags} {flag : Flag} {value : String} {as : List (Flag × String)}
    (hgive : give f flag value = .ok f₁) (h : Given f₁ as f') : Given f ((flag, value) :: as) f' := by
  obtain ⟨hsource, hfiles, hstructs, hignore, htags, houtFile, houtPackage, hmode, hconfig⟩ := h
  cases flag with
  | source | outFile | config =>
    simp only [give] at hgive
    split at hgive
    · cases hgive
    · next hold =>
      rw [Option.not_isSome_iff_eq_none] at hold
      split at hgive
      · cases hgive
      · cases hgive
        constructor <;> simp_all [values]
  | outPackage =>
    simp only [give] at hgive
    split at hgive
    · cases hgive
    · next hold =>
      rw [Option.not_isSome_iff_eq_none] at hold
      cases hgive
      constructor <;> simp_all [values]
  | mode =>
    simp only [give] at hgive
    split at hgive
    · cases hgive
    · next hold =>
      rw [Option.not_isSome_iff_eq_none] at hold
      split at hgive
      · cases hgive
        constructor <;> simp_all [values]
      · cases hgive
  | files | structs | ignore | tags =>
    cases hgive
    constructor <;> simp_all [values]

theorem given_of_giveAll {f f' : Flags} {as : List (Flag × String)} (h : giveAll f as = .ok f') :
    Given f as f' := by
  induction as generalizing f with
  | nil =>
    cases h
    constructor <;> simp [values]
  | cons a as ih =>
    rw [giveAll_cons] at h
    obtain ⟨f₁, hgive, hrest⟩ := bind_eq_ok_iff.1 h
    exact .cons hgive (ih hrest)

/-- A plain word stands for itself. -/
theorem eq_of_ofString_plain {word text : String} (h : Word.ofString word = .plain text) :
    word = text := by
  unfold Word.ofString at h
  split at h <;> cases h
  rfl

/-- A command line that can be read is a program, the command, and words that give flags values. -/
theorem exists_given {arguments : List String} {flags : Flags} (h : parse arguments = .ok flags) :
    ∃ program words as, arguments = program :: commandWord :: words ∧ Assigns words as ∧
      Given Flags.none as flags := by
  cases arguments with
  | nil => cases h
  | cons program words =>
    cases words with
    | nil => cases h
    | cons word rest =>
      replace h : readCommand (word :: rest) = .ok flags := h
      unfold readCommand at h
      dsimp only at h
      cases hword : Word.ofString word with
      | escape =>
        rw [hword] at h
        cases rest with
        | nil => cases h
        | cons next rest =>
          dsimp only at h
          split at h <;> cases h
      | short c =>
        rw [hword] at h
        dsimp only at h
        split at h
        · cases h
        · split at h <;> cases h
      | long name value =>
        rw [hword] at h
        dsimp only at h
        split at h
        · split at h <;> cases h
        · cases h
      | plain text =>
        rw [hword] at h
        dsimp only at h
        split at h
        · next hcommand =>
          obtain ⟨as, hwords, hgive⟩ := exists_continues h
          have hsame : word = commandWord := (eq_of_ofString_plain hword).trans hcommand
          exact ⟨program, rest, as, by rw [hsame], hwords, given_of_giveAll hgive⟩
        · split at h <;> cases h

end TagSpec.CommandLine
