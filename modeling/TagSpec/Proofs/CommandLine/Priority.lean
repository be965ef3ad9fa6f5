import TagSpec.Proofs.CommandLine.Assignments
import TagSpec.Proofs.CommandLine.Validity
import TagSpec.Proofs.Settings.Keys

/-!
# Which setting counts

A session runs with settings of which each is that of its flag, else that of the environment, else
that of the settings file, else its default. Main statement: `effective_priority`.
-/

namespace TagSpec.CommandLine.Session

open Settings

/-! ## Flags -/

/-- What texts are made to, unless there are none. -/
def unlessNone {α : Type} (f : List String → α) (texts : List String) : Option α :=
  if texts = [] then none else some (f texts)

/-- What the flag of a key says, if it is there. -/
def flagValue (as : List (Flag × String)) : (k : Key) → Option k.Ty
  | .source => unlessNone List.head? (values .source as)
  | .files => unlessNone (List.flatMap (textPieces ',')) (values .files as)
  | .structs => unlessNone id (values .structs as)
  | .ignore => unlessNone id (values .ignore as)
  | .tags => unlessNone (List.flatMap (textPieces ',')) (values .tags as)
  | .outFile => unlessNone List.head? (values .outFile as)
  | .outPackage => unlessNone List.head? (values .outPackage as)
  | .mode => (values .mode as).head?.bind MatchMode.parse?
  | .level => none
  | .format => none

theorem or_eq_unlessNone (texts : List String) (old : Option String) :
    texts.head?.or old = (unlessNone List.head? texts).getD old := by
  cases texts <;> rfl

theorem orElse_eq_unlessNone {f : List String → List String} (hnil : f [] = [])
    (h : ∀ texts, f texts = [] → texts = []) (texts old : List String) :
    Flags.orElse (f texts) old = (unlessNone f texts).getD old := by
  unfold Flags.orElse unlessNone
  by_cases htexts : texts = []
  · simp [htexts, hnil]
  · have hf : f texts ≠ [] := fun hf => htexts (h texts hf)
    simp [htexts, hf]

/-- Texts are cut into at least one piece each. -/
theorem flatMap_textPieces_eq_nil {sep : Char} {texts : List String}
    (h : texts.flatMap (textPieces sep) = []) : texts = [] := by
  cases texts with
  | nil => rfl
  | cons text texts =>
    rw [List.flatMap_cons, List.append_eq_nil_iff] at h
    exact absurd (List.map_eq_nil_iff.1 h.1) (pieces_ne_nil _ _)

/-- A setting is that of its flag, else that of the other settings. -/
theorem get_effective {flags : Flags} {as : List (Flag × String)} (h : Given Flags.none as flags)
    (c : Config) (k : Key) :
    k.get (effective flags c) = (flagValue as k).getD (k.get c) := by
  cases k with
  | source =>
    show flags.source.or c.generation.source = _
    rw [h.source]
    exact or_eq_unlessNone _ _
  | outFile =>
    show flags.outFile.or c.generation.outFile = _
    rw [h.outFile]
    exact or_eq_unlessNone _ _
  | outPackage =>
    show flags.outPackage.or c.generation.outPackage = _
    rw [h.outPackage]
    exact or_eq_unlessNone _ _
  | files =>
    show Flags.orElse flags.files c.generation.files = _
    rw [h.files]
    exact orElse_eq_unlessNone rfl (fun _ => flatMap_textPieces_eq_nil) _ _
  | tags =>
    show Flags.orElse flags.tags c.generation.tags = _
    rw [h.tags]
    exact orElse_eq_unlessNone rfl (fun _ => flatMap_textPieces_eq_nil) _ _
  | structs =>
    show Flags.orElse flags.structs c.generation.structs = _
    rw [h.structs]
    exact orElse_eq_unlessNone rfl (fun _ => id) _ _
  | ignore =>
    show Flags.orElse flags.ignore c.generation.ignore = _
    rw [h.ignore]
    exact orElse_eq_unlessNone rfl (fun _ => id) _ _
  | mode =>
    show flags.mode.getD c.generation.mode = _
    rw [h.mode]
    rfl
  | level | format => rfl

/-! ## Priority -/

/-- Nothing that is told stands for the table of a key without being one. -/
structure Tabular (key : String) (environment : List (String × String)) (l : Layers) : Prop where
  environment : ∀ e ∈ environment, Environment.TellsTable key e
  file : ∀ f, l.file = some f → f.2.HasTable key

/-- How a setting comes about from the flags of a command line, the variables of the environment and
the layers of settings. -/
structure Decided (as : List (Flag × String)) (environment : List (String × String)) (l : Layers)
    (k : Key) (x : k.Ty) : Prop where
  /-- it is what the flag says, else what the layers say, else the default -/
  value : (flagValue as k).or (k.settled (k.said l)) = some x
  /-- the layers say what the last variable says that says something of the key, else what the file
  says of it -/
  layers : Tabular k.table environment l →
    k.said l = (environment.filterMap (Environment.told? k.path)).getLast?.or
      (l.file.bind fun f => f.2.at? k.path)

/-- The same is told of a key in two runs, whatever is told of other keys. -/
structure SameFor (k : Key) (as as' : List (Flag × String))
    (environment environment' : List (String × String)) (l l' : Layers) : Prop where
  ofFlag : flagValue as k = flagValue as' k
  ofEnvironment : environment.filterMap (Environment.told? k.path) =
    environment'.filterMap (Environment.told? k.path)
  ofFile : (l.file.bind fun f => f.2.at? k.path) = l'.file.bind fun f => f.2.at? k.path
  tabular : Tabular k.table environment l
  tabular' : Tabular k.table environment' l'

/-- A key of which two runs are told the same is set to the same in both. -/
theorem SameFor.eq {k : Key} {as as' : List (Flag × String)}
    {environment environment' : List (String × String)} {l l' : Layers} {x x' : k.Ty}
    (h : SameFor k as as' environment environment' l l') (hx : Decided as environment l k x)
    (hx' : Decided as' environment' l' k x') : x' = x := by
  have hsaid : k.said l = k.said l' := by
    rw [hx.layers h.tabular, hx'.layers h.tabular', h.ofEnvironment, h.ofFile]
  have hvalue := hx.value
  rw [h.ofFlag, hsaid] at hvalue
  exact Option.some.inj (hx'.value.symm.trans hvalue)

/-- No table of the environment makes sense for a key. -/
theorem ne_table_of_settled {k : Key} {l : Layers} {x : k.Ty} (h : k.settled (k.said l) = some x)
    (htable : l.environment.HasTable k.table) (es : List (String × Value)) :
    l.environment.at? k.path ≠ some (.table es) := by
  intro hes
  have hsaid : k.said l = some (.table es) := by
    rw [Key.path, Value.at?_pair] at hes
    obtain ⟨v, hv, hes⟩ := Option.bind_eq_some_iff.1 hes
    obtain ⟨as, rfl⟩ := htable v hv
    replace hes : as.lookup k.name = some (.table es) := hes
    unfold Key.said
    rw [hv]
    cases l.fileValue? k.table with
    | none => exact hes
    | some below => cases below <;> simp [Key.entry?, hes]
  rw [hsaid] at h
  exact absurd (h.symm.trans (k.form.read?_table es)) (Option.some_ne_none x)

/-- Each setting of a run is decided by what flags, variables and the settings file say of its key.
-/
theorem decided {t : Files.Tree} {environment : List (String × String)} {flags : Flags} {c : Config}
    {as : List (Flag × String)} (hgiven : Given Flags.none as flags)
    (hload : Settings.load t flags.config environment = .ok c) :
    ∃ l, Settings.readLayers t (values .config as).head? environment = .ok l ∧
      ∀ k, Decided as environment l k (k.get (effective flags c)) := by
  obtain ⟨l, hlayers, henvironment, hdecode⟩ := exists_layers hload
  obtain ⟨hproper, htable⟩ := Environment.settings_spec environment
  rw [← henvironment] at hproper htable
  have hconfig : flags.config = (values .config as).head? := hgiven.config
  refine ⟨l, hconfig ▸ hlayers, fun k => ?_⟩
  have hsettled := Layers.decode_get htable hproper hdecode k
  constructor
  · rw [get_effective hgiven, hsettled]
    cases flagValue as k <;> rfl
  · rintro ⟨htell, hfile⟩
    have hkeyed : l.environment.HasTable k.table :=
      henvironment ▸ Environment.hasTable_settings htell
    have hvalue := ne_table_of_settled hsettled hkeyed
    rw [Layers.IsKeyed.said ⟨hkeyed, hfile⟩]
    rw [henvironment] at hvalue ⊢
    rw [Key.path, Environment.at?_settings htell hvalue]

/-- Each setting is what its flag says, else what the environment says, else what the settings file
says, else its default. What stands for a table of settings without being one is taken as a whole;
else a setting is the same in every run in which the same is told of its key, and the variable for a
key tells nothing of another one. -/
theorem effective_priority {t : Files.Tree} {environment : List (String × String)}
    {arguments : List String} {flags : Flags} {c : Config} (hparse : parse arguments = .ok flags)
    (hload : Settings.load t flags.config environment = .ok c) :
    ∃ program words as l, arguments = program :: commandWord :: words ∧
      (∀ as', Assigns words as' ↔ as' = as) ∧
      Settings.readLayers t (values .config as).head? environment = .ok l ∧
      ∀ k : Key, Decided as environment l k (k.get (effective flags c)) ∧
        (∀ as' environment' l' x, Decided as' environment' l' k x →
          SameFor k as as' environment environment' l l' → x = k.get (effective flags c)) ∧
        ∀ k' text, Environment.told? k.path (k'.variable, text) =
          if k' = k then some (Environment.valueOf text) else none := by
  obtain ⟨program, words, as, harguments, hwords, hgiven⟩ := exists_given hparse
  obtain ⟨l, hlayers, hdecided⟩ := decided hgiven hload
  refine ⟨program, words, as, l, harguments, fun as' => ⟨hwords.unique, ?_⟩, hlayers, fun k =>
    ⟨hdecided k, fun _ _ _ _ hx hsame => hsame.eq (hdecided k) hx, told?_variable k⟩⟩
  rintro rfl
  exact hwords

/-- A settings file in an empty directory. -/
def settingsOnly (text : String) : Files.Tree :=
  Files.Tree.empty.put ["structspec.toml"] (.file (Utf8.encode text.toList))

/-- Settings of which some are in the file, some in the environment and some in flags. -/
theorem effective_priority_mixed :
    let t := settingsOnly "[generate]\nfiles = ['x.go']\ntags = ['a', 'b']\nsrc = 'models'\n"
    let environment := [(Key.files.variable, "[y.go]"), ("structspec__logging__level", "info")]
    let arguments := ["structspec", "gen", "--tag", "json,pg", "--out-pkg=p"]
    ∃ flags c as l, parse arguments = .ok flags ∧
      Settings.load t flags.config environment = .ok c ∧
      effective flags c =
        ⟨⟨some "models", ["y.go"], [], [], ["json", "pg"], none, some "p", .regex⟩,
          ⟨"info", .pretty⟩⟩ ∧
      ∀ k : Key, Decided as environment l k (k.get (effective flags c)) := by
  intro t environment arguments
  let flags : Flags := { Flags.none with tags := ["json", "pg"], outPackage := some "p" }
  let c : Config :=
    ⟨⟨some "models", ["y.go"], [], [], ["a", "b"], none, none, .regex⟩, ⟨"info", .pretty⟩⟩
  have hparse : parse arguments = .ok flags := eq_ok_of_toOption (by decide +kernel)
  have hload : Settings.load t flags.config environment = .ok c :=
    eq_ok_of_toOption (by decide +kernel)
  obtain ⟨-, -, as, l, -, -, -, hkeys⟩ := effective_priority hparse hload
  exact ⟨flags, c, as, l, hparse, hload, rfl, fun k => (hkeys k).1⟩

/-- A list that stands for the table of the file is lost as a whole when the environment sets another
key in that table. -/
theorem effective_priority_list :
    let t := settingsOnly "generate = ['models']\n"
    let tags := (Key.tags.variable, "[json]")
    Environment.told? Key.source.path tags = none ∧
      ∃ c c', Settings.load t none [] = .ok c ∧ Settings.load t none [tags] = .ok c' ∧
        c.generation.source = some "models" ∧ c'.generation.source = none := by
  intro t tags
  have hload : Settings.load t none [] =
      .ok ⟨{ Generation.default with source := some "models" }, .default⟩ :=
    eq_ok_of_toOption (by decide +kernel)
  have hload' : Settings.load t none [tags] =
      .ok ⟨{ Generation.default with tags := ["json"] }, .default⟩ :=
    eq_ok_of_toOption (by decide +kernel)
  exact ⟨told?_variable .source .tags _, _, _, hload, hload', rfl, rfl⟩

end TagSpec.CommandLine.Session
