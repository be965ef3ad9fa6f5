import TagSpec.Proofs.Settings.Overlay
import TagSpec.Settings.Loading

/-!
# The keys of settings

What layers of settings say of a key, and that this is what the settings have for it. Main statement:
`decode_get`.
-/

namespace TagSpec.Settings

/-! ## Keys -/

/-- The form of what a key is set to. -/
inductive Form where
  | text
  | optional
  | texts
  | mode
  | format

namespace Form

abbrev Ty : Form → Type
  | text => String
  | optional => Option String
  | texts => List String
  | mode => MatchMode
  | format => LogFormat

/-- The text that a value is. -/
def string? : Value → Option String
  | .string s => some s
  | _ => none

/-- What a value sets a key of the form to. -/
def read? : (f : Form) → Value → Option f.Ty
  | text, v => string? v
  | optional, v => (string? v).map some
  | texts, .list vs => vs.mapM string?
  | texts, _ => none
  | mode, v => (string? v).bind fun s => [MatchMode.regex, .exact].find? (·.word = s)
  | format, v => (string? v).bind fun s => [LogFormat.pretty, .json].find? (·.word = s)

theorem read?_table (f : Form) (es : List (String × Value)) : f.read? (.table es) = none := by
  cases f <;> rfl

end Form

/-- A key that can be set. -/
inductive Key where
  | source
  | files
  | structs
  | ignore
  | tags
  | outFile
  | outPackage
  | mode
  | level
  | format
deriving DecidableEq, Repr

namespace Key

/-- The key of the table that a key stands in. -/
def table : Key → String
  | level => "logging"
  | format => "logging"
  | _ => "generate"

def name : Key → String
  | source => "src"
  | files => "files"
  | structs => "structs"
  | ignore => "ignore"
  | tags => "tags"
  | outFile => "out_file"
  | outPackage => "out_pkg"
  | mode => "match_mode"
  | level => "level"
  | format => "format"

/-- The place of a key in a list that stands for its table. -/
def place : Key → Nat
  | source => 0
  | files => 1
  | structs => 2
  | ignore => 3
  | tags => 4
  | outFile => 5
  | outPackage => 6
  | mode => 7
  | level => 0
  | format => 1

def form : Key → Form
  | source => .optional
  | files => .texts
  | structs => .texts
  | ignore => .texts
  | tags => .texts
  | outFile => .optional
  | outPackage => .optional
  | mode => .mode
  | level => .text
  | format => .format

abbrev Ty (k : Key) : Type := k.form.Ty

/-- What settings have for a key. -/
def get (c : Config) : (k : Key) → k.Ty
  | source => c.generation.source
  | files => c.generation.files
  | structs => c.generation.structs
  | ignore => c.generation.ignore
  | tags => c.generation.tags
  | outFile => c.generation.outFile
  | outPackage => c.generation.outPackage
  | mode => c.generation.mode
  | level => c.logging.level
  | format => c.logging.format

def path (k : Key) : List String := [k.table, k.name]

end Key

/-! ## What is said of a key -/

/-- What the settings file says under a key. -/
def Layers.fileValue? (l : Layers) (key : String) : Option Value :=
  l.file.bind fun f => f.2.get? key

namespace Key

/-- What a table, or a list that stands for it, says of a key. -/
def entry? (k : Key) : Value → Option Value
  | .table es => es.lookup k.name
  | .list vs => vs[k.place]?
  | _ => none

/-- What layers say of a key. Of two tables the one of the environment comes first, key by key.
Anything else that stands for a table is taken as a whole. -/
def said (k : Key) (l : Layers) : Option Value :=
  match l.environment.get? k.table, l.fileValue? k.table with
  | some (.table es), some (.table below) => (es.lookup k.name).or (below.lookup k.name)
  | some above, _ => k.entry? above
  | none, below => below.bind k.entry?

/-- What a key is set to by what is said of it, if that makes sense. -/
def settled (k : Key) (v : Option Value) : Option k.Ty :=
  v.elim (some (k.get Config.default)) k.form.read?

end Key

/-! ## Decoding one value -/

/-- A decoder that reads values of a form. -/
def Form.Decodes (f : Form) (d : Decoder f.Ty) : Prop :=
  ∀ path v x, d path v = .ok x → f.read? v = some x

namespace Decoder

theorem decodes_text (wanted : Wanted) : Form.text.Decodes (text wanted) := by
  intro path v x h
  cases v with
  | string s =>
    cases h
    rfl
  | _ => cases h

theorem decodes_optional (wanted : Wanted) : Form.optional.Decodes (optional wanted) := by
  intro path v x h
  obtain ⟨s, hs, rfl⟩ := map_eq_ok_iff.1 h
  exact congrArg (Option.map some) (decodes_text wanted path v s hs)

theorem decodes_texts : Form.texts.Decodes texts := by
  intro path v x h
  cases v with
  | list vs =>
    have hall : ∀ (start : Nat) (xs : List String),
        (vs.zipIdx start).mapM (fun e => text .string (path ++ [toString e.2]) e.1) = .ok xs →
          vs.mapM Form.string? = some xs := by
      clear h
      induction vs with
      | nil =>
        intro start xs h
        cases h
        rfl
      | cons v vs ih =>
        intro start xs h
        rw [List.zipIdx_cons, List.mapM_cons, bind_eq_ok_iff] at h
        obtain ⟨s, hs, h⟩ := h
        obtain ⟨rest, hrest, h⟩ := bind_eq_ok_iff.1 h
        cases h
        have hfirst : Form.string? v = some s := decodes_text .string _ v s hs
        rw [List.mapM_cons, hfirst, ih _ _ hrest]
        rfl
    exact hall 0 x h
  | _ => cases h

/-- A decoder of words gives what the list has for the word. -/
theorem word_ok {α : Type} {wanted : Wanted} {all : List (String × α)} {path : List String} {v : Value}
    {a : α} (h : word wanted all path v = .ok a) : ∃ s, v = .string s ∧ all.lookup s = some a := by
  cases v with
  | string s =>
    simp only [word] at h
    split at h
    · next found hfound =>
      cases h
      exact ⟨s, rfl, hfound⟩
    · cases h
  | table es =>
    -- a word as the key of a table would have to say nothing, which no value is
    simp only [word] at h
    split at h
    · cases h
    · next key inner _ =>
      split at h <;> cases h
  | _ => cases h

theorem lookup_words {α : Type} (called : α → String) (all : List α) (s : String) :
    (all.map fun a => (called a, a)).lookup s = all.find? (called · = s) := by
  induction all with
  | nil => rfl
  | cons a all ih =>
    rw [List.map_cons, List.lookup_cons, List.find?_cons, ih]
    by_cases h : s = called a
    · simp [h]
    · rw [beq_eq_false_iff_ne.2 h, decide_eq_false (Ne.symm h)]

theorem decodes_mode : Form.mode.Decodes mode := by
  intro path v x h
  obtain ⟨s, rfl, hs⟩ := word_ok h
  exact (lookup_words MatchMode.word [.regex, .exact] s).symm.trans hs

theorem decodes_format : Form.format.Decodes format := by
  intro path v x h
  obtain ⟨s, rfl, hs⟩ := word_ok h
  exact (lookup_words LogFormat.word [.pretty, .json] s).symm.trans hs

section Entries

variable {f : Form} {d : Decoder f.Ty} (hd : f.Decodes d) {default x : f.Ty} {path : List String}
include hd

/-- An entry gives what its value is read as, or the default where there is none. -/
theorem entry_ok {key : String} {es : List (String × Value)}
    (h : entry key d default path es = .ok x) :
    (es.lookup key).elim (some default) f.read? = some x := by
  unfold entry at h
  split at h
  · next v hv =>
    rw [hv]
    exact hd _ v x h
  · next hnone =>
    cases h
    rw [hnone]
    rfl

theorem item_ok {place : Nat} {vs : List Value} (h : item place d default path vs = .ok x) :
    (vs[place]?).elim (some default) f.read? = some x := by
  unfold item at h
  split at h
  · next v hv =>
    rw [hv]
    exact hd _ v x h
  · next hnone =>
    cases h
    rw [hnone]
    rfl

end Entries

/-! ## Decoding a table -/

/-- What is decoded of a run has for each key what is said of it. -/
theorem generation_ok {path : List String} {v : Value} {c : Config}
    (h : generation path v = .ok c.generation) {k : Key} (hk : k.table = "generate") :
    k.settled (k.entry? v) = some (k.get c) := by
  obtain ⟨g, l⟩ := c
  cases v with
  | table es =>
    simp only [generation, bind_eq_ok_iff] at h
    obtain ⟨files, hfiles, ignore, hignore, mode, hmode, outFile, houtFile, outPackage, houtPackage,
      source, hsource, structs, hstructs, tags, htags, h⟩ := h
    cases h
    cases k with
    | source => exact entry_ok (decodes_optional _) hsource
    | files => exact entry_ok decodes_texts hfiles
    | structs => exact entry_ok decodes_texts hstructs
    | ignore => exact entry_ok decodes_texts hignore
    | tags => exact entry_ok decodes_texts htags
    | outFile => exact entry_ok (decodes_optional _) houtFile
    | outPackage => exact entry_ok (decodes_optional _) houtPackage
    | mode => exact entry_ok decodes_mode hmode
    | level | format => exact absurd hk (by decide)
  | list vs =>
    simp only [generation, bind_eq_ok_iff] at h
    obtain ⟨source, hsource, files, hfiles, structs, hstructs, ignore, hignore, tags, htags,
      outFile, houtFile, outPackage, houtPackage, mode, hmode, h⟩ := h
    cases h
    cases k with
    | source => exact item_ok (decodes_optional _) hsource
    | files => exact item_ok decodes_texts hfiles
    | structs => exact item_ok decodes_texts hstructs
    | ignore => exact item_ok decodes_texts hignore
    | tags => exact item_ok decodes_texts htags
    | outFile => exact item_ok (decodes_optional _) houtFile
    | outPackage => exact item_ok (decodes_optional _) houtPackage
    | mode => exact item_ok decodes_mode hmode
    | level | format => exact absurd hk (by decide)
  | _ => cases h

/-- What is decoded of logging has for each key what is said of it. -/
theorem logging_ok {path : List String} {v : Value} {c : Config}
    (h : logging path v = .ok c.logging) {k : Key} (hk : k.table = "logging") :
    k.settled (k.entry? v) = some (k.get c) := by
  obtain ⟨g, l⟩ := c
  cases v with
  | table es =>
    simp only [logging, bind_eq_ok_iff] at h
    obtain ⟨format, hformat, level, hlevel, h⟩ := h
    cases h
    cases k with
    | level => exact entry_ok (decodes_text _) hlevel
    | format => exact entry_ok decodes_format hformat
    | _ => exact absurd hk (by decide)
  | list vs =>
    simp only [logging, bind_eq_ok_iff] at h
    obtain ⟨level, hlevel, format, hformat, h⟩ := h
    cases h
    cases k with
    | level => exact item_ok (decodes_text _) hlevel
    | format => exact item_ok decodes_format hformat
    | _ => exact absurd hk (by decide)
  | _ => cases h

theorem default_generation {k : Key} (hk : k.table = "generate") {c : Config}
    (h : c.generation = .default) : k.get Config.default = k.get c := by
  cases k with
  | level | format => exact absurd hk (by decide)
  | _ =>
    rw [Key.get, Key.get, h]
    rfl

theorem default_logging {k : Key} (hk : k.table = "logging") {c : Config}
    (h : c.logging = .default) : k.get Config.default = k.get c := by
  cases k with
  | level | format =>
    rw [Key.get, Key.get, h]
    rfl
  | _ => exact absurd hk (by decide)

/-- Settings have for a key what its table says of it. -/
theorem config_ok {es : List (String × Value)} {c : Config} (h : config [] (.table es) = .ok c)
    (k : Key) : k.settled ((es.lookup k.table).bind k.entry?) = some (k.get c) := by
  simp only [config, bind_eq_ok_iff] at h
  obtain ⟨g, hg, l, hl, h⟩ := h
  cases h
  have htable : k.table = "generate" ∨ k.table = "logging" := by cases k <;> decide
  rcases htable with hk | hk
  · rw [hk]
    unfold entry at hg
    split at hg
    · next v hv =>
      rw [hv]
      exact generation_ok hg hk
    · next hnone =>
      rw [hnone]
      exact congrArg some (default_generation hk (Except.ok.inj hg).symm)
  · rw [hk]
    unfold entry at hl
    split at hl
    · next v hv =>
      rw [hv]
      exact logging_ok hl hk
    · next hnone =>
      rw [hnone]
      exact congrArg some (default_logging hk (Except.ok.inj hl).symm)

end Decoder

/-! ## Layers -/

/-- Of two values laid over each other the upper one settles a key. -/
theorem Key.settled_laid {k : Key} {below above : Option Value} {x : k.Ty}
    (h : k.settled (Value.laid below above) = some x) : k.settled (above.or below) = some x := by
  cases above with
  | none => simpa using h
  | some v =>
    -- a table makes no sense for a key, so that nothing was put together there
    have hvalue : ∀ es, Value.laid below (some v) ≠ some (.table es) := by
      intro es hes
      rw [hes] at h
      exact absurd (h.symm.trans (k.form.read?_table es)) (Option.some_ne_none x)
    rwa [Value.laid_some_of_ne_table hvalue] at h

namespace Layers

section Merged

variable {l : Layers} (htable : l.environment.IsTable)
include htable

theorem isTable_merged : l.merged.IsTable := by
  unfold merged
  split
  · exact Value.isTable_overlay htable _
  · exact htable

variable (hproper : l.environment.Proper)
include hproper

theorem get?_merged (key : String) :
    l.merged.get? key = Value.laid (l.fileValue? key) (l.environment.get? key) := by
  unfold merged fileValue?
  cases l.file with
  | none => exact (Value.none_laid _).symm
  | some f => exact Value.get?_overlay hproper htable key

/-- What both layers make together says of a key what they say of it, if it makes sense. -/
theorem settled_merged {k : Key} {x : k.Ty}
    (h : k.settled ((l.merged.get? k.table).bind k.entry?) = some x) :
    k.settled (k.said l) = some x := by
  rw [get?_merged htable hproper] at h
  unfold Key.said
  cases henvironment : l.environment.get? k.table with
  | none => simpa [henvironment] using h
  | some above =>
    rw [henvironment] at h
    cases hfile : l.fileValue? k.table with
    | none =>
      rw [hfile] at h
      cases above <;> exact h
    | some below =>
      rw [hfile] at h
      -- only of two tables both have a say
      cases above with
      | table es =>
        cases below with
        | table entries =>
          have hes : Value.Proper (.table es) := hproper.get? henvironment
          have hentry : k.settled (Value.laid (entries.lookup k.name) (es.lookup k.name)) = some x := by
            rw [← Value.lookup_overlayEntries hes.nodup]
            simpa [Value.laid, Value.overlay, Key.entry?] using h
          exact Key.settled_laid hentry
        | _ => exact h
      | _ => exact h

/-- Settings have for a key what the layers say of it. -/
theorem decode_get {c : Config} (h : l.decode = .ok c) (k : Key) :
    k.settled (k.said l) = some (k.get c) := by
  obtain ⟨es, hes⟩ := isTable_merged htable
  apply settled_merged htable hproper
  unfold decode at h
  rw [hes] at h ⊢
  exact Decoder.config_ok h k

end Merged

/-- Each layer has nothing else than a table under a key, if it has anything there. -/
structure IsKeyed (l : Layers) (key : String) : Prop where
  environment : l.environment.HasTable key
  file : ∀ f, l.file = some f → f.2.HasTable key

/-- Of tables the one of the environment comes first, key by key. -/
theorem IsKeyed.said {l : Layers} {k : Key} (h : l.IsKeyed k.table) :
    k.said l = (l.environment.at? k.path).or (l.file.bind fun f => f.2.at? k.path) := by
  obtain ⟨henvironment, hfile⟩ := h
  have hfileEntry : (l.file.bind fun f => f.2.at? k.path) =
      (l.fileValue? k.table).bind (Value.get? k.name) := by
    unfold fileValue?
    cases l.file with
    | none => rfl
    | some f => exact Value.at?_pair f.2 k.table k.name
  have hfileTable : ∀ v, l.fileValue? k.table = some v → v.IsTable := by
    intro v hv
    obtain ⟨f, hf, hget⟩ := Option.bind_eq_some_iff.1 hv
    exact hfile f hf v hget
  rw [hfileEntry, Key.path, Value.at?_pair]
  unfold Key.said
  cases habove : l.environment.get? k.table with
  | none =>
    cases hbelow : l.fileValue? k.table with
    | none => rfl
    | some below =>
      obtain ⟨es, rfl⟩ := hfileTable below hbelow
      rfl
  | some above =>
    obtain ⟨es, rfl⟩ := henvironment above habove
    cases hbelow : l.fileValue? k.table with
    | none => exact (Option.or_none).symm
    | some below =>
      obtain ⟨entries, rfl⟩ := hfileTable below hbelow
      rfl

end Layers

/-- Settings that can be loaded are decoded from a settings file and the environment. -/
theorem exists_layers {t : Files.Tree} {path : Option String} {environment : List (String × String)}
    {c : Config} (h : load t path environment = .ok c) :
    ∃ l, readLayers t path environment = .ok l ∧
      l.environment = Environment.settings environment ∧ l.decode = .ok c := by
  obtain ⟨_, hextract, h⟩ := bind_eq_ok_iff.1 h
  obtain ⟨_, -, h⟩ := bind_eq_ok_iff.1 h
  cases h
  obtain ⟨l, hlayers, hdecode⟩ := bind_eq_ok_iff.1 hextract
  refine ⟨l, hlayers, ?_, mapError_eq_ok_iff.1 hdecode⟩
  obtain ⟨file, -, hfile⟩ := bind_eq_ok_iff.1 hlayers
  cases file with
  | none =>
    cases hfile
    rfl
  | some path =>
    obtain ⟨_, -, hsettings⟩ := bind_eq_ok_iff.1 hfile
    cases hsettings
    rfl

/-! ## Variables -/

/-- The name of the variable for a key. -/
def Key.variable (k : Key) : String :=
  Environment.variablePrefix ++ String.ofList (k.table.toList.map Char.toUpper) ++ "__" ++
    String.ofList (k.name.toList.map Char.toUpper)

/-- The variable for a key sets that key. -/
theorem keyPath?_variable (k : Key) : Environment.keyPath? k.variable = some k.path := by
  cases k <;> decide +kernel

/-- No two keys have one path. -/
theorem Key.path_inj {k k' : Key} (h : k.path = k'.path) : k = k' := by
  revert h
  cases k <;> cases k' <;> decide

/-- The variable for a key says what its text is, and nothing of another key. -/
theorem told?_variable (k k' : Key) (text : String) :
    Environment.told? k.path (k'.variable, text) =
      if k' = k then some (Environment.valueOf text) else none := by
  unfold Environment.told? Environment.nested?
  rw [keyPath?_variable]
  show (Environment.nest (Environment.valueOf text) [k'.table, k'.name]).at? [k.table, k.name] = _
  rw [Value.at?_pair]
  by_cases htable : k.table = k'.table
  · by_cases hname : k.name = k'.name
    · rw [if_pos (Key.path_inj (by rw [Key.path, Key.path, htable, hname]))]
      simp [Environment.nest, Value.get?, htable, hname]
    · have hne : k' ≠ k := by
        rintro rfl
        exact hname rfl
      simp [Environment.nest, Value.get?, htable, List.lookup_cons, beq_eq_false_iff_ne.2 hname, hne]
  · have hne : k' ≠ k := by
      rintro rfl
      exact htable rfl
    simp [Environment.nest, Value.get?, List.lookup_cons, beq_eq_false_iff_ne.2 htable, hne]

end TagSpec.Settings
