import TagSpec.Proofs.Generation
import TagSpec.Proofs.PlainNames

/-!
# Which structs are selected

A model is built of the structs whose names are accepted, which depends on each name and on each rule by
itself. Main statement: `Model.build_selects`, by which one more rule takes away or adds exactly the
structs that it matches.
-/

namespace TagSpec

/-! ## Rules -/

namespace MatchMode

/-- A rule can be read. Every text is a name, but not every text is a pattern. -/
def Reads : MatchMode → String → Prop
  | exact, _ => True
  | regex, rule => ∃ q, NameMatcher.pattern rule = .ok q

/-- A rule matches a name: it is the name, or a pattern for it. -/
def Matches : MatchMode → String → String → Prop
  | exact, rule, name => name = rule
  | regex, rule, name => ∃ q, NameMatcher.pattern rule = .ok q ∧ q.isMatch name.toList = true

instance (mode : MatchMode) (rule : String) : Decidable (mode.Reads rule) :=
  match mode with
  | exact => .isTrue trivial
  | regex =>
    match h : NameMatcher.pattern rule with
    | .ok q => .isTrue ⟨q, h⟩
    | .error _ => .isFalse fun ⟨_, hq⟩ => nomatch h.symm.trans hq

instance (mode : MatchMode) (rule name : String) : Decidable (mode.Matches rule name) :=
  match mode with
  | exact => inferInstanceAs (Decidable (name = rule))
  | regex =>
    match h : NameMatcher.pattern rule with
    | .ok q =>
      decidable_of_iff (q.isMatch name.toList = true)
        ⟨fun hq => ⟨q, h, hq⟩, fun ⟨_, hp, hq⟩ => Except.ok.inj (h.symm.trans hp) ▸ hq⟩
    | .error _ => .isFalse fun ⟨_, hp, _⟩ => nomatch h.symm.trans hp

/-- Rules can be read exactly if each of them can. -/
theorem exists_compile_iff {mode : MatchMode} {rules : List String} :
    (∃ m, mode.compile rules = .ok m) ↔ ∀ rule ∈ rules, mode.Reads rule := by
  cases mode with
  | exact => exact iff_of_true (compile_exact rules) fun _ _ => trivial
  | regex =>
    unfold compile
    split
    · next hempty => simp [List.isEmpty_iff.1 hempty]
    · simp only [map_eq_ok_iff, NameMatcher.ofPatterns_eq_ok_iff]
      constructor
      · rintro ⟨_, _, ⟨ps, hps, -⟩, -⟩
        exact exists_forall₂_iff.1 ⟨ps, hps⟩
      · intro h
        obtain ⟨ps, hps⟩ := exists_forall₂_iff.2 h
        exact ⟨_, _, ⟨ps, hps, rfl⟩, rfl⟩

/-- Rules are read as nothing if there are none, and else as what matches the names that one of them
matches. -/
theorem compile_cases {mode : MatchMode} {rules : List String} {m : Option NameMatcher}
    (h : mode.compile rules = .ok m) :
    (rules = [] ∧ m = none) ∨ (rules ≠ [] ∧ ∃ matcher, m = some matcher ∧
      ∀ name, matcher.isMatch name = true ↔ ∃ rule ∈ rules, mode.Matches rule name) := by
  unfold compile at h
  split at h
  · next hempty =>
    cases h
    exact .inl ⟨List.isEmpty_iff.1 hempty, rfl⟩
  · next hsome =>
    refine .inr ⟨fun hnil => hsome (List.isEmpty_iff.2 hnil), ?_⟩
    cases mode with
    | exact =>
      cases h
      exact ⟨_, rfl, fun name => by simp [NameMatcher.isMatch, Matches]⟩
    | regex =>
      obtain ⟨matcher, hmatcher, rfl⟩ := map_eq_ok_iff.1 h
      obtain ⟨ps, hps, rfl⟩ := NameMatcher.ofPatterns_eq_ok_iff.1 hmatcher
      refine ⟨_, rfl, fun name => ?_⟩
      rw [NameMatcher.isMatch, List.any_eq_true]
      exact NameMatcher.exists_mem_of_forall₂ hps _

end MatchMode

/-! ## Names that are accepted -/

namespace Options

/-- All rules can be read. -/
def IsReadable (o : Options) : Prop := ∀ rule ∈ o.included ++ o.excluded, o.mode.Reads rule

/-- A name is matched by a rule that excludes. -/
def Excludes (o : Options) (name : String) : Prop := ∃ rule ∈ o.excluded, o.mode.Matches rule name

/-- A name is matched by a rule that includes, or there are none. -/
def Includes (o : Options) (name : String) : Prop :=
  o.included = [] ∨ ∃ rule ∈ o.included, o.mode.Matches rule name

/-- A name is accepted. What is excluded is not, even if it is included. -/
def Accepts (o : Options) (name : String) : Prop := ¬o.Excludes name ∧ o.Includes name

instance (o : Options) : Decidable o.IsReadable :=
  inferInstanceAs (Decidable (∀ rule ∈ o.included ++ o.excluded, o.mode.Reads rule))

instance (o : Options) (name : String) : Decidable (o.Excludes name) :=
  inferInstanceAs (Decidable (∃ rule ∈ o.excluded, o.mode.Matches rule name))

instance (o : Options) (name : String) : Decidable (o.Includes name) :=
  inferInstanceAs (Decidable (_ ∨ ∃ rule ∈ o.included, o.mode.Matches rule name))

instance (o : Options) (name : String) : Decidable (o.Accepts name) :=
  inferInstanceAs (Decidable (_ ∧ _))

/-- The specs of the structs whose names are accepted, in the order of the structs. -/
def selected (o : Options) (structs : List Struct) : List Spec :=
  (structs.filter fun s => o.Accepts s.name).map (Struct.spec o.tags)

end Options

/-- A filter accepts the names that the rules accept. -/
theorem NameFilter.accepts_iff {o : Options} {filter : NameFilter}
    (h : compile o.mode o.included o.excluded = .ok filter) (name : String) :
    filter.accepts name = true ↔ o.Accepts name := by
  obtain ⟨hi, he⟩ := compile_eq_ok_iff.1 h
  have hexcludes : filter.excluded.any (·.isMatch name) = true ↔ o.Excludes name := by
    unfold Options.Excludes
    rcases MatchMode.compile_cases he with ⟨hnil, hm⟩ | ⟨-, matcher, hm, hmatch⟩
    · simp [hnil, hm]
    · simpa [hm] using hmatch name
  have hincludes : filter.included.all (·.isMatch name) = true ↔ o.Includes name := by
    unfold Options.Includes
    rcases MatchMode.compile_cases hi with ⟨hnil, hm⟩ | ⟨hne, matcher, hm, hmatch⟩
    · simp [hnil, hm]
    · simpa [hm, hne] using hmatch name
  unfold accepts Options.Accepts
  rw [← hexcludes, ← hincludes]
  split
  · next h => simp [h]
  · next h => simp [h]

/-- A filter keeps the structs whose names the rules accept. -/
theorem NameFilter.kept_eq {o : Options} {filter : NameFilter}
    (h : compile o.mode o.included o.excluded = .ok filter) (structs : List Struct) :
    filter.kept structs = structs.filter fun s => o.Accepts s.name := by
  refine List.filter_congr fun s _ => ?_
  rw [Bool.eq_iff_iff, accepts_iff h, decide_eq_true_iff]

/-- There is a filter exactly if all rules can be read. -/
theorem NameFilter.exists_compile_iff {o : Options} :
    (∃ filter, compile o.mode o.included o.excluded = .ok filter) ↔ o.IsReadable := by
  unfold Options.IsReadable
  rw [List.forall_mem_append, ← MatchMode.exists_compile_iff, ← MatchMode.exists_compile_iff]
  constructor
  · rintro ⟨filter, h⟩
    obtain ⟨hi, he⟩ := compile_eq_ok_iff.1 h
    exact ⟨⟨_, hi⟩, _, he⟩
  · rintro ⟨⟨i, hi⟩, e, he⟩
    exact ⟨⟨i, e⟩, compile_eq_ok_iff.2 ⟨hi, he⟩⟩

/-! ## More rules, and the same rules in another way -/

/-- Rules and one more among them, in any order. -/
def IsWith (rule : String) (rules more : List String) : Prop := ∀ r, r ∈ more ↔ r = rule ∨ r ∈ rules

/-- The same rules in another order, or more than once. -/
def SameRules (rules others : List String) : Prop := ∀ r, r ∈ others ↔ r ∈ rules

theorem IsWith.exists_iff {rule : String} {rules more : List String} (h : IsWith rule rules more)
    (P : String → Prop) : (∃ r ∈ more, P r) ↔ P rule ∨ ∃ r ∈ rules, P r := by
  simp only [h _, or_and_right, exists_or, exists_eq_left]

theorem SameRules.exists_iff {rules others : List String} (h : SameRules rules others)
    (P : String → Prop) : (∃ r ∈ others, P r) ↔ ∃ r ∈ rules, P r := by
  simp only [h _]

theorem SameRules.eq_nil_iff {rules others : List String} (h : SameRules rules others) :
    others = [] ↔ rules = [] := by
  simp only [List.eq_nil_iff_forall_not_mem, h _]

namespace Options

variable {o : Options} {rule : String} {more : List String}

/-- One more rule that excludes takes away what it matches. -/
theorem accepts_excluding (h : IsWith rule o.excluded more) (name : String) :
    { o with excluded := more }.Accepts name ↔ o.Accepts name ∧ ¬o.mode.Matches rule name := by
  have hexcludes : { o with excluded := more }.Excludes name ↔
      o.mode.Matches rule name ∨ o.Excludes name := h.exists_iff _
  unfold Accepts
  rw [hexcludes, not_or]
  exact ⟨fun ⟨⟨hnot, hkeeps⟩, hi⟩ => ⟨⟨hkeeps, hi⟩, hnot⟩,
    fun ⟨⟨hkeeps, hi⟩, hnot⟩ => ⟨⟨hnot, hkeeps⟩, hi⟩⟩

/-- One more rule that includes adds what it matches and is not excluded, if there was one before. -/
theorem accepts_including (hsome : o.included ≠ []) (h : IsWith rule o.included more)
    (name : String) : { o with included := more }.Accepts name ↔
      o.Accepts name ∨ (o.mode.Matches rule name ∧ ¬o.Excludes name) := by
  have hmore : more ≠ [] := List.ne_nil_of_mem ((h rule).2 (.inl rfl))
  have hincludes : { o with included := more }.Includes name ↔
      o.mode.Matches rule name ∨ o.Includes name := by
    unfold Includes
    rw [or_iff_right hmore, or_iff_right hsome]
    exact h.exists_iff _
  have hexcludes : { o with included := more }.Excludes name ↔ o.Excludes name := Iff.rfl
  unfold Accepts
  rw [hincludes, hexcludes, and_or_left, or_comm, and_comm (b := o.mode.Matches rule name)]

/-- Neither the order of rules nor that one stands twice changes what is accepted. -/
theorem accepts_same {others : List String} (hi : SameRules o.included more)
    (he : SameRules o.excluded others) (name : String) :
    { o with included := more, excluded := others }.Accepts name ↔ o.Accepts name :=
  and_congr (not_congr (he.exists_iff _)) (or_congr hi.eq_nil_iff (hi.exists_iff _))

/-- One more rule that excludes takes the structs away whose names it matches. -/
theorem selected_excluding (h : IsWith rule o.excluded more) (structs : List Struct) :
    { o with excluded := more }.selected structs =
      (o.selected structs).filter fun s => ¬o.mode.Matches rule s.name := by
  unfold selected
  rw [List.filter_map, List.filter_filter]
  congr 1
  refine List.filter_congr fun s _ => ?_
  have hname : (Struct.spec o.tags s).name = s.name := rfl
  simp only [accepts_excluding h, Bool.decide_and, Function.comp_apply, hname, Bool.and_comm]

theorem selected_same {others : List String} (hi : SameRules o.included more)
    (he : SameRules o.excluded others) (structs : List Struct) :
    { o with included := more, excluded := others }.selected structs = o.selected structs := by
  simp only [selected, accepts_same hi he]

/-- Only the specs depend on the keys that are requested, and not which specs there are. -/
theorem names_selected (o : Options) (structs : List Struct) :
    (o.selected structs).map Spec.name =
      (structs.filter fun s => o.Accepts s.name).map Struct.name := List.map_map

/-- Rules that can be read, and more that can be. -/
theorem IsReadable.extend {included excluded : List String} (h : o.IsReadable)
    (hi : ∀ r ∈ included, o.mode.Reads r ∨ r ∈ o.included)
    (he : ∀ r ∈ excluded, o.mode.Reads r ∨ r ∈ o.excluded) :
    { o with included := included, excluded := excluded }.IsReadable := by
  obtain ⟨hincluded, hexcluded⟩ := List.forall_mem_append.1 h
  refine List.forall_mem_append.2 ⟨fun r hr => ?_, fun r hr => ?_⟩
  · exact (hi r hr).elim id (hincluded r)
  · exact (he r hr).elim id (hexcluded r)

theorem reads_of_isWith {rules : List String} (h : IsWith rule rules more)
    (hrule : o.mode.Reads rule) : ∀ r ∈ more, o.mode.Reads r ∨ r ∈ rules := by
  intro r hr
  rcases (h r).1 hr with rfl | hr
  · exact .inl hrule
  · exact .inr hr

end Options

/-! ## Models -/

namespace Model

/-- The model with other specs. -/
def withSpecs (m : Model) (specs : List Spec) : Model := ⟨⟨m.file.package, specs⟩, m.found⟩

/-- The model of rules that can be read has the specs that these select. -/
theorem result_build_of_readable {d : Declarations} {o : Options} {package : String}
    {structs : List Struct} (hpackage : (packageName d o).result = .ok package)
    (hstructs : d.structs.result = .ok structs) (hrules : o.IsReadable) :
    (build d o).result = .ok ⟨⟨package, o.selected structs⟩, structs.length⟩ := by
  obtain ⟨filter, hfilter⟩ := NameFilter.exists_compile_iff.2 hrules
  refine build_eq_ok_iff.2 ⟨filter, package, structs, mapError_eq_ok_iff.2 hfilter, hpackage,
    hstructs, ?_⟩
  rw [NameFilter.kept_eq hfilter]
  rfl

/-- What becomes of a model when one thing about its selection is different. -/
structure SelectsLocally (d : Declarations) (o : Options) (structs : List Struct) (m : Model) : Prop
    where
  /-- one more rule that excludes takes away the specs that it matches -/
  excluding {rule : String} {more : List String} : o.mode.Reads rule → IsWith rule o.excluded more →
    (build d { o with excluded := more }).result =
      .ok (m.withSpecs (m.file.specs.filter fun s => ¬o.mode.Matches rule s.name))
  /-- one more rule that includes, if there are any, adds what it matches and no rule excludes -/
  including {rule : String} {more : List String} : o.included ≠ [] → o.mode.Reads rule →
    IsWith rule o.included more →
    (build d { o with included := more }).result =
      .ok (m.withSpecs ((structs.filter fun s =>
        o.Accepts s.name ∨ (o.mode.Matches rule s.name ∧ ¬o.Excludes s.name)).map
          (Struct.spec o.tags)))
  /-- order and repetition of rules make no difference -/
  same {included excluded : List String} : SameRules o.included included →
    SameRules o.excluded excluded →
    (build d { o with included := included, excluded := excluded }).result = .ok m
  /-- structs that were selected before are all selected again -/
  again {filter : NameFilter} : nameFilter o = .ok filter →
    filter.kept (filter.kept structs) = filter.kept structs ∧
      (build { d with structs := filter.apply structs } o).result =
        .ok ⟨m.file, m.file.specs.length⟩
  /-- which keys are requested makes no difference to which specs there are, and in which order -/
  tags (tags : List String) : ∃ specs, (build d { o with tags := tags }).result =
    .ok (m.withSpecs specs) ∧ specs.map Spec.name = m.file.specs.map Spec.name

/-- A model has a spec for each struct whose name is accepted, in the order of the structs, and the
number of all structs. So each rule by itself decides about each struct by itself. -/
theorem build_selects {d : Declarations} {o : Options} {package : String} {structs : List Struct}
    (hpackage : (packageName d o).result = .ok package)
    (hstructs : d.structs.result = .ok structs) (hrules : o.IsReadable) :
    ∃ m, (build d o).result = .ok m ∧ m.found = structs.length ∧
      m.file.specs = (structs.filter fun s => o.Accepts s.name).map (Struct.spec o.tags) ∧
      SelectsLocally d o structs m := by
  have hbuild {o' : Options} (h : o'.IsReadable) (hname : o'.outPackage = o.outPackage) :
      (build d o').result = .ok ⟨⟨package, o'.selected structs⟩, structs.length⟩ := by
    refine result_build_of_readable ?_ hstructs h
    unfold packageName at hpackage ⊢
    rw [hname]
    exact hpackage
  have hkept {rules : List String} : ∀ r ∈ rules, o.mode.Reads r ∨ r ∈ rules := fun _ => .inr
  refine ⟨_, hbuild hrules rfl, rfl, rfl, ?_⟩
  constructor
  case excluding =>
    intro rule more hrule hmore
    have hreadable := hrules.extend hkept (Options.reads_of_isWith hmore hrule)
    rw [hbuild hreadable rfl, Options.selected_excluding hmore]
    rfl
  case including =>
    intro rule more hsome hrule hmore
    have hreadable := hrules.extend (Options.reads_of_isWith hmore hrule) hkept
    rw [hbuild hreadable rfl, Options.selected]
    simp only [Options.accepts_including hsome hmore]
    rfl
  case same =>
    intro included excluded hi he
    have hreadable := hrules.extend (fun r hr => .inr ((hi r).1 hr)) fun r hr => .inr ((he r).1 hr)
    rw [hbuild hreadable rfl, Options.selected_same hi he]
  case again =>
    intro filter hfilter
    have hagain : filter.kept (filter.kept structs) = filter.kept structs := by
      simp [NameFilter.kept]
    have hselected : o.selected structs = (filter.kept structs).map (Struct.spec o.tags) := by
      rw [Options.selected, NameFilter.kept_eq (mapError_eq_ok_iff.1 hfilter)]
    refine ⟨hagain, build_eq_ok_iff.2 ⟨filter, package, _, hfilter, hpackage, rfl, ?_⟩⟩
    rw [hagain, hselected, List.length_map]
  case tags =>
    intro tags
    refine ⟨_, hbuild hrules rfl, ?_⟩
    rw [Options.names_selected, Options.names_selected]
    rfl

/-- Two structs are selected of four; one more pattern selects another one, and still not the one that
is excluded. -/
theorem build_selects_prefixed :
    let o : Options := ⟨["A.*"], ["AB"], [], .regex, none⟩
    let d : Declarations := ⟨pure "sample", pure [⟨"A", []⟩, ⟨"AB", []⟩, ⟨"AC", []⟩, ⟨"B", []⟩]⟩
    o.IsReadable ∧ ∃ m, (build d o).result = .ok m ∧ m.file.specs = [⟨"A", []⟩, ⟨"AC", []⟩] ∧
      (build d { o with included := ["A?B", "A.*"] }).result =
        .ok (m.withSpecs [⟨"A", []⟩, ⟨"AC", []⟩, ⟨"B", []⟩]) := by
  intro o d
  have hpackage : (packageName d o).result = .ok "sample" := rfl
  have hreadable : o.IsReadable := by decide +kernel
  obtain ⟨m, hm, -, hspecs, hlocal⟩ := build_selects hpackage rfl hreadable
  refine ⟨hreadable, m, hm, ?_, ?_⟩
  · rw [hspecs]
    decide +kernel
  · have hmore : IsWith "A?B" o.included ["A?B", "A.*"] := by simp [IsWith, o]
    rw [hlocal.including (by decide) (by decide +kernel) hmore]
    congr 2
    decide +kernel

end Model

end TagSpec
