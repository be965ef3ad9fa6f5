import Mathlib.Data.List.Induction
import Mathlib.Data.List.Nodup
import TagSpec.Settings.Environment

/-!
# Values laid over values

What stands under a key, or at the end of a path of two keys, of a value that is laid over another.
Main statement: `at?_settings`, by which the last of the variables that say something of a key decides
what the environment says of it.
-/

namespace TagSpec.Settings

namespace Value

variable {key : String} {v : Value} {es : List (String × Value)}

/-! ## Well formed values -/

/-- A value that is a table. -/
def IsTable (v : Value) : Prop := ∃ es, v = .table es

/-- Values whose tables have no key twice. -/
inductive Proper : Value → Prop
  | table {es : List (String × Value)} : (es.map Prod.fst).Nodup →
      (∀ e ∈ es, Proper e.2) → Proper (.table es)
  | other {v : Value} : (∀ es, v ≠ .table es) → Proper v

namespace Proper

theorem empty : Proper (.table []) := .table List.nodup_nil nofun

theorem nodup (h : Proper (.table es)) : (es.map Prod.fst).Nodup := by
  cases h with
  | table hnodup _ => exact hnodup
  | other hno => exact absurd rfl (hno es)

theorem entry (h : Proper (.table es)) : ∀ e ∈ es, Proper e.2 := by
  cases h with
  | table _ hentries => exact hentries
  | other hno => exact absurd rfl (hno es)

theorem tail {e : String × Value} (h : Proper (.table (e :: es))) : Proper (.table es) :=
  .table (List.nodup_cons.1 h.nodup).2 fun e' he' => h.entry e' (List.mem_cons_of_mem _ he')

theorem lookup (h : Proper (.table es)) (hv : es.lookup key = some v) : Proper v := by
  obtain ⟨before, after, rfl, -⟩ := List.lookup_eq_some_iff.1 hv
  exact h.entry (key, v) (by simp)

end Proper

/-! ## Entries -/

theorem lookup_eq_none_of_not_mem (h : key ∉ es.map Prod.fst) : es.lookup key = none := by
  rw [List.lookup_eq_none_iff]
  intro e he
  rw [bne_iff_ne]
  rintro rfl
  exact h (List.mem_map_of_mem he)

/-- A value put under a key is found there, and all else where it was. -/
theorem lookup_putEntry (key : String) (v : Value) (es : List (String × Value)) (k : String) :
    (putEntry key v es).lookup k = if k = key then some v else es.lookup k := by
  induction es with
  | nil =>
    by_cases h : k = key
    · simp [putEntry, h]
    · simp [putEntry, h, List.lookup_cons, beq_eq_false_iff_ne.2 h]
  | cons e es ih =>
    obtain ⟨k', v'⟩ := e
    rw [putEntry]
    split
    · next h =>
      subst h
      by_cases hk : k = k'
      · simp [hk]
      · simp [List.lookup_cons, beq_eq_false_iff_ne.2 hk, hk]
    · next h =>
      by_cases hk : k = k'
      · subst hk
        simp [h]
      · simp [List.lookup_cons, beq_eq_false_iff_ne.2 hk, ih]

/-- A key that is there keeps its place, and a new one comes last. -/
theorem keys_putEntry (key : String) (v : Value) (es : List (String × Value)) :
    (putEntry key v es).map Prod.fst =
      if key ∈ es.map Prod.fst then es.map Prod.fst else es.map Prod.fst ++ [key] := by
  induction es with
  | nil => rfl
  | cons e es ih =>
    obtain ⟨k, v'⟩ := e
    rw [putEntry]
    split
    · next hkey => simp [hkey]
    · next hkey =>
      have hne : ¬key = k := fun h => hkey h.symm
      simp only [List.map_cons, ih, List.mem_cons, hne, false_or]
      split <;> simp

theorem mem_putEntry {e : String × Value} (h : e ∈ putEntry key v es) : e.2 = v ∨ e ∈ es := by
  induction es with
  | nil =>
    rw [List.mem_singleton.1 h]
    exact .inl rfl
  | cons e' es ih =>
    rw [putEntry] at h
    split at h
    · rcases List.mem_cons.1 h with rfl | hrest
      · exact .inl rfl
      · exact .inr (List.mem_cons_of_mem _ hrest)
    · rcases List.mem_cons.1 h with rfl | hrest
      · exact .inr List.mem_cons_self
      · exact (ih hrest).imp_right (List.mem_cons_of_mem _)

theorem Proper.putEntry (h : Proper (.table es)) (hv : Proper v) :
    Proper (.table (putEntry key v es)) := by
  constructor
  · rw [keys_putEntry]
    split
    · exact h.nodup
    · next hnot => exact List.nodup_append_comm.1 (List.nodup_cons.2 ⟨hnot, h.nodup⟩)
  · intro e he
    rcases mem_putEntry he with hsame | hold
    · rwa [hsame]
    · exact h.entry e hold

/-! ## Laying over -/

/-- What two values make of which the second is laid over the first, as far as they are there. -/
def laid : Option Value → Option Value → Option Value
  | below, none => below
  | none, some above => some above
  | some below, some above => some (overlay below above)

@[simp] theorem laid_none (below : Option Value) : laid below none = below := by cases below <;> rfl

@[simp] theorem none_laid (above : Option Value) : laid none above = above := by cases above <;> rfl

/-- Under each key of a table with another laid over it lies what both have there. -/
theorem lookup_overlayEntries {above : List (String × Value)} (h : (above.map Prod.fst).Nodup)
    (below : List (String × Value)) (key : String) :
    (overlayEntries below above).lookup key = laid (below.lookup key) (above.lookup key) := by
  induction above generalizing below with
  | nil => simp [overlayEntries]
  | cons e above ih =>
    obtain ⟨k, v⟩ := e
    obtain ⟨hk, hnodup⟩ := List.nodup_cons.1 h
    have hput (w : Value) (hw : laid (below.lookup k) (some v) = some w) :
        (overlayEntries (putEntry k w below) above).lookup key =
          laid (below.lookup key) (((k, v) :: above).lookup key) := by
      rw [ih hnodup, lookup_putEntry]
      by_cases hkey : key = k
      · subst hkey
        rw [if_pos rfl, lookup_eq_none_of_not_mem hk, List.lookup_cons_self, laid_none, hw]
      · rw [if_neg hkey, List.lookup_cons, beq_eq_false_iff_ne.2 hkey]
    rw [overlayEntries]
    cases hold : below.lookup k with
    | none => exact hput v (by rw [hold]; rfl)
    | some old => exact hput (overlay old v) (by rw [hold]; rfl)

mutual

theorem Proper.overlay {below : Value} : {above : Value} → Proper below → Proper above →
    Proper (overlay below above)
  | .table above, hbelow, habove => by
    cases below with
    | table entries =>
      rw [Value.overlay]
      exact Proper.overlayEntries hbelow habove
    | _ => exact habove
  | .string _, _, h | .bool _, _, h | .natural _, _, h | .integer _, _, h | .real _, _, h
  | .list _, _, h => h

theorem Proper.overlayEntries {below : List (String × Value)} : {above : List (String × Value)} →
    Proper (.table below) → Proper (.table above) → Proper (.table (overlayEntries below above))
  | [], hbelow, _ => hbelow
  | (k, v) :: above, hbelow, habove => by
    have hv : Proper v := habove.entry (k, v) List.mem_cons_self
    rw [Value.overlayEntries]
    split
    · next old hold =>
      have hlaid : Proper (Value.overlay old v) := Proper.overlay (hbelow.lookup hold) hv
      exact Proper.overlayEntries (hbelow.putEntry hlaid) habove.tail
    · exact Proper.overlayEntries (hbelow.putEntry hv) habove.tail

end

/-- What is no table covers what is below it. -/
theorem overlay_of_ne_table {below above : Value} (h : ∀ es, above ≠ .table es) :
    overlay below above = above := by
  cases above with
  | table es => exact absurd rfl (h es)
  | _ => rfl

theorem isTable_overlay {above : Value} (h : above.IsTable) (below : Value) :
    (overlay below above).IsTable := by
  obtain ⟨es, rfl⟩ := h
  cases below with
  | table entries => exact ⟨_, by rw [overlay]⟩
  | _ => exact ⟨es, rfl⟩

/-- What ends up as something else than a table is what was laid on last. -/
theorem laid_some_of_ne_table {below : Option Value} {above : Value}
    (h : ∀ es, laid below (some above) ≠ some (.table es)) : laid below (some above) = some above := by
  cases below with
  | none => rfl
  | some b =>
    refine congrArg some (overlay_of_ne_table ?_)
    rintro es rfl
    obtain ⟨es', hes⟩ := isTable_overlay ⟨es, rfl⟩ b
    exact h es' (congrArg some hes)

/-! ## Paths -/

/-- A value whose entry under a key is a table, if there is one. -/
def HasTable (key : String) (v : Value) : Prop := ∀ w, v.get? key = some w → w.IsTable

theorem at?_pair (v : Value) (key name : String) :
    v.at? [key, name] = (v.get? key).bind (get? name) := by
  show ((v.get? key).bind fun w => (w.get? name).bind some) = _
  simp

theorem Proper.get? (h : Proper v) {w : Value} (hw : v.get? key = some w) : Proper w := by
  cases v with
  | table es => exact h.lookup hw
  | _ => cases hw

section Overlay

variable {below above : Value} (hproper : Proper above)
include hproper

/-- Under a key of two values laid over each other lie the two values under that key. -/
theorem get?_overlay (htable : above.IsTable) (key : String) :
    (overlay below above).get? key = laid (below.get? key) (above.get? key) := by
  obtain ⟨es, rfl⟩ := htable
  cases below with
  | table entries =>
    rw [overlay]
    exact lookup_overlayEntries hproper.nodup entries key
  | _ => exact (none_laid _).symm

theorem hasTable_overlay (htable : above.IsTable) (hbelow : below.HasTable key)
    (habove : above.HasTable key) : (overlay below above).HasTable key := by
  intro w hw
  rw [get?_overlay hproper htable] at hw
  cases ha : above.get? key with
  | none => exact hbelow w (by rwa [ha, laid_none] at hw)
  | some a =>
    rw [ha] at hw
    cases hb : below.get? key with
    | none =>
      rw [hb] at hw
      exact Option.some.inj hw ▸ habove a ha
    | some b =>
      rw [hb] at hw
      exact Option.some.inj hw ▸ isTable_overlay (habove a ha) b

/-- What stands at the end of a path of two keys is laid over, too, unless something else than a table
covers it. -/
theorem at?_overlay (htable : above.IsTable) (hkey : above.HasTable key) (name : String) :
    (overlay below above).at? [key, name] =
      laid (below.at? [key, name]) (above.at? [key, name]) := by
  rw [at?_pair, at?_pair, at?_pair, get?_overlay hproper htable]
  cases habove : above.get? key with
  | none => simp
  | some a =>
    cases hbelow : below.get? key with
    | none => simp
    | some b => exact get?_overlay (hproper.get? habove) (hkey a habove) name

end Overlay

end Value

namespace Environment

open Value

/-! ## Variables -/

theorem proper_frontEntry {k : String} {v : Value} {es : List (String × Value)} (hv : Proper v)
    (h : Proper (.table es)) : Proper (.table (frontEntry k v es)) := by
  unfold frontEntry
  split
  · exact h
  · next hnew =>
    rw [List.lookup_isSome_iff] at hnew
    constructor
    · refine List.nodup_cons.2 ⟨?_, h.nodup⟩
      rintro hk
      obtain ⟨e, he, hsame⟩ := List.mem_map.1 hk
      exact hnew ⟨e, he, beq_iff_eq.2 hsame.symm⟩
    · exact List.forall_mem_cons.2 ⟨hv, h.entry⟩

theorem proper_wordValue (cs : List Char) : Proper (wordValue cs) := by
  unfold wordValue
  split
  · exact .other nofun
  · split
    · exact .other nofun
    · split <;> exact .other nofun

section Reading

variable {fuel : Nat}
  (hentries : ∀ cs es rest, readEntries fuel cs = some (es, rest) → Proper (.table es))
include hentries

theorem proper_readValue {cs rest : List Char} {v : Value}
    (h : readValue (fuel + 1) cs = some (v, rest)) : Proper v := by
  rw [readValue] at h
  dsimp only at h
  -- the forms of a value in order: two words, a table, a list, two ways of quoting, bare
  split at h
  · cases h
    exact .other nofun
  · cases h
    exact .other nofun
  · simp only [Option.map_eq_some_iff, Prod.exists, Prod.mk.injEq] at h
    obtain ⟨_, _, ⟨es, _, hread, rfl, rfl⟩, rfl, -⟩ := h
    exact hentries _ _ _ hread
  · simp only [Option.map_eq_some_iff, Prod.exists, Prod.mk.injEq] at h
    obtain ⟨_, _, ⟨vs, _, -, rfl, rfl⟩, rfl, -⟩ := h
    exact .other nofun
  · simp only [Option.map_eq_some_iff, Prod.exists, Prod.mk.injEq] at h
    obtain ⟨_, _, ⟨s, _, -, rfl, rfl⟩, rfl, -⟩ := h
    exact .other nofun
  · cases h
    exact .other nofun
  · cases h
  · cases h
    exact proper_wordValue _

theorem proper_readEntries
    (hvalue : ∀ cs v rest, readValue fuel cs = some (v, rest) → Proper v) {cs rest : List Char}
    {es : List (String × Value)} (h : readEntries (fuel + 1) cs = some (es, rest)) :
    Proper (.table es) := by
  unfold readEntries at h
  split at h
  · cases h
  · cases h
    exact .empty
  · next hfuel _ =>
    cases hfuel
    dsimp only at h
    split at h
    · cases h
    · next k r hkey =>
      split at h
      · split at h
        · next v more hread =>
          simp only [Option.map_eq_some_iff, Prod.exists, Prod.mk.injEq] at h
          obtain ⟨es', _, hrest, rfl, -⟩ := h
          exact proper_frontEntry (hvalue _ _ _ hread) (hentries _ _ _ hrest)
        · next v more hread =>
          cases h
          exact proper_frontEntry (hvalue _ _ _ hread) .empty
        · cases h
      · cases h

end Reading

/-- What is read has no key twice in a table, at whatever depth. -/
theorem proper_read (fuel : Nat) :
    (∀ cs v rest, readValue fuel cs = some (v, rest) → Proper v) ∧
      ∀ cs es rest, readEntries fuel cs = some (es, rest) → Proper (.table es) := by
  induction fuel with
  | zero => exact ⟨nofun, nofun⟩
  | succ fuel ih =>
    obtain ⟨hvalue, hentries⟩ := ih
    exact ⟨fun _ _ _ => proper_readValue hentries,
      fun _ _ _ => proper_readEntries hentries hvalue⟩

/-- No table that a variable says has a key twice. -/
theorem proper_valueOf (text : String) : Proper (valueOf text) := by
  unfold valueOf
  split
  · next v hread => exact (proper_read _).1 _ _ _ hread
  · exact .other nofun

theorem proper_nest {v : Value} (h : Proper v) (keys : List String) : Proper (nest v keys) := by
  induction keys with
  | nil => exact h
  | cons key keys ih => exact .table (List.nodup_singleton key) (List.forall_mem_singleton.2 ih)

theorem isTable_nest {name : String} {keys : List String} (h : keyPath? name = some keys)
    (v : Value) : (nest v keys).IsTable := by
  cases keys with
  | nil =>
    -- a name has one piece at least
    unfold keyPath? at h
    obtain ⟨rest, -, hrest⟩ := Option.bind_eq_some_iff.1 h
    dsimp only at hrest
    split at hrest
    · cases hrest
    · exact absurd (List.map_eq_nil_iff.1 (Option.some.inj hrest)) (pieces_ne_nil _ _)
  | cons key keys => exact ⟨_, rfl⟩

/-- The settings that a variable says, if its name says that it does. -/
def nested? (e : String × String) : Option Value := (keyPath? e.1).map (nest (valueOf e.2))

theorem nested?_spec {e : String × String} {v : Value} (h : nested? e = some v) :
    Proper v ∧ v.IsTable := by
  obtain ⟨keys, hkeys, rfl⟩ := Option.map_eq_some_iff.1 h
  exact ⟨proper_nest (proper_valueOf _) keys, isTable_nest hkeys _⟩

/-- A value with what a variable says laid over it. -/
def lay (v : Value) (e : String × String) : Value := (nested? e).elim v (overlay v)

/-- The settings of variables are laid over each other in their order. -/
theorem settings_eq (environment : List (String × String)) :
    settings environment = environment.foldl lay (.table []) := by
  unfold settings
  congr 1
  funext v ⟨name, text⟩
  unfold lay nested?
  dsimp only
  cases keyPath? name <;> rfl

/-- The environment says a table, with no key twice in it. -/
theorem settings_spec (environment : List (String × String)) :
    Proper (settings environment) ∧ (settings environment).IsTable := by
  rw [settings_eq]
  induction environment using List.reverseRecOn with
  | nil => exact ⟨.empty, [], rfl⟩
  | append_singleton environment e ih =>
    rw [List.foldl_concat, lay]
    cases hnested : nested? e with
    | none => exact ih
    | some above =>
      obtain ⟨hproper, htable⟩ := nested?_spec hnested
      exact ⟨ih.1.overlay hproper, isTable_overlay htable _⟩

/-! ## What is told of a key -/

/-- What a variable says of the end of a path of keys. -/
def told? (path : List String) (e : String × String) : Option Value := (nested? e).bind (at? path)

/-- A variable that says of a key nothing else than a table. -/
def TellsTable (key : String) (e : String × String) : Prop :=
  ∀ w, told? [key] e = some w → w.IsTable

theorem TellsTable.hasTable {key : String} {e : String × String} (h : TellsTable key e) {v : Value}
    (hv : nested? e = some v) : v.HasTable key := by
  intro w hw
  apply h w
  rw [told?, hv]
  exact congrArg (Option.bind · some) hw

/-- A variable is laid over what is there, key by key. -/
theorem at?_lay {key : String} {e : String × String} (h : TellsTable key e) (v : Value)
    (name : String) :
    (lay v e).at? [key, name] = laid (v.at? [key, name]) (told? [key, name] e) := by
  unfold lay told?
  cases hnested : nested? e with
  | none => exact (laid_none _).symm
  | some above =>
    obtain ⟨hproper, htable⟩ := nested?_spec hnested
    exact at?_overlay hproper htable (h.hasTable hnested) name

/-- Where no variable says anything else than a table, nor does the environment. -/
theorem hasTable_settings {key : String} {environment : List (String × String)}
    (h : ∀ e ∈ environment, TellsTable key e) : (settings environment).HasTable key := by
  rw [settings_eq]
  induction environment using List.reverseRecOn with
  | nil => exact nofun
  | append_singleton environment e ih =>
    have hrest := ih fun e' he' => h e' (List.mem_append_left _ he')
    rw [List.foldl_concat, lay]
    cases hnested : nested? e with
    | none => exact hrest
    | some above =>
      obtain ⟨hproper, htable⟩ := nested?_spec hnested
      exact hasTable_overlay hproper htable hrest ((h e (by simp)).hasTable hnested)

/-- What the environment says at the end of a path is what the last of the variables says that say
something of it, unless tables are put together there. -/
theorem at?_settings {key name : String} {environment : List (String × String)}
    (h : ∀ e ∈ environment, TellsTable key e)
    (hvalue : ∀ es, (settings environment).at? [key, name] ≠ some (.table es)) :
    (settings environment).at? [key, name] =
      (environment.filterMap (told? [key, name])).getLast? := by
  rw [settings_eq] at hvalue ⊢
  induction environment using List.reverseRecOn with
  | nil => rfl
  | append_singleton environment e ih =>
    rw [List.foldl_concat, at?_lay (h e (by simp))] at hvalue ⊢
    rw [List.filterMap_append]
    cases htold : told? [key, name] e with
    | none =>
      rw [htold, laid_none] at hvalue
      rw [laid_none, ih (fun e' he' => h e' (List.mem_append_left _ he')) hvalue]
      simp [htold]
    | some above =>
      rw [htold] at hvalue
      rw [laid_some_of_ne_table hvalue]
      simp [htold]

end Environment

end TagSpec.Settings
