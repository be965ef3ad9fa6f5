import TagSpec.Journal
import TagSpec.Regex.Item

/-!
# Readers in front of a parenthesis

What becomes of a reader of part of a pattern when a closing parenthesis stands behind the text.
`Extends` names the three things that can happen, and `Local` says that one of them does on every
text; the lemmas here are about readers that are put together of others.
-/

namespace TagSpec.Regex

abbrev Reader (α : Type) := List Char → Except Fault (α × List Char)

/-- What may stand behind the parenthesis: nothing, or the end of an anchored pattern. -/
def tails : List (List Char) := [[], ['$']]

theorem not_mem_tail {c : Char} {more : List Char} (hm : more ∈ tails) (hc : c ∉ [')', '$']) :
    c ∉ ')' :: more := by
  rcases List.mem_cons.1 hm with rfl | hm
  · exact fun h => hc (List.mem_append_left ['$'] h)
  · rw [List.mem_singleton.1 hm]
    exact hc

theorem not_mem_append_tail {c : Char} {cs more : List Char} (hm : more ∈ tails)
    (hc : c ∉ [')', '$']) (hcs : c ∉ cs) : c ∉ cs ++ ')' :: more :=
  fun h => (List.mem_append.1 h).elim hcs (not_mem_tail hm hc)

/-- A reader stops in front of a parenthesis that stands behind a text; or the text ends in a comment,
of which the parenthesis becomes part; or it fails on the text, and nothing but `kept` and what stands
behind the parenthesis is left when it does not fail with it. -/
inductive Extends {α : Type} (kept : List Char) (R : Reader α) (cs : List Char) : Prop
  | left (a : α) (rest : List Char) : R cs = .ok (a, rest) →
      (∀ more ∈ tails, R (cs ++ ')' :: more) = .ok (a, rest ++ ')' :: more)) → Extends kept R cs
  | comment (a : α) : R cs = .ok (a, []) →
      (∀ more ∈ tails, R (cs ++ ')' :: more) = .ok (a, [])) → Extends kept R cs
  | failed {e : Fault} : R cs = .error e →
      (∀ more ∈ tails, ∀ a rest, R (cs ++ ')' :: more) = .ok (a, rest) → rest <:+ kept ++ more) →
      Extends kept R cs

/-- What a reader leaves is the end of the text. -/
def Shortens {α : Type} (R : Reader α) : Prop :=
  ∀ (cs : List Char) (a : α) (rest : List Char), R cs = .ok (a, rest) → rest <:+ cs

/-- A reader that looks no further than it reads. -/
structure Local {α : Type} (kept : List Char) (R : Reader α) : Prop where
  shortens : Shortens R
  extend (cs : List Char) : Extends kept R cs

section

variable {α β : Type} {kept cs : List Char} {R : Reader α}

theorem Extends.of_eq {S : Reader α} {ds : List Char} (h : R cs = S ds)
    (hext : ∀ more ∈ tails, R (cs ++ ')' :: more) = S (ds ++ ')' :: more)) (hS : Extends kept S ds) :
    Extends kept R cs := by
  rcases hS with ⟨a, rest, hok, hmore⟩ | ⟨a, hok, hmore⟩ | ⟨herr, hmore⟩
  · exact .left a rest (h.trans hok) fun more hm => (hext more hm).trans (hmore more hm)
  · exact .comment a (h.trans hok) fun more hm => (hext more hm).trans (hmore more hm)
  · exact .failed (h.trans herr) fun more hm a rest hR =>
      hmore more hm a rest ((hext more hm).symm.trans hR)

/-- Nothing is read of a text, and nothing is read with a parenthesis behind it either. -/
theorem Extends.of_errors {e : Fault} (h : R cs = .error e)
    (hext : ∀ more ∈ tails, ∃ e', R (cs ++ ')' :: more) = .error e') : Extends kept R cs := by
  refine .failed h fun more hm a rest hR => ?_
  obtain ⟨e', he'⟩ := hext more hm
  rw [he'] at hR
  cases hR

/-- Another reader goes on where the first one stops. It says what is left where the first one fails. -/
theorem Extends.bind {last : List Char} {K : α → Reader β} (hR : Extends kept R cs)
    (hK : ∀ a, Local last (K a))
    (hfail : ∀ more ∈ tails, ∀ a text b rest, text <:+ kept ++ more → K a text = .ok (b, rest) →
      rest <:+ last ++ more) : Extends last (fun cs => R cs >>= fun r => K r.1 r.2) cs := by
  rcases hR with ⟨a, rest, hok, hmore⟩ | ⟨a, hok, hmore⟩ | ⟨herr, hmore⟩
  · refine .of_eq (S := K a) ?_ (fun more hm => ?_) ((hK a).extend rest)
    · rw [hok]
      rfl
    · rw [hmore more hm]
      rfl
  · cases hk : K a [] with
    | error e =>
      refine .of_errors (e := e) ?_ fun more hm => ⟨e, ?_⟩
      · rw [hok]
        exact hk
      · rw [hmore more hm]
        exact hk
    | ok r =>
      obtain ⟨b, rest⟩ := r
      have hrest := List.suffix_nil.1 ((hK a).shortens _ _ _ hk)
      subst hrest
      refine .comment b ?_ fun more hm => ?_
      · rw [hok]
        exact hk
      · rw [hmore more hm]
        exact hk
  · refine .failed (by rw [herr]; rfl) fun more hm b rest h => ?_
    obtain ⟨r, hr, hb⟩ := bind_eq_ok_iff.1 h
    exact hfail more hm r.1 r.2 b rest (hmore more hm r.1 r.2 hr) hb

/-- What is read behind a reader may look no further than the text either. -/
theorem Extends.bind_local {K : α → Reader β} (hR : Extends kept R cs) (hK : ∀ a, Local kept (K a)) :
    Extends kept (fun cs => R cs >>= fun r => K r.1 r.2) cs :=
  hR.bind hK fun _ _ a _ _ _ htext h => ((hK a).shortens _ _ _ h).trans htext

/-- What two readers in a row leave is the end of the text. -/
theorem Shortens.bind {K : α → Reader β} (hR : Shortens R) (hK : ∀ a, Shortens (K a)) :
    Shortens fun cs => R cs >>= fun r => K r.1 r.2 := by
  intro cs b rest h
  obtain ⟨r, hr, hb⟩ := bind_eq_ok_iff.1 h
  exact (hK r.1 _ _ _ hb).trans (hR _ _ _ hr)

namespace Local

/-- Reads nothing. -/
protected theorem pure (a : α) : Local kept fun cs => .ok (a, cs) where
  shortens := by
    intro cs b rest h
    cases h
    exact List.suffix_refl _
  extend cs := .left a cs rfl fun _ _ => rfl

theorem error (e : Fault) : Local kept (fun _ => .error e : Reader α) where
  shortens := nofun
  extend _ := .of_errors rfl fun _ _ => ⟨e, rfl⟩

/-- What is made of something read before decides whether reading goes on. -/
theorem lift {K : α → Reader β} (x : Except Fault α) (hK : ∀ a, Local kept (K a)) :
    Local kept fun cs => x >>= fun a => K a cs := by
  cases x with
  | error e => exact .error e
  | ok a => exact hK a

theorem congr {S : Reader α} (hS : Local kept S) (h : ∀ cs, R cs = S cs) : Local kept R := by
  rwa [show R = S from funext h]

/-- One reader after another. -/
protected theorem bind {K : α → Reader β} (hR : Local kept R) (hK : ∀ a, Local kept (K a)) :
    Local kept fun cs => R cs >>= fun r => K r.1 r.2 where
  shortens := hR.shortens.bind fun a => (hK a).shortens
  extend cs := (hR.extend cs).bind_local hK

/-- Where the first of two readers leaves more when it fails, the second fails there. -/
theorem bind_failing {K : α → Reader β} (hR : Local kept R) (hK : ∀ a, Local [] (K a))
    (hfail : ∀ more ∈ tails, ∀ a text, text <:+ kept ++ more → ∃ e, K a text = .error e) :
    Local [] fun cs => R cs >>= fun r => K r.1 r.2 where
  shortens := hR.shortens.bind fun a => (hK a).shortens
  extend cs := (hR.extend cs).bind hK fun more hm a text _ _ htext h => by
    obtain ⟨e, he⟩ := hfail more hm a text htext
    rw [he] at h
    cases h

/-- A reader that uses up each first character, and fails where there is none. -/
theorem of_cons (hnil : ∃ e, R [] = .error e) (hcons : ∀ c, Local kept fun cs => R (c :: cs)) :
    Local kept R where
  shortens := by
    intro cs a rest h
    obtain ⟨e, he⟩ := hnil
    cases cs with
    | nil =>
      rw [he] at h
      cases h
    | cons c cs => exact ((hcons c).shortens _ _ _ h).trans (List.suffix_cons c cs)
  extend cs := by
    obtain ⟨e, he⟩ := hnil
    cases cs with
    | nil =>
      refine .failed he fun more hm a rest h => ?_
      exact ((hcons ')').shortens _ _ _ h).trans (List.suffix_append kept more)
    | cons c cs =>
      exact .of_eq (S := fun cs => R (c :: cs)) rfl (fun _ _ => rfl) ((hcons c).extend cs)

/-- What a reader that uses up at least one character reads behind a first one. -/
theorem cons (hR : Local kept R) (htail : ∀ cs a rest, R cs = .ok (a, rest) → rest <:+ cs.tail)
    (c : Char) : Local kept fun cs => R (c :: cs) where
  shortens cs a rest h := htail (c :: cs) a rest h
  extend cs := .of_eq (S := R) rfl (fun _ _ => rfl) (hR.extend (c :: cs))

/-- A reader that is one or another, as the first character tells. -/
theorem of_choice {A B : Reader α} (keep : Char → Prop) (hparen : ¬ keep ')') (hA : Local kept A)
    (hB : Local kept B) (hkeep : ∀ c r, keep c → R (c :: r) = A (c :: r))
    (hother : ∀ cs, (∀ c r, cs = c :: r → ¬ keep c) → R cs = B cs) : Local kept R where
  shortens := by
    intro cs a rest h
    cases cs with
    | nil => exact hB.shortens _ _ _ ((hother [] (by simp)).symm.trans h)
    | cons c r =>
      by_cases hc : keep c
      · exact hA.shortens _ _ _ ((hkeep c r hc).symm.trans h)
      · refine hB.shortens _ _ _ ((hother _ ?_).symm.trans h)
        rintro c' r' ⟨⟩
        exact hc
  extend cs := by
    cases cs with
    | nil =>
      refine .of_eq (hother [] (by simp)) (fun more hm => hother _ ?_) (hB.extend [])
      rintro c r ⟨⟩
      exact hparen
    | cons c r =>
      by_cases hc : keep c
      · exact .of_eq (hkeep c r hc) (fun more _ => hkeep c _ hc) (hA.extend (c :: r))
      · refine .of_eq (hother _ ?_) (fun more hm => hother _ ?_) (hB.extend (c :: r))
        · rintro c' r' ⟨⟩
          exact hc
        · rintro c' r' ⟨⟩
          exact hc

/-- A reader that uses up some first characters, and is another one where none of these stands. -/
theorem of_head {B : Reader α} (keep : Char → Prop) (hparen : ¬ keep ')')
    (hcons : ∀ c, keep c → Local kept fun cs => R (c :: cs)) (hB : Local kept B)
    (hother : ∀ cs, (∀ c r, cs = c :: r → ¬ keep c) → R cs = B cs) : Local kept R := by
  classical
  refine .of_choice (A := fun cs => if cs.head?.any fun c => keep c then R cs else .error .escape)
    keep hparen (.of_cons ⟨_, rfl⟩ fun c => ?_) hB (fun c r hc => by simp [hc]) hother
  by_cases hc : keep c
  · simpa [hc] using hcons c hc
  · simpa [hc] using error .escape

/-- A reader with fuel, where the length of the text is enough of it. -/
theorem of_fuel {F : Nat → Reader α} (hF : ∀ n, Local kept (F n))
    (hfuel : ∀ n m cs, cs.length ≤ n → cs.length ≤ m → F n cs = F m cs) :
    Local kept fun cs => F cs.length cs where
  shortens := fun _ _ _ h => (hF _).shortens _ _ _ h
  extend cs := by
    refine .of_eq (hfuel _ (cs.length + 2) cs (Nat.le_refl _) (by omega)) (fun more hm => ?_)
      ((hF (cs.length + 2)).extend cs)
    refine hfuel _ _ _ (Nat.le_refl _) ?_
    have hlength : more.length ≤ 1 := by
      rcases List.mem_cons.1 hm with rfl | hm
      · decide
      · rw [List.mem_singleton.1 hm]
        decide
    simp only [List.length_append, List.length_cons]
    omega

end Local

end

/-! ## Blanks -/

/-- What leaves off the start of a text by what stands there, at most up to a parenthesis or, in a
comment, all of the text. -/
structure Trims (g : List Char → List Char) : Prop where
  suffix (cs : List Char) : g cs <:+ cs
  extend (cs : List Char) :
    (∀ more ∈ tails, g (cs ++ ')' :: more) = g cs ++ ')' :: more) ∨
      g cs = [] ∧ ∀ more ∈ tails, g (cs ++ ')' :: more) = []

theorem Extends.trim {α : Type} {kept cs : List Char} {R : Reader α} {g : List Char → List Char}
    (hg : Trims g) (hshort : Shortens R) (hR : Extends kept R (g cs)) :
    Extends kept (fun cs => R (g cs)) cs := by
  rcases hg.extend cs with hmore | ⟨hnil, hmore⟩
  · exact .of_eq rfl (fun more hm => by rw [hmore more hm]) hR
  · cases hr : R [] with
    | error e => exact .of_errors (by rw [hnil, hr]) fun more hm => ⟨e, by rw [hmore more hm, hr]⟩
    | ok r =>
      obtain ⟨a, rest⟩ := r
      have hrest := List.suffix_nil.1 (hshort _ _ _ hr)
      subst hrest
      exact .comment a (by rw [hnil, hr]) fun more hm => by rw [hmore more hm, hr]

theorem Local.trim {α : Type} {kept : List Char} {R : Reader α} {g : List Char → List Char}
    (hg : Trims g) (hR : Local kept R) : Local kept fun cs => R (g cs) where
  shortens := fun _ _ _ h => (hR.shortens _ _ _ h).trans (hg.suffix _)
  extend cs := .trim hg hR.shortens (hR.extend (g cs))

/-- Something is given with what is left of a text. -/
theorem Trims.pure {α : Type} {kept : List Char} {g : List Char → List Char} (hg : Trims g) (a : α) :
    Local kept fun cs => .ok (a, g cs) := (Local.pure a).trim hg

theorem Trims.comp {g h : List Char → List Char} (hg : Trims g) (hh : Trims h) :
    Trims fun cs => g (h cs) where
  suffix cs := (hg.suffix _).trans (hh.suffix _)
  extend cs := by
    rcases hh.extend cs with hmore | ⟨hnil, hmore⟩
    · rcases hg.extend (h cs) with hmore' | ⟨hnil', hmore'⟩
      · exact .inl fun more hm => by rw [hmore more hm, hmore' more hm]
      · exact .inr ⟨hnil', fun more hm => by rw [hmore more hm, hmore' more hm]⟩
    · have hgnil : g [] = [] := List.suffix_nil.1 (hg.suffix [])
      exact .inr ⟨by rw [hnil, hgnil], fun more hm => by rw [hmore more hm, hgnil]⟩

/-- Blanks and comments are left off at the start only. -/
theorem skipSpaced_suffix (comment : Bool) (cs : List Char) : skipSpaced comment cs <:+ cs := by
  fun_induction skipSpaced comment cs with
  | case1 => exact List.suffix_refl _
  | case2 c cs ih => exact ih.trans (List.suffix_cons c cs)
  | case3 c cs _ ih => exact ih.trans (List.suffix_cons c cs)
  | case4 cs _ ih => exact ih.trans (List.suffix_cons _ cs)
  | case5 => exact List.suffix_refl _

/-- A parenthesis ends what is skipped, but not in a comment. -/
theorem skipSpaced_append (comment : Bool) (cs : List Char) :
    (∀ more ∈ tails, skipSpaced comment (cs ++ ')' :: more) = skipSpaced comment cs ++ ')' :: more) ∨
      skipSpaced comment cs = [] ∧ ∀ more ∈ tails, skipSpaced comment (cs ++ ')' :: more) = [] := by
  fun_induction skipSpaced comment cs with
  | case1 comment =>
    cases comment with
    | false => exact .inl fun more hm => by simp [skipSpaced, show isBlank ')' = false by decide]
    | true => exact .inr ⟨rfl, by decide⟩
  | case2 c cs ih => exact ih
  | case3 c cs hc ih =>
    simpa only [List.cons_append, skipSpaced, hc, if_true] using ih
  | case4 cs hc ih => simpa [skipSpaced, hc] using ih
  | case5 c cs hc hhash => exact .inl fun more hm => by simp [skipSpaced, hc, hhash]

theorem trims_skip (f : Flags) : Trims f.skip where
  suffix cs := by
    unfold Flags.skip
    split
    · exact skipSpaced_suffix false cs
    · exact List.suffix_refl _
  extend cs := by
    unfold Flags.skip
    split
    · exact skipSpaced_append false cs
    · exact .inl fun _ _ => rfl

theorem skip_nil (f : Flags) : f.skip [] = [] := List.suffix_nil.1 ((trims_skip f).suffix [])

/-- What is neither blank nor the start of a comment is not skipped. -/
theorem skip_cons (f : Flags) {c : Char} (hblank : isBlank c = false) (hhash : c ≠ '#')
    (cs : List Char) : f.skip (c :: cs) = c :: cs := by
  unfold Flags.skip
  split
  · simp [skipSpaced, hblank, hhash]
  · rfl

theorem trims_dropBlanks : Trims fun cs => cs.dropWhile isBlank where
  suffix cs := List.dropWhile_suffix _
  extend cs := .inl fun more _ => by
    rw [List.dropWhile_append]
    split
    · next h => rw [List.isEmpty_iff.1 h]; rfl
    · rfl

end TagSpec.Regex
