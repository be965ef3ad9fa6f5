import TagSpec.Regex.CharSet

/-!
# Patterns

Regular expressions over characters, and where they match. Places in a text are counted by the
characters in front of them. `ends` follows all ways to match at once, so that its work grows with
the text and not with the number of ways.
-/

namespace TagSpec.Regex

-- ---------------------------------------------------------------------------
-- Patterns
-- ---------------------------------------------------------------------------

/-- What holds at a place between two characters. -/
inductive Look where
  | textStart
  | textEnd
  /-- the start of a line; `crlf` says that a carriage return ends lines too -/
  | lineStart (crlf : Bool)
  | lineEnd (crlf : Bool)
  /-- there is a boundary of a word here, or none if `negated` -/
  | boundary (ascii negated : Bool)
  | wordStart (ascii : Bool)
  | wordEnd (ascii : Bool)
  | wordStartHalf (ascii : Bool)
  | wordEndHalf (ascii : Bool)
deriving DecidableEq, Repr

/-- A regular expression. -/
inductive Pattern where
  | empty
  | set (s : CharSet)
  | look (l : Look)
  | seq (a b : Pattern)
  | alt (a b : Pattern)
  /-- from `least` to `most` times, without a bound if that is absent -/
  | repeated (a : Pattern) (least : Nat) (most : Option Nat)

/-- Whether a pattern may match nothing. -/
def Pattern.mayBeEmpty : Pattern → Bool
  | .empty => true
  | .set _ => false
  | .look _ => true
  | .seq a b => a.mayBeEmpty && b.mayBeEmpty
  | .alt a b => a.mayBeEmpty || b.mayBeEmpty
  | .repeated a least _ => least = 0 || a.mayBeEmpty

/-- Whether what is looked for holds between two characters, of which either may be absent. -/
def Look.holds (before after : Option Char) : Look → Bool
  | .textStart => before.isNone
  | .textEnd => after.isNone
  | .lineStart crlf =>
    before.isNone || before == some '\n' ||
      (crlf && before == some '\r' && after != some '\n')
  | .lineEnd crlf =>
    after.isNone ||
      if crlf then after == some '\r' || (after == some '\n' && before != some '\r')
      else after == some '\n'
  | .boundary ascii negated =>
    let word := if ascii then CharSet.asciiWord else CharSet.word
    (before.any word != after.any word) != negated
  | .wordStart ascii =>
    let word := if ascii then CharSet.asciiWord else CharSet.word
    !before.any word && after.any word
  | .wordEnd ascii =>
    let word := if ascii then CharSet.asciiWord else CharSet.word
    before.any word && !after.any word
  | .wordStartHalf ascii =>
    !before.any (if ascii then CharSet.asciiWord else CharSet.word)
  | .wordEndHalf ascii =>
    !after.any (if ascii then CharSet.asciiWord else CharSet.word)

-- ---------------------------------------------------------------------------
-- Places
-- ---------------------------------------------------------------------------

/-- The character in front of a place. -/
def charBefore (text : Array Char) : Nat → Option Char
  | 0 => none
  | n + 1 => text[n]?

/-- The places of either list. Of increasing lists it is increasing and has each place once. -/
def merge : List Nat → List Nat → List Nat
  | [], bs => bs
  | a :: as, [] => a :: as
  | a :: as, b :: bs =>
    if a < b then a :: merge as (b :: bs)
    else if b < a then b :: merge (a :: as) bs
    else a :: merge as bs
termination_by as bs => as.length + bs.length

/-- Merged lists have the places of both. -/
theorem mem_merge {x : Nat} {as bs : List Nat} : x ∈ merge as bs ↔ x ∈ as ∨ x ∈ bs := by
  fun_induction merge as bs with
  | case1 => simp
  | case2 => simp
  | case3 _ _ _ _ _ ih => simp only [List.mem_cons, ih, or_assoc]
  | case4 _ _ _ _ _ _ ih =>
    simp only [List.mem_cons, ih]
    grind
  | case5 a as b bs h₁ h₂ ih =>
    have : a = b := by omega
    simp only [List.mem_cons, ih]
    grind

/-- The places of the first list without those of the second. Of increasing lists none of those is
left. -/
def without : List Nat → List Nat → List Nat
  | [], _ => []
  | a :: as, [] => a :: as
  | a :: as, b :: bs =>
    if a < b then a :: without as (b :: bs)
    else if b < a then without (a :: as) bs
    else without as (b :: bs)
termination_by as bs => as.length + bs.length

theorem mem_of_mem_without {x : Nat} {as bs : List Nat} (h : x ∈ without as bs) : x ∈ as := by
  fun_induction without as bs with
  | case1 => exact h
  | case2 => exact h
  | case3 _ _ _ _ _ ih =>
    simp only [List.mem_cons] at h ⊢
    exact h.imp_right ih
  | case4 _ _ _ _ _ _ ih => exact ih h
  | case5 _ _ _ _ _ _ ih => exact List.mem_cons_of_mem _ (ih h)

/-- What is left out is in the second list. -/
theorem mem_or_mem_without {x : Nat} {as bs : List Nat} (h : x ∈ as) :
    x ∈ bs ∨ x ∈ without as bs := by
  fun_induction without as bs with
  | case1 => cases h
  | case2 => exact Or.inr h
  | case3 _ _ _ _ _ ih =>
    simp only [List.mem_cons] at h ih ⊢
    grind
  | case4 _ _ _ _ _ _ ih =>
    have := ih h
    simp only [List.mem_cons] at this ⊢
    grind
  | case5 a as b bs h₁ h₂ ih =>
    have : a = b := by omega
    simp only [List.mem_cons] at h ih ⊢
    grind

/-- Applies a step a number of times; once a step changes nothing, no later one does. -/
def times (step : List Nat → List Nat) : Nat → List Nat → List Nat
  | 0, places => places
  | n + 1, places =>
    let next := step places
    if next = places then places else times step n next

/-- The places that at most a number of steps lead to from `reached`; steps from all but `recent`
have been made. -/
def upTo (step : List Nat → List Nat) : Nat → List Nat → List Nat → List Nat
  | 0, reached, _ => reached
  | n + 1, reached, recent =>
    let next := without (step recent) reached
    if next.isEmpty then reached else upTo step n (merge reached next) next


-- ---------------------------------------------------------------------------
-- Matching
-- ---------------------------------------------------------------------------

/-- The places at which a match can end that begins at one of the given places. -/
def Pattern.ends (text : Array Char) : Pattern → List Nat → List Nat
  | .empty, places => places
  | .set s, places => places.filterMap fun i => if text[i]?.any s then some (i + 1) else none
  | .look l, places => places.filter fun i => l.holds (charBefore text i) text[i]?
  | .seq a b, places => b.ends text (a.ends text places)
  | .alt a b, places => merge (a.ends text places) (b.ends text places)
  | .repeated a least most, places =>
    let start := times (a.ends text) least places
    match most with
    | none => upTo (a.ends text) (text.size + 1) start start
    | some m => upTo (a.ends text) (m - least) start start

/-- Whether a pattern matches somewhere in a text. -/
def Pattern.isMatch (p : Pattern) (text : List Char) : Bool :=
  !(p.ends text.toArray (List.range (text.length + 1))).isEmpty

end TagSpec.Regex
