import TagSpec.Identifier
import TagSpec.Proofs.Regex.Enclosing
import TagSpec.Proofs.Regex.Ordering
import TagSpec.Text.Utf8

/-!
# Patterns that stand for themselves

A text of letters, digits and underscores is a pattern with one part for each character, which matches
nothing but that text. What it costs is told by its bytes.
-/

namespace TagSpec.Regex

/-! ## Reading -/

/-- The part that a text makes whose characters stand for themselves. -/
def literal (cs : List Char) : Item :=
  { Item.concat (cs.map Flags.initial.char).reverse with repeatable := true }

/-- No character of a name means anything in patterns. -/
theorem not_isTail_of_mem {c : Char} (h : c ∈ "()|[?*+\x7b\\.^$".toList) :
    Identifier.isTail c = false := by
  have hall : "()|[?*+\x7b\\.^$".toList.all (fun d => !Identifier.isTail d) = true := by
    decide +kernel
  simpa using List.all_eq_true.1 hall c h

/-- A character of a name stands for itself. -/
theorem readToken_name (f : Flags) {c : Char} (hc : Identifier.isTail c = true) (cs : List Char) :
    readToken f c cs = .ok (.item (f.char c), cs) := by
  have hne : ∀ d ∈ "()|[?*+\x7b\\.^$".toList, c ≠ d := by
    rintro d hd rfl
    simp [not_isTail_of_mem hd] at hc
  unfold readToken
  split
  case h_13 => rfl
  all_goals exact absurd rfl (hne _ (by decide))

theorem readPart_name (p : Progress) {c : Char} (hc : Identifier.isTail c = true)
    (cs : List Char) :
    readPart p c cs = .ok ({ p with items := p.flags.char c :: p.items }, cs) := by
  have hbrace : c ≠ '\x7b' := by
    rintro rfl
    exact absurd hc (by decide +kernel)
  rw [readPart, if_neg (by simp [hbrace]), readToken_name p.flags hc]
  rfl

/-- The characters of a name are read one by one, in front of any text. -/
theorem readParts_names (n : Nat) {p : Progress} (hp : p.flags = .initial) {cs : List Char}
    (hcs : ∀ c ∈ cs, Identifier.isTail c = true) (rest : List Char) :
    readParts (cs.length + n) p (cs ++ rest) =
      readParts n { p with items := (cs.map Flags.initial.char).reverse ++ p.items } rest := by
  induction cs generalizing p with
  | nil => rw [List.length_nil, Nat.zero_add]; rfl
  | cons c cs ih =>
    obtain ⟨hc, hcs⟩ := List.forall_mem_cons.1 hcs
    have hskip : p.flags.skip (c :: (cs ++ rest)) = c :: (cs ++ rest) := by rw [hp]; rfl
    rw [List.length_cons, Nat.add_right_comm, List.cons_append, readParts_of_skip_cons hskip,
      readPart_name p hc]
    exact (ih (p := { p with items := p.flags.char c :: p.items }) hp hcs).trans (by simp [hp])

/-! ## Size -/

theorem cost_concat (items : List Item) :
    (Item.concat items).cost = (items.map Item.cost).foldl (· + ·) 0 := by
  match items with
  | [] => rfl
  | [i] => simp [Item.concat]
  | i :: j :: is => rfl

/-- Each byte of a text that stands for itself takes a state. -/
theorem cost_literal (cs : List Char) : (literal cs).cost = stateSize * Utf8.byteLength cs := by
  have hsum : ((cs.map Flags.initial.char).reverse.map Item.cost).sum =
      stateSize * (cs.map Char.utf8Size).sum := by
    rw [List.map_reverse, List.sum_reverse]
    induction cs with
    | nil => rfl
    | cons c cs ih =>
      rw [List.map_cons, List.map_cons, List.sum_cons, ih, List.map_cons, List.sum_cons]
      exact (Nat.mul_add _ _ _).symm
  rw [Utf8.byteLength, ← List.sum_eq_foldl_nat, ← hsum, List.sum_eq_foldl_nat]
  exact cost_concat _

/-- Parts that do not nest make one that nests once. -/
theorem depth_concat {items : List Item} (h : ∀ i ∈ items, i.depth = 0) :
    (Item.concat items).depth ≤ 1 := by
  have hmax (n : Nat) : (List.replicate n 0).foldl max 0 = 0 := by
    induction n with
    | zero => rfl
    | succ n ih => exact ih
  match items, h with
  | [], _ => exact Nat.zero_le 1
  | [i], h => exact (h i (List.mem_singleton_self i)).symm ▸ Nat.zero_le 1
  | i :: j :: is, h =>
    have hdepths : (i :: j :: is).map Item.depth = List.replicate (is.length + 2) 0 :=
      List.eq_replicate_iff.2 ⟨by simp, by simpa using h⟩
    have hfold : ((i :: j :: is).map Item.depth).foldl max 0 = 0 := by rw [hdepths, hmax]
    exact Nat.le_of_eq (congrArg (1 + ·) hfold)

/-- The parts of a text that stands for itself are single characters. -/
theorem exists_char {cs : List Char} {i : Item} (h : i ∈ (cs.map Flags.initial.char).reverse) :
    ∃ c, i = Flags.initial.char c := by
  obtain ⟨c, -, rfl⟩ := List.mem_map.1 (List.mem_reverse.1 h)
  exact ⟨c, rfl⟩

/-- A text that stands for itself nests once at most. -/
theorem depth_literal (cs : List Char) : (literal cs).depth ≤ 1 := by
  apply depth_concat
  intro i hi
  obtain ⟨c, rfl⟩ := exists_char hi
  rfl

theorem ordered_literal (cs : List Char) : (literal cs).pattern.Ordered := by
  apply AllOrdered.concat
  intro i hi
  obtain ⟨c, rfl⟩ := exists_char hi
  trivial

/-! ## Matching -/

/-- The characters stand in a text from one place to another. -/
def Spells (text : Array Char) : List Char → Nat → Nat → Prop
  | [], i, j => j = i
  | c :: cs, i, j => text[i]? = some c ∧ Spells text cs (i + 1) j

/-- Two texts in a row are spelled one behind the other. -/
theorem spells_append {text : Array Char} {cs ds : List Char} {i k : Nat} :
    Spells text (cs ++ ds) i k ↔ ∃ j, Spells text cs i j ∧ Spells text ds j k := by
  induction cs generalizing i with
  | nil => simp [Spells]
  | cons c cs ih => simp [Spells, ih, and_assoc]

/-- A text is spelled from a place to the end exactly if it is the rest of the text there. -/
theorem spells_rest {text cs : List Char} {i : Nat} (hi : i ≤ text.length) :
    Spells text.toArray cs i text.length ↔ text.drop i = cs := by
  induction cs generalizing i with
  | nil =>
    rw [Spells, List.drop_eq_nil_iff]
    omega
  | cons c cs ih =>
    rcases Nat.lt_or_eq_of_le hi with hlt | rfl
    · rw [Spells, ih hlt, List.getElem?_toArray, List.drop_eq_getElem_cons hlt,
        List.getElem?_eq_getElem hlt, Option.some_inj, List.cons.injEq]
    · simp [Spells]

/-- A character that stands for itself matches where it stands, and nothing else. -/
theorem matches_char {text : Array Char} {c : Char} {i j : Nat} :
    (Flags.initial.char c).pattern.Matches text i j ↔ text[i]? = some c ∧ j = i + 1 := by
  have hset : (Flags.initial.char c).pattern = .set (CharSet.single c) := rfl
  rw [hset, Pattern.Matches]
  simp [CharSet.single]

/-- Characters one after another, of which the last comes first. -/
theorem matches_foldl {text : Array Char} {cs : List Char} {p : Pattern} {i k : Nat} :
    ((cs.map Flags.initial.char).foldl (fun p j => Pattern.seq j.pattern p) p).Matches text i k ↔
      ∃ j, Spells text cs.reverse i j ∧ p.Matches text j k := by
  induction cs generalizing p with
  | nil => simp [Spells]
  | cons c cs ih =>
    rw [List.map_cons, List.foldl_cons, ih, List.reverse_cons]
    simp only [spells_append, Pattern.Matches, matches_char, Spells]
    constructor
    · rintro ⟨j, hcs, j', hc, hp⟩
      exact ⟨j', ⟨j, hcs, hc⟩, hp⟩
    · rintro ⟨j', ⟨j, hcs, hc⟩, hp⟩
      exact ⟨j, hcs, j', hc, hp⟩

/-- A text that stands for itself is matched where it is spelled. -/
theorem matches_literal {text : Array Char} {cs : List Char} {i j : Nat} :
    (literal cs).pattern.Matches text i j ↔ Spells text cs i j := by
  rw [← List.reverse_reverse cs]
  generalize cs.reverse = ds
  show (Item.concat _).pattern.Matches text i j ↔ _
  rw [← List.map_reverse, List.reverse_reverse]
  match ds with
  | [] => rfl
  | [c] => exact matches_char
  | c :: d :: ds =>
    show (((d :: ds).map Flags.initial.char).foldl (fun p j => Pattern.seq j.pattern p)
      (Flags.initial.char c).pattern).Matches text i j ↔ _
    have hlast : (c :: d :: ds).reverse = (d :: ds).reverse ++ [c] := List.reverse_cons
    rw [matches_foldl, hlast, spells_append]
    simp only [matches_char, Spells]

end TagSpec.Regex
