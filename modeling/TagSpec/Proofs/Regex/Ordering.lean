import TagSpec.Journal
import TagSpec.Regex.Reading
import TagSpec.Proofs.Regex.Matching

/-!
# Bounds of repetitions

The bounds of each repetition in a pattern that was read are in order, so that `ends` finds where it
matches.
-/

namespace TagSpec.Regex

/-! ## Parts -/

/-- All parts have their bounds in order. -/
def AllOrdered (items : List Item) : Prop := ∀ i ∈ items, i.pattern.Ordered

theorem AllOrdered.nil : AllOrdered [] := nofun

theorem AllOrdered.cons {i : Item} {is : List Item} (hi : i.pattern.Ordered) (his : AllOrdered is) :
    AllOrdered (i :: is) :=
  List.forall_mem_cons.2 ⟨hi, his⟩

/-- Parts put together two by two with a connective that keeps the bounds. -/
theorem AllOrdered.foldl (join : Pattern → Pattern → Pattern) {items : List Item} {p : Pattern}
    (hjoin : ∀ a b, a.Ordered → b.Ordered → (join a b).Ordered) (h : AllOrdered items)
    (hp : p.Ordered) : (items.foldl (fun q j => join j.pattern q) p).Ordered := by
  induction items generalizing p with
  | nil => exact hp
  | cons i is ih =>
    obtain ⟨hi, his⟩ := List.forall_mem_cons.1 h
    exact ih his (hjoin _ _ hi hp)

theorem AllOrdered.concat {items : List Item} (h : AllOrdered items) :
    (Item.concat items).pattern.Ordered := by
  match items, h with
  | [], _ => trivial
  | [i], h => exact h i (List.mem_singleton_self i)
  | i :: j :: is, h =>
    obtain ⟨hi, his⟩ := List.forall_mem_cons.1 h
    exact AllOrdered.foldl .seq (fun _ _ ha hb => ⟨ha, hb⟩) his hi

theorem AllOrdered.alternate {branches : List Item} (h : AllOrdered branches) :
    (Item.alternate branches).pattern.Ordered := by
  match branches, h with
  | [], _ => trivial
  | [i], h => exact h i (List.mem_singleton_self i)
  | i :: j :: is, h =>
    obtain ⟨hi, his⟩ := List.forall_mem_cons.1 h
    exact AllOrdered.foldl .alt (fun _ _ ha hb => ⟨ha, hb⟩) his hi

/-! ## Tokens -/

/-- What a token adds has its bounds in order. -/
def Token.Ordered : Token → Prop
  | .item i => i.pattern.Ordered
  | .repetition least most => ∀ m, most = some m → least ≤ m
  | _ => True

/-- A repetition whose least count is above the greatest is refused. -/
theorem closeBounds_ordered {f : Flags} {least : Nat} {most : Option Nat} {cs rest : List Char}
    {b : Nat × Option Nat} (h : closeBounds f least most cs = .ok (b, rest)) :
    ∀ m, b.2 = some m → b.1 ≤ m := by
  unfold closeBounds at h
  split at h
  · split at h
    · next hall =>
      cases h
      rintro m rfl
      simpa using hall
    · cases h
  · cases h

theorem readBounds_ordered {f : Flags} {cs rest : List Char} {b : Nat × Option Nat}
    (h : readBounds f cs = .ok (b, rest)) : ∀ m, b.2 = some m → b.1 ≤ m := by
  obtain ⟨least, -, hupper⟩ := bind_eq_ok_iff.1 h
  obtain ⟨most, -, hclose⟩ := bind_eq_ok_iff.1 hupper
  exact closeBounds_ordered hclose

theorem escaped_ordered (f : Flags) (e : Escape) : (f.escaped e).pattern.Ordered := by
  cases e <;> trivial

theorem dot_ordered {f : Flags} {i : Item} (h : f.dot = .ok i) : i.pattern.Ordered := by
  unfold Flags.dot at h
  split at h
  · cases h
  · cases h
    trivial

/-- A token that is read has its bounds in order. -/
theorem readToken_ordered {f : Flags} {c : Char} {cs rest : List Char} {t : Token}
    (h : readToken f c cs = .ok (t, rest)) : t.Ordered := by
  unfold readToken at h
  split at h
  · obtain ⟨o, -, ho⟩ := bind_eq_ok_iff.1 h
    cases ho
    trivial
  · cases h
    trivial
  · cases h
    trivial
  · obtain ⟨o, -, ho⟩ := bind_eq_ok_iff.1 h
    cases ho
    trivial
  · cases h
    rintro m ⟨⟩
    exact Nat.zero_le 1
  · cases h
    nofun
  · cases h
    nofun
  · obtain ⟨b, hb, hbounds⟩ := bind_eq_ok_iff.1 h
    cases hbounds
    exact readBounds_ordered hb
  · obtain ⟨e, -, he⟩ := bind_eq_ok_iff.1 h
    cases he
    exact escaped_ordered f e.1
  · obtain ⟨i, hi, hitem⟩ := bind_eq_ok_iff.1 h
    cases hitem
    exact dot_ordered hi
  · cases h
    trivial
  · cases h
    trivial
  · cases h
    trivial

/-! ## Progress -/

/-- All that has been read has its bounds in order. -/
structure Progress.Ordered (p : Progress) : Prop where
  items : AllOrdered p.items
  branches : AllOrdered p.branches
  around : ∀ a ∈ p.around, AllOrdered a.items ∧ AllOrdered a.branches

theorem Progress.Ordered.group {p : Progress} (h : p.Ordered) : p.group.pattern.Ordered :=
  (AllOrdered.cons h.items.concat h.branches).alternate

/-- No step puts bounds out of order. -/
theorem advance_ordered {p p' : Progress} {t : Token} (hp : p.Ordered) (ht : t.Ordered)
    (h : p.advance t = .ok p') : p'.Ordered := by
  cases t with
  | opening o =>
    cases o with
    | flags f =>
      cases h
      exact ⟨.cons trivial hp.items, hp.branches, hp.around⟩
    | group f captures name =>
      simp only [Progress.advance, Progress.opened] at h
      split at h
      · cases h
      · cases h
        exact ⟨.nil, .nil, List.forall_mem_cons.2 ⟨⟨hp.items, hp.branches⟩, hp.around⟩⟩
  | closing =>
    simp only [Progress.advance, Progress.closed] at h
    split at h
    · cases h
    · next a as has =>
      cases h
      have haround := hp.around
      rw [has] at haround
      obtain ⟨⟨hitems, hbranches⟩, hrest⟩ := List.forall_mem_cons.1 haround
      exact ⟨.cons hp.group hitems, hbranches, hrest⟩
  | bar =>
    cases h
    exact ⟨.nil, .cons hp.items.concat hp.branches, hp.around⟩
  | item i =>
    cases h
    exact ⟨.cons ht hp.items, hp.branches, hp.around⟩
  | repetition least most =>
    simp only [Progress.advance, Progress.repeatLast] at h
    split at h
    · cases h
    · next i is his =>
      split at h
      · cases h
        have hitems := hp.items
        rw [his] at hitems
        obtain ⟨hi, hrest⟩ := List.forall_mem_cons.1 hitems
        exact ⟨.cons ⟨hi, ht⟩ hrest, hp.branches, hp.around⟩
      · cases h

theorem readPart_ordered {p p' : Progress} {c : Char} {cs rest : List Char} (hp : p.Ordered)
    (h : readPart p c cs = .ok (p', rest)) : p'.Ordered := by
  unfold readPart at h
  split at h
  · cases h
  · obtain ⟨t, ht, hadvance⟩ := bind_eq_ok_iff.1 h
    obtain ⟨q, hq, heq⟩ := bind_eq_ok_iff.1 hadvance
    cases heq
    exact advance_ordered hp (readToken_ordered ht) hq

/-- The parts of a text are read with their bounds in order. -/
theorem readParts_ordered {p : Progress} {cs : List Char} {n : Nat} {i : Item} (hp : p.Ordered)
    (h : readParts n p cs = .ok i) : i.pattern.Ordered := by
  induction n generalizing p cs with
  | zero => cases h
  | succ n ih =>
    unfold readParts at h
    split at h
    · split at h
      · cases h
        exact hp.group
      · cases h
    · obtain ⟨x, hx, hrest⟩ := bind_eq_ok_iff.1 h
      exact ih (readPart_ordered hp hx) hrest

theorem Progress.Ordered.start : Progress.start.Ordered := ⟨.nil, .nil, nofun⟩

/-- A text writes a pattern exactly if its parts can be read and are neither too deep nor too
large. -/
theorem parse_eq_ok_iff {text : List Char} {p : Pattern} :
    parse text = .ok p ↔ ∃ i, readParts (text.length + 1) .start text = .ok i ∧
      i.depth ≤ depthLimit ∧ i.programSize ≤ costLimit ∧ i.pattern = p := by
  refine bind_eq_ok_iff.trans (exists_congr fun i => and_congr_right fun _ => ?_)
  by_cases hdepth : depthLimit < i.depth
  · simp [hdepth, Nat.not_le.2 hdepth]
  · by_cases hcost : costLimit < i.programSize
    · simp [hdepth, hcost, Nat.not_le.2 hcost]
    · simp [hdepth, hcost, Nat.not_lt.1 hdepth, Nat.not_lt.1 hcost, pure, Except.pure]

/-- The bounds of the repetitions in a pattern that was read are in order. -/
theorem parse_ordered {text : List Char} {p : Pattern} (h : parse text = .ok p) : p.Ordered := by
  obtain ⟨i, hread, -, -, rfl⟩ := parse_eq_ok_iff.1 h
  exact readParts_ordered .start hread

end TagSpec.Regex
