import Mathlib.Data.List.TakeWhile
import TagSpec.Proofs.Tags.Enclosing
import TagSpec.Proofs.Tags.Values
import TagSpec.Proofs.Text.Utf8

/-!
# The grammar of tags

What the text of a tag has to be, said without reading it from left to right: pairs of a key and a
string literal, with spaces in front of them. Main statement: `parse_exact`, by which a text is read
exactly if it is of this form, and the fault of any other text is that of the first pair that is not.
-/

namespace TagSpec.Tags

/-! ## Keys -/

/-- Whether a byte may stand in a key. -/
def isKeyByte (b : UInt8) : Bool := 0x20 < b && b != 0x3A && b != 0x22 && b != 0x7F

/-- A text that can be a key. -/
def IsKey (cs : List Char) : Prop := cs ≠ [] ∧ ∀ b ∈ Utf8.encode cs, isKeyByte b = true

theorem isKeyByte_of_high {b : UInt8} (h : 0x80 ≤ b.toNat) : isKeyByte b = true := by
  simp only [isKeyByte, Bool.and_eq_true, decide_eq_true_eq, bne_iff_ne, ne_eq,
    UInt8.lt_iff_toNat_lt, ← UInt8.toNat_inj]
  have h20 : UInt8.toNat 0x20 = 0x20 := rfl
  have h3A : UInt8.toNat 0x3A = 0x3A := rfl
  have h22 : UInt8.toNat 0x22 = 0x22 := rfl
  have h7F : UInt8.toNat 0x7F = 0x7F := rfl
  omega

private theorem isKeyChar_ascii : ∀ n < 0x80, isKeyChar (Char.ofNat n) = isKeyByte n.toUInt8 := by
  decide

/-- A character may stand in a key exactly if its bytes may. -/
theorem isKeyChar_iff (c : Char) :
    isKeyChar c = true ↔ ∀ b ∈ Utf8.encodeChar c, isKeyByte b = true := by
  by_cases hc : c.toNat < 0x80
  · have hchar := isKeyChar_ascii c.toNat hc
    rw [Char.ofNat_toNat] at hchar
    rw [StringLiteral.encodeChar_ascii hc, hchar]
    simp
  · have hbytes : ∀ b ∈ Utf8.encodeChar c, isKeyByte b = true :=
      fun b hb => isKeyByte_of_high (Utf8.high_of_mem_encodeChar (by omega) hb)
    have hne : ∀ d : Char, d.toNat < 0x80 → c ≠ d := by
      rintro d hd rfl
      exact hc hd
    have hspace : ' ' < c := by
      rw [Char.lt_def, UInt32.lt_iff_toNat_lt]
      exact Nat.lt_of_lt_of_le (by decide) (Nat.le_of_not_lt hc)
    have hchar : isKeyChar c = true := by
      simp [isKeyChar, hspace, hne ':' (by decide), hne '"' (by decide), hne '\x7F' (by decide)]
    exact ⟨fun _ => hbytes, fun _ => hchar⟩

/-- A text can be a key if it is not empty and each of its characters may stand in one. -/
theorem isKey_iff {cs : List Char} : IsKey cs ↔ cs ≠ [] ∧ ∀ c ∈ cs, isKeyChar c = true := by
  simp only [IsKey, isKeyChar_iff, Utf8.encode, List.mem_flatMap]
  grind

/-! ## Pairs -/

/-- A pair whose key is one, and whose literal denotes its bytes. -/
structure Pair.Valid (p : Pair) : Prop where
  key : IsKey p.key
  value : StringLiteral.decode? p.quoted = some p.bytes

/-- A pair as it is written. -/
def Pair.text (p : Pair) : List Char := p.key ++ ':' :: p.quoted

/-- Pairs one after another, with any number of spaces in front of each. -/
inductive Sequence : List Char → List Pair → Prop
  | nil : Sequence [] []
  | cons {p : Pair} {ps : List Pair} {cs : List Char} (spaces : Nat) : p.Valid → Sequence cs ps →
      Sequence (List.replicate spaces ' ' ++ p.text ++ cs) (p :: ps)

/-- What stands behind a colon and is no value: it does not begin with a quote, or no quote closes
what is enclosed, or the literal up to that quote denotes nothing. -/
inductive BadValue : List Char → Prop
  | bare {c : Char} {cs : List Char} : c ≠ '"' → BadValue (c :: cs)
  | unclosed {cs : List Char} : (∀ body rest, Enclosed body → cs ≠ body ++ '"' :: rest) →
      BadValue ('"' :: cs)
  | rejected {body rest : List Char} : Enclosed body →
      StringLiteral.decode? ('"' :: (body ++ ['"'])) = none →
      BadValue ('"' :: (body ++ '"' :: rest))

/-- What should be a pair and is none, and what is wrong with it: it begins with no key, or no colon
with something behind it follows the whole key, or no value follows the colon. -/
inductive BadPair : List Char → TagFault → Prop
  | key {c : Char} {cs : List Char} : c ≠ ' ' → ¬ IsKey [c] → BadPair (c :: cs) .key
  | pair {key rest : List Char} : IsKey key → (∀ c cs, rest = c :: cs → ¬ IsKey [c]) →
      (∀ c cs, rest ≠ ':' :: c :: cs) → BadPair (key ++ rest) .pair
  | value {key rest : List Char} : IsKey key → BadValue rest → BadPair (key ++ ':' :: rest) .value

theorem isKey_singleton {c : Char} : IsKey [c] ↔ isKeyChar c = true := by
  simp [isKey_iff]

/-- The key at the start of a text ends where no character of a key follows. -/
theorem key_of_append {key : List Char} (hkey : IsKey key) (rest : List Char)
    (hrest : ∀ c cs, rest = c :: cs → isKeyChar c = false) :
    (key ++ rest).takeWhile isKeyChar = key ∧ (key ++ rest).dropWhile isKeyChar = rest := by
  have hchars := (isKey_iff.1 hkey).2
  rw [List.takeWhile_append_of_pos hchars, List.dropWhile_append_of_pos hchars]
  cases rest with
  | nil => simp
  | cons c cs => simp [hrest c cs rfl]

/-- The value of a pair is enclosed in quotes. -/
theorem Pair.Valid.exists_enclosed {p : Pair} (h : p.Valid) (rest : List Char) :
    ∃ body, Enclosed body ∧ p.quoted = '"' :: (body ++ ['"']) ∧
      p.text ++ rest = p.key ++ ':' :: '"' :: (body ++ '"' :: rest) := by
  obtain ⟨body, hbody, hquoted⟩ := exists_enclosed_of_decode? h.value
  exact ⟨body, hbody, hquoted, by simp [Pair.text, hquoted]⟩

/-- A pair is read at the start of a text that begins with it. -/
theorem readPair_text {p : Pair} (h : p.Valid) (rest : List Char) :
    readPair (p.text ++ rest) = .ok (p, rest) := by
  obtain ⟨body, hbody, hquoted, htext⟩ := h.exists_enclosed rest
  obtain ⟨htake, hdrop⟩ := key_of_append h.key (':' :: '"' :: (body ++ '"' :: rest))
    (by rintro c cs he; cases he; rfl)
  have hne : p.key.isEmpty = false := by simpa using h.key.1
  unfold readPair
  rw [htext, htake, hdrop]
  simp only [hne, cutQuote_of_enclosed hbody]
  rw [← hquoted, h.value]
  rfl

/-- A fault is found where a text begins with a bad pair. -/
theorem readPair_bad {cs : List Char} {fault : TagFault} (h : BadPair cs fault) :
    readPair cs = .error fault := by
  cases h with
  | key hspace hkey =>
    rw [isKey_singleton, Bool.not_eq_true] at hkey
    simp [readPair, hkey]
  | @pair key rest hkey hends hcolon =>
    obtain ⟨htake, hdrop⟩ := key_of_append hkey _
      (fun c cs he => by simpa [isKey_singleton] using hends c cs he)
    have hne : key.isEmpty = false := by simpa using hkey.1
    unfold readPair
    rw [htake, hdrop]
    simp only [hne, Bool.false_eq_true, if_false]
    split
    · exact absurd rfl (hcolon _ _)
    · exact absurd rfl (hcolon _ _)
    · rfl
  | @value key rest hkey hbad =>
    obtain ⟨htake, hdrop⟩ := key_of_append hkey (':' :: rest)
      (by rintro c cs he; cases he; rfl)
    have hne : key.isEmpty = false := by simpa using hkey.1
    unfold readPair
    rw [htake, hdrop]
    simp only [hne, Bool.false_eq_true, if_false]
    cases hbad with
    | bare hc =>
      split
      · next he => cases he; exact absurd rfl hc
      · rfl
      · next hno => exact absurd rfl (hno _ _)
    | unclosed hopen => simp [cutQuote_eq_none hopen]
    | rejected hbody hnone => simp [cutQuote_of_enclosed hbody, hnone]

/-- What is read as a pair is one, and nothing else is used up. -/
theorem valid_of_readPair {cs rest : List Char} {p : Pair} (h : readPair cs = .ok (p, rest)) :
    p.Valid ∧ cs = p.text ++ rest := by
  have hsplit : cs.takeWhile isKeyChar ++ cs.dropWhile isKeyChar = cs :=
    List.takeWhile_append_dropWhile
  unfold readPair at h
  simp only at h
  split at h
  · cases h
  next hempty =>
  split at h
  · next body hdrop =>
    split at h
    · cases h
    next quoted after hcut =>
    split at h
    · cases h
    next bytes hdecode =>
    cases h
    obtain ⟨inner, -, rfl, rfl⟩ := cutQuote_eq_some_iff.1 hcut
    refine ⟨⟨isKey_iff.2 ⟨by simpa using hempty, ?_⟩, hdecode⟩, ?_⟩
    · exact fun c hc => List.mem_takeWhile_imp hc
    · rw [hdrop] at hsplit
      simpa [Pair.text] using hsplit.symm
  · cases h
  · cases h

/-- A fault is found in a bad pair only. -/
theorem badPair_of_readPair {cs : List Char} {fault : TagFault}
    (hspace : ∀ ds, cs ≠ ' ' :: ds) (hne : cs ≠ []) (h : readPair cs = .error fault) :
    BadPair cs fault := by
  have hsplit : cs.takeWhile isKeyChar ++ cs.dropWhile isKeyChar = cs :=
    List.takeWhile_append_dropWhile
  have hends : ∀ c ds, cs.dropWhile isKeyChar = c :: ds → isKeyChar c = false := by
    intro c ds hd
    have hhead := List.head?_dropWhile_not isKeyChar cs
    rw [hd] at hhead
    simpa using hhead
  unfold readPair at h
  simp only at h
  split at h
  · next hempty =>
    cases h
    rw [List.isEmpty_iff.1 hempty, List.nil_append] at hsplit
    obtain ⟨c, ds, rfl⟩ := List.exists_cons_of_ne_nil hne
    refine .key ?_ ?_
    · rintro rfl
      exact hspace ds rfl
    · simpa [isKey_singleton] using hends c ds hsplit
  next hempty =>
  have hkey : IsKey (cs.takeWhile isKeyChar) :=
    isKey_iff.2 ⟨by simpa using hempty, fun c hc => List.mem_takeWhile_imp hc⟩
  rw [← hsplit]
  split at h
  · next body hdrop =>
    rw [hdrop]
    split at h
    · next hcut =>
      cases h
      refine .value hkey (.unclosed fun inner after hinner hbody => ?_)
      rw [hbody, cutQuote_of_enclosed hinner] at hcut
      cases hcut
    next quoted after hcut =>
    split at h
    · next hdecode =>
      cases h
      obtain ⟨inner, hinner, rfl, rfl⟩ := cutQuote_eq_some_iff.1 hcut
      exact .value hkey (.rejected hinner hdecode)
    · cases h
  · next c ds hquote hdrop =>
    cases h
    rw [hdrop]
    refine .value hkey (.bare ?_)
    rintro rfl
    exact hquote rfl
  · next hquote hcolon =>
    cases h
    refine .pair hkey (fun c ds hd => ?_) (fun c ds hd => hcolon c ds hd)
    simpa [isKey_singleton] using hends c ds hd

/-! ## Sequences -/

theorem scan_nil : scan [] = ⟨[], none⟩ := by
  rw [scan]
  rfl

theorem scan_space (cs : List Char) : scan (' ' :: cs) = scan cs := by
  rw [scan, scan]
  rfl

theorem scan_spaces (spaces : Nat) (cs : List Char) :
    scan (List.replicate spaces ' ' ++ cs) = scan cs := by
  induction spaces with
  | zero => rfl
  | succ n ih => rw [List.replicate_succ, List.cons_append, scan_space, ih]

/-- Behind the spaces there is no further space. -/
theorem dropWhile_space_ne (cs ds : List Char) : cs.dropWhile (· == ' ') ≠ ' ' :: ds := by
  intro hd
  have hhead := List.head?_dropWhile_not (· == ' ') cs
  rw [hd] at hhead
  simp at hhead

/-- Behind the spaces there is nothing, or a pair and more pairs, or a fault. -/
theorem scan_eq {cs : List Char} (hspace : ∀ ds, cs ≠ ' ' :: ds) (hne : cs ≠ []) :
    scan cs =
      match readPair cs with
      | .error fault => ⟨[], some fault⟩
      | .ok (p, rest) => ⟨p :: (scan rest).pairs, (scan rest).fault⟩ := by
  have hstart : cs.dropWhile (· == ' ') = cs := by
    obtain ⟨c, ds, rfl⟩ := List.exists_cons_of_ne_nil hne
    have hc : c ≠ ' ' := by
      rintro rfl
      exact hspace ds rfl
    simp [hc]
  have hempty : cs.isEmpty = false := by simpa using hne
  rw [scan]
  simp only [hstart, hempty, Bool.false_eq_true, if_false]
  split
  · next h => rw [hstart] at h; simp only [h]
  · next h => rw [hstart] at h; simp only [h]

/-- A text that begins with a key begins with no space. -/
theorem IsKey.append_ne {key : List Char} (h : IsKey key) (rest : List Char) :
    (∀ ds, key ++ rest ≠ ' ' :: ds) ∧ key ++ rest ≠ [] := by
  obtain ⟨hne, hchars⟩ := isKey_iff.1 h
  obtain ⟨c, cs, rfl⟩ := List.exists_cons_of_ne_nil hne
  refine ⟨fun ds he => ?_, by simp⟩
  have hspace := hchars c List.mem_cons_self
  cases he
  exact absurd hspace (by decide)

/-- The pairs of a sequence are read, and then what follows it. -/
theorem scan_sequence {cs : List Char} {ps : List Pair} (h : Sequence cs ps) (rest : List Char) :
    scan (cs ++ rest) = ⟨ps ++ (scan rest).pairs, (scan rest).fault⟩ := by
  induction h with
  | nil => rfl
  | @cons p ps cs spaces hp _ ih =>
    obtain ⟨hspace, hne⟩ := hp.key.append_ne (':' :: p.quoted ++ (cs ++ rest))
    rw [← List.append_assoc, ← Pair.text] at hspace hne
    rw [List.append_assoc, List.append_assoc, scan_spaces, scan_eq hspace hne, readPair_text hp]
    simp only [ih, List.cons_append]

/-- Reading ends at a bad pair. -/
theorem scan_bad {cs : List Char} {fault : TagFault} (h : BadPair cs fault) :
    scan cs = ⟨[], some fault⟩ := by
  have hread := readPair_bad h
  have hne : (∀ ds, cs ≠ ' ' :: ds) ∧ cs ≠ [] := by
    cases h with
    | key hspace _ =>
      refine ⟨fun ds he => ?_, by simp⟩
      cases he
      exact hspace rfl
    | pair hkey _ _ => exact hkey.append_ne _
    | value hkey _ => exact hkey.append_ne _
  rw [scan_eq hne.1 hne.2, hread]

/-- What is read of a text is a sequence at its start, and then there is nothing but spaces, or a bad
pair behind spaces. -/
theorem exists_sequence (cs : List Char) :
    ∃ before spaces rest, cs = before ++ List.replicate spaces ' ' ++ rest ∧
      Sequence before (scan cs).pairs ∧
      ((scan cs).fault = none ∧ rest = [] ∨
        ∃ fault, (scan cs).fault = some fault ∧ BadPair rest fault) := by
  induction hlen : cs.length using Nat.strong_induction_on generalizing cs with
  | _ n ih =>
  obtain ⟨spaces, start, rfl, hspace⟩ :
      ∃ spaces start, cs = List.replicate spaces ' ' ++ start ∧ ∀ ds, start ≠ ' ' :: ds := by
    refine ⟨(cs.takeWhile (· == ' ')).length, cs.dropWhile (· == ' '), ?_, fun ds hd => ?_⟩
    · have hall : ∀ c ∈ cs.takeWhile (· == ' '), c = ' ' :=
        fun c hc => by simpa using List.mem_takeWhile_imp hc
      rw [← List.eq_replicate_of_mem hall, List.takeWhile_append_dropWhile]
    · exact dropWhile_space_ne cs ds hd
  rw [scan_spaces]
  by_cases hne : start = []
  · subst hne
    rw [scan_nil]
    exact ⟨[], spaces, [], by simp, .nil, .inl ⟨rfl, rfl⟩⟩
  rw [scan_eq hspace hne]
  cases hread : readPair start with
  | error fault =>
    exact ⟨[], spaces, start, rfl, .nil, .inr ⟨fault, rfl, badPair_of_readPair hspace hne hread⟩⟩
  | ok r =>
    obtain ⟨p, after⟩ := r
    have hlt := length_readPair_lt hread
    obtain ⟨hp, rfl⟩ := valid_of_readPair hread
    simp only [List.length_append, List.length_replicate] at hlen hlt
    obtain ⟨before, spaces', rest, hafter, hseq, hend⟩ := ih after.length (by omega) after rfl
    refine ⟨List.replicate spaces ' ' ++ p.text ++ before, spaces', rest, ?_, .cons spaces hp hseq,
      hend⟩
    conv_lhs => rw [hafter]
    simp only [List.append_assoc]

/-! ## Reading -/

/-- A text is read as tags exactly if it is a sequence of pairs with spaces behind it, and the tags
are those of the pairs. Otherwise the fault is that of the bad pair behind the longest sequence at
the start of the text. -/
theorem parse_exact (text : String) :
    (∀ t, parse text = .ok t ↔
      ∃ before spaces ps, text.toList = before ++ List.replicate spaces ' ' ∧
        Sequence before ps ∧ t.Holds ps) ∧
    ∀ fault, parse text = .error fault ↔
      ∃ before spaces rest ps, text.toList = before ++ List.replicate spaces ' ' ++ rest ∧
        Sequence before ps ∧ BadPair rest fault := by
  have hnone : ∀ before spaces ps, Sequence before ps →
      scan (before ++ List.replicate spaces ' ') = ⟨ps, none⟩ := by
    intro before spaces ps hseq
    have hspaces := scan_spaces spaces []
    rw [List.append_nil, scan_nil] at hspaces
    rw [scan_sequence hseq, hspaces]
    simp
  have hsome : ∀ before spaces rest ps fault, Sequence before ps → BadPair rest fault →
      scan (before ++ List.replicate spaces ' ' ++ rest) = ⟨ps, some fault⟩ := by
    intro before spaces rest ps fault hseq hbad
    rw [List.append_assoc, scan_sequence hseq, scan_spaces, scan_bad hbad]
    simp
  obtain ⟨before, spaces, rest, htext, hseq, hend⟩ := exists_sequence text.toList
  unfold parse Scan.tags
  constructor
  · intro t
    constructor
    · intro h
      rcases hend with ⟨hfault, rfl⟩ | ⟨fault, hfault, -⟩
      · rw [hfault] at h
        cases h
        exact ⟨before, spaces, _, by simpa using htext, hseq, holds_iff.2 rfl⟩
      · rw [hfault] at h
        cases h
    · rintro ⟨before, spaces, ps, htext, hseq, hholds⟩
      rw [htext, hnone before spaces ps hseq, holds_iff.1 hholds]
  · intro fault
    constructor
    · intro h
      rcases hend with ⟨hfault, -⟩ | ⟨fault', hfault, hbad⟩
      · rw [hfault] at h
        cases h
      · rw [hfault] at h
        cases h
        exact ⟨before, spaces, rest, _, htext, hseq, hbad⟩
    · rintro ⟨before, spaces, rest, ps, htext, hseq, hbad⟩
      rw [htext, hsome before spaces rest ps fault hseq hbad]

end TagSpec.Tags
