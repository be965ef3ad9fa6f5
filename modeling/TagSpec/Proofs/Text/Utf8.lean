import Mathlib.Tactic.SplitIfs
import TagSpec.Text.Utf8

/-!
# Characters read back from their bytes

The bytes of a text are decoded to the same text. A character has one to four bytes; the first
announces the others, and each of these adds six bits.
-/

namespace TagSpec.Utf8

/-! ## Bytes beyond ASCII -/

/-- All bytes of a character beyond ASCII have the first bit. -/
theorem high_of_mem_encodeChar {c : Char} (hc : 0x80 ≤ c.toNat) {b : UInt8}
    (hb : b ∈ encodeChar c) : 0x80 ≤ b.toNat := by
  have hval : c.val.toNat = c.toNat := rfl
  have hhigh : ∀ n k : Nat, n + k < 256 → 0x80 ≤ k → 0x80 ≤ (UInt8.ofNat (n + k)).toNat := by
    intro n k hlt hk
    rw [UInt8.toNat_ofNat_of_lt' hlt]
    omega
  unfold encodeChar String.utf8EncodeChar at hb
  rw [hval, if_neg (by omega)] at hb
  split at hb
  · simp only [List.mem_cons, List.not_mem_nil, or_false] at hb
    rcases hb with rfl | rfl <;> exact hhigh _ _ (by omega) (by decide)
  split at hb
  · simp only [List.mem_cons, List.not_mem_nil, or_false] at hb
    rcases hb with rfl | rfl | rfl <;> exact hhigh _ _ (by omega) (by decide)
  · simp only [List.mem_cons, List.not_mem_nil, or_false] at hb
    rcases hb with rfl | rfl | rfl | rfl <;> exact hhigh _ _ (by omega) (by decide)

/-! ## Order -/

private theorem cons_lt_cons {a b : Nat} (hb : b < 0x100) (hab : a ≤ b) {xs ys : List UInt8}
    (h : a = b → xs < ys) : UInt8.ofNat a :: xs < UInt8.ofNat b :: ys := by
  rw [List.cons_lt_cons_iff]
  rcases Nat.lt_or_eq_of_le hab with hlt | rfl
  · refine .inl ?_
    rw [UInt8.lt_iff_toNat_lt, UInt8.toNat_ofNat_of_lt' hb,
      UInt8.toNat_ofNat_of_lt' (Nat.lt_of_le_of_lt hab hb)]
    exact hlt
  · exact .inr ⟨rfl, h rfl⟩

/-- The bytes of a character are in front of those of any later one, whatever follows. -/
theorem encodeChar_append_lt {c d : Char} (h : c < d) (xs ys : List UInt8) :
    encodeChar c ++ xs < encodeChar d ++ ys := by
  have hc : c.val.toNat = c.toNat := rfl
  have hd : d.val.toNat = d.toNat := rfl
  have hlt : c.toNat < d.toNat := h
  have hmax : d.toNat < 0x110000 := by
    rcases d.valid with h | h
    · exact Nat.lt_trans h (by decide)
    · exact h.2
  unfold encodeChar String.utf8EncodeChar
  rw [hc, hd]
  generalize c.toNat = m at hlt
  generalize d.toNat = n at hlt hmax
  dsimp only
  -- one case for each two lengths; bytes are compared until two differ
  split_ifs
  all_goals
    simp only [List.cons_append, List.nil_append]
    repeat refine cons_lt_cons (by omega) (by omega) fun _ => ?_
    try omega

/-- Texts are in the order of their bytes. -/
theorem encode_lt_encode {cs ds : List Char} (h : cs < ds) : encode cs < encode ds := by
  induction cs generalizing ds with
  | nil =>
    cases ds with
    | nil => exact absurd h (List.not_lt_nil _)
    | cons d ds =>
      obtain ⟨b, bs, hbs⟩ := List.exists_cons_of_ne_nil (String.utf8EncodeChar_ne_nil (c := d))
      rw [encode_nil, encode_cons, encodeChar, hbs]
      exact List.nil_lt_cons _ _
  | cons c cs ih =>
    cases ds with
    | nil => exact absurd h (List.not_lt_nil _)
    | cons d ds =>
      rw [encode_cons, encode_cons]
      rcases List.cons_lt_cons_iff.1 h with hlt | ⟨rfl, hlt⟩
      · exact encodeChar_append_lt hlt _ _
      · exact List.append_left_lt (ih hlt)

/-! ## First bytes -/

theorem announced_one : ∀ n < 0x80, announced (UInt8.ofNat n) = some (n, []) := by decide

theorem announced_two : ∀ n < 0x20, 2 ≤ n →
    announced (UInt8.ofNat (n + 0xC0)) = some (n, [tailSpan]) := by decide

def secondOfThree (n : Nat) : Span :=
  if n = 0 then ⟨0xA0, 0xBF⟩ else if n = 13 then ⟨0x80, 0x9F⟩ else tailSpan

theorem announced_three : ∀ n < 0x10,
    announced (UInt8.ofNat (n + 0xE0)) = some (n, [secondOfThree n, tailSpan]) := by decide

def secondOfFour (n : Nat) : Span :=
  if n = 0 then ⟨0x90, 0xBF⟩ else if n = 4 then ⟨0x80, 0x8F⟩ else tailSpan

theorem announced_four : ∀ n < 5,
    announced (UInt8.ofNat (n + 0xF0)) = some (n, [secondOfFour n, tailSpan, tailSpan]) := by decide

/-! ## Bytes after the first -/

/-- A byte after the first adds six bits. -/
theorem follow_cons {value d : Nat} {s : Span} (hd : d < 0x40) (hlo : s.lo.toNat ≤ d + 0x80)
    (hhi : d + 0x80 ≤ s.hi.toNat) (ss : List Span) (r : List UInt8) :
    follow value (s :: ss) (UInt8.ofNat (d + 0x80) :: r) = follow (value * 64 + d) ss r := by
  have hbyte : (UInt8.ofNat (d + 0x80)).toNat = d + 0x80 := UInt8.toNat_ofNat_of_lt' (by show d + 0x80 < 256; omega)
  have hcontains : s.contains (UInt8.ofNat (d + 0x80)) = true := by
    simp only [Span.contains, Bool.and_eq_true, decide_eq_true_eq, UInt8.le_iff_toNat_le, hbyte]
    exact ⟨hlo, hhi⟩
  rw [follow, if_pos hcontains, hbyte, Nat.add_sub_cancel]

theorem follow_tail {value d : Nat} (hd : d < 0x40) (ss : List Span) (r : List UInt8) :
    follow value (tailSpan :: ss) (UInt8.ofNat (d + 0x80) :: r) = follow (value * 64 + d) ss r :=
  follow_cons hd (Nat.le_add_left _ _) (by show d + 0x80 ≤ 0xBF; omega) ss r

/-! ## Characters -/

theorem next_of_announced {b : UInt8} {value : Nat} {spans : List Span}
    (h : announced b = some (value, spans)) (r : List UInt8) :
    next (b :: r) = some (follow value spans r) := by
  simp only [next, h]

section

variable {v : Nat} (rest : List UInt8)

theorem next_one (h : v ≤ 0x7F) : next (UInt8.ofNat v :: rest) = some (some (Char.ofNat v), rest) := by
  rw [next_of_announced (announced_one v (by omega)), follow]

theorem next_two (hlo : 0x7F < v) (hhi : v ≤ 0x7FF) :
    next (UInt8.ofNat (v / 64 % 0x20 + 0xC0) :: UInt8.ofNat (v % 0x40 + 0x80) :: rest) =
      some (some (Char.ofNat v), rest) := by
  have hfirst : v / 64 % 0x20 = v / 64 := Nat.mod_eq_of_lt (by omega)
  have hvalue : v / 64 * 64 + v % 0x40 = v := by omega
  rw [hfirst, next_of_announced (announced_two (v / 64) (by omega) (by omega)),
    follow_tail (Nat.mod_lt v (by decide)), hvalue, follow]

theorem next_three (hlo : 0x7FF < v) (hhi : v ≤ 0xFFFF) (hvalid : v < 0xD800 ∨ 0xDFFF < v) :
    next (UInt8.ofNat (v / 4096 % 0x10 + 0xE0) :: UInt8.ofNat (v / 64 % 0x40 + 0x80) ::
      UInt8.ofNat (v % 0x40 + 0x80) :: rest) = some (some (Char.ofNat v), rest) := by
  have hfirst : v / 4096 % 0x10 = v / 4096 := Nat.mod_eq_of_lt (by omega)
  have hvalue : (v / 4096 * 64 + v / 64 % 0x40) * 64 + v % 0x40 = v := by omega
  have hsecond : (secondOfThree (v / 4096)).lo.toNat ≤ v / 64 % 0x40 + 0x80 ∧
      v / 64 % 0x40 + 0x80 ≤ (secondOfThree (v / 4096)).hi.toNat := by
    unfold secondOfThree
    split
    · show 0xA0 ≤ _ ∧ _ ≤ 0xBF
      omega
    split
    · show 0x80 ≤ _ ∧ _ ≤ 0x9F
      omega
    · show 0x80 ≤ _ ∧ _ ≤ 0xBF
      omega
  rw [hfirst, next_of_announced (announced_three (v / 4096) (by omega)),
    follow_cons (Nat.mod_lt _ (by decide)) hsecond.1 hsecond.2,
    follow_tail (Nat.mod_lt v (by decide)), hvalue, follow]

theorem next_four (hlo : 0xFFFF < v) (hhi : v < 0x110000) :
    next (UInt8.ofNat (v / 262144 % 0x08 + 0xF0) :: UInt8.ofNat (v / 4096 % 0x40 + 0x80) ::
      UInt8.ofNat (v / 64 % 0x40 + 0x80) :: UInt8.ofNat (v % 0x40 + 0x80) :: rest) =
      some (some (Char.ofNat v), rest) := by
  have hfirst : v / 262144 % 0x08 = v / 262144 := Nat.mod_eq_of_lt (by omega)
  have hvalue : ((v / 262144 * 64 + v / 4096 % 0x40) * 64 + v / 64 % 0x40) * 64 + v % 0x40 = v := by
    omega
  have hsecond : (secondOfFour (v / 262144)).lo.toNat ≤ v / 4096 % 0x40 + 0x80 ∧
      v / 4096 % 0x40 + 0x80 ≤ (secondOfFour (v / 262144)).hi.toNat := by
    unfold secondOfFour
    split
    · show 0x90 ≤ _ ∧ _ ≤ 0xBF
      omega
    split
    · show 0x80 ≤ _ ∧ _ ≤ 0x8F
      omega
    · show 0x80 ≤ _ ∧ _ ≤ 0xBF
      omega
  rw [hfirst, next_of_announced (announced_four (v / 262144) (by omega)),
    follow_cons (Nat.mod_lt _ (by decide)) hsecond.1 hsecond.2,
    follow_tail (Nat.mod_lt _ (by decide)), follow_tail (Nat.mod_lt v (by decide)), hvalue, follow]

end

/-- The bytes of a character are read as that character. -/
theorem next_encodeChar (c : Char) (rest : List UInt8) :
    next (encodeChar c ++ rest) = some (some c, rest) := by
  have hvalid : c.toNat < 0xD800 ∨ 0xDFFF < c.toNat ∧ c.toNat < 0x110000 := c.valid
  have hval : c.val.toNat = c.toNat := rfl
  have hnext : next (encodeChar c ++ rest) = some (some (Char.ofNat c.toNat), rest) := by
    unfold encodeChar String.utf8EncodeChar
    rw [hval]
    generalize c.toNat = v at hvalid
    dsimp only
    split
    · next h => exact next_one rest h
    split
    · next h h' => exact next_two rest (by omega) h'
    split
    · next h h' => exact next_three rest (by omega) h' (by omega)
    · next h => exact next_four rest (by omega) (by omega)
  rw [hnext, Char.ofNat_toNat]

/-- The bytes of a text are decoded to the text. -/
theorem decodeLossy_encode (cs : List Char) : decodeLossy (encode cs) = cs := by
  induction cs with
  | nil =>
    rw [decodeLossy]
    rfl
  | cons c cs ih =>
    have hnext := next_encodeChar c (encode cs)
    rw [decodeLossy, encode_cons]
    split
    · next hnone =>
      rw [hnext] at hnone
      cases hnone
    · next hsome =>
      rw [hnext] at hsome
      cases hsome
      rw [ih]
      rfl

end TagSpec.Utf8
