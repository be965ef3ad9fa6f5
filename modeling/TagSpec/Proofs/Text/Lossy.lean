import Mathlib.Data.List.Forall2
import TagSpec.Proofs.Text.Pieces
import TagSpec.Proofs.Text.Utf8

/-!
# Damaged text

What the lossy text of bytes is, said without reading them from left to right: the bytes of each
character stand for it, and each longest part that begins no character whole stands for one
replacement character. No such part ends at or goes across a byte of ASCII, so bytes may be cut at
one before they are decoded or behind: `splitOn_decodeLossy`.
-/

namespace TagSpec.Utf8

/-! ## Damage -/

/-- Bytes that some character begins with. -/
def BeginsChar (bs : List UInt8) : Prop := ∃ c, bs <+: encodeChar c

/-- A part of bytes, with others behind it, that stands where no character does: the longest one that
some character begins with, or a single byte with which no character begins. -/
structure Damage (part rest : List UInt8) : Prop where
  ne_nil : part ≠ []
  no_char : ∀ c, ¬ encodeChar c <+: part ++ rest
  begins : part.length = 1 ∨ BeginsChar part
  longest : ∀ longer, longer <+: part ++ rest → BeginsChar longer → longer.length ≤ part.length

/-- The text of bytes in which each damaged part is replaced by one character. -/
inductive Lossy : List UInt8 → List Char → Prop
  | nil : Lossy [] []
  | char (c : Char) {bs : List UInt8} {cs : List Char} : Lossy bs cs →
      Lossy (encodeChar c ++ bs) (c :: cs)
  | damage {part bs : List UInt8} {cs : List Char} : Damage part bs → Lossy bs cs →
      Lossy (part ++ bs) (replacement :: cs)

/-- There is one way to cut off a damaged part. -/
theorem Damage.length_le {part part' rest rest' : List UInt8} (h : Damage part rest)
    (h' : Damage part' rest') (heq : part ++ rest = part' ++ rest') :
    part.length ≤ part'.length := by
  rcases h.begins with hone | hbegins
  · rw [hone]
    exact List.length_pos_iff.2 h'.ne_nil
  · exact h'.longest part (heq ▸ List.prefix_append part rest) hbegins

/-! ## Bytes of one character -/

/-- The number with the bits of one more byte. -/
def joined (value : Nat) (b : UInt8) : Nat := value * 64 + (b.toNat - 0x80)

/-- The number that a first byte and those after it make up. -/
def codeOf (value : Nat) (tail : List UInt8) : Nat := tail.foldl joined value

theorem codeOf_nil (value : Nat) : codeOf value [] = value := by
  simp only [codeOf, List.foldl_nil]

theorem codeOf_cons (value : Nat) (b : UInt8) (tail : List UInt8) :
    codeOf value (b :: tail) = codeOf (value * 64 + (b.toNat - 0x80)) tail := by
  unfold codeOf
  exact List.foldl_cons

/-- Bytes that are in the spans announced for them, one by one. -/
def Fills (ss : List Span) (bs : List UInt8) : Prop :=
  List.Forall₂ (fun s b => s.contains b = true) ss bs

theorem contains_iff {s : Span} {b : UInt8} :
    s.contains b = true ↔ s.lo.toNat ≤ b.toNat ∧ b.toNat ≤ s.hi.toNat := by
  simp only [Span.contains, Bool.and_eq_true, decide_eq_true_eq, UInt8.le_iff_toNat_le]

/-- Bytes in their spans are read up to the last of them. -/
theorem follow_append {ss : List Span} {bs : List UInt8} (h : Fills ss bs) (value : Nat)
    (ss' : List Span) (r : List UInt8) :
    follow value (ss ++ ss') (bs ++ r) = follow (codeOf value bs) ss' r := by
  induction h generalizing value with
  | nil => rw [List.nil_append, List.nil_append, codeOf_nil]
  | cons hb _ ih => rw [List.cons_append, List.cons_append, follow, if_pos hb, ih, codeOf_cons]

/-- Reading comes to the end of the spans, or to a byte that is missing or out of its span. -/
theorem follow_cases (value : Nat) (ss : List Span) (r : List UInt8) :
    (∃ bs rest, Fills ss bs ∧ r = bs ++ rest ∧
      follow value ss r = (some (Char.ofNat (codeOf value bs)), rest)) ∨
    ∃ ss₁ s ss₂ bs rest, ss = ss₁ ++ s :: ss₂ ∧ Fills ss₁ bs ∧ r = bs ++ rest ∧
      (∀ b rest', rest = b :: rest' → s.contains b = false) ∧ follow value ss r = (none, rest) := by
  induction ss generalizing value r with
  | nil => exact .inl ⟨[], r, .nil, rfl, by rw [follow, codeOf_nil]⟩
  | cons s ss ih =>
    cases r with
    | nil => exact .inr ⟨[], s, ss, [], [], rfl, .nil, rfl, by simp, by rw [follow]⟩
    | cons b r =>
      rw [follow]
      by_cases hb : s.contains b = true
      · rw [if_pos hb]
        rcases ih (value * 64 + (b.toNat - 0x80)) r with
          ⟨bs, rest, hbs, rfl, hread⟩ | ⟨ss₁, s', ss₂, bs, rest, rfl, hbs, rfl, hstop, hread⟩
        · exact .inl ⟨b :: bs, rest, .cons hb hbs, rfl, by rw [hread, codeOf_cons]⟩
        · exact .inr ⟨s :: ss₁, s', ss₂, b :: bs, rest, rfl, .cons hb hbs, rfl, hstop, hread⟩
      · rw [if_neg hb]
        refine .inr ⟨[], s, ss, [], b :: r, rfl, .nil, rfl, ?_, rfl⟩
        rintro c rest' heq
        cases heq
        simpa using hb

/-- What a first byte may announce. -/
def Announces (b value : Nat) (ss : List Span) : Prop :=
  b < 0x80 ∧ value = b ∧ ss = [] ∨
  0xC2 ≤ b ∧ b < 0xE0 ∧ value = b - 0xC0 ∧ ss = [tailSpan] ∨
  0xE0 ≤ b ∧ b < 0xF0 ∧ value = b - 0xE0 ∧ ss = [secondOfThree value, tailSpan] ∨
  0xF0 ≤ b ∧ b < 0xF5 ∧ value = b - 0xF0 ∧ ss = [secondOfFour value, tailSpan, tailSpan]

instance (b value : Nat) (ss : List Span) : Decidable (Announces b value ss) := by
  unfold Announces
  infer_instance

private theorem announces_byte : ∀ n < 256,
    (announced (UInt8.ofNat n)).all (fun a => Announces n a.1 a.2) = true := by
  decide +kernel

/-- What is read off a first byte is what it announces. -/
theorem announces {b : UInt8} {value : Nat} {ss : List Span} (h : announced b = some (value, ss)) :
    Announces b.toNat value ss := by
  have hbyte := announces_byte b.toNat b.toNat_lt
  rw [UInt8.ofNat_toNat, h, Option.all_some, decide_eq_true_eq] at hbyte
  exact hbyte

private theorem bounds_ofThree : ∀ n < 0x10, 0x80 ≤ (secondOfThree n).lo.toNat ∧
    (secondOfThree n).hi.toNat ≤ 0xBF ∧ (n = 0 → 0xA0 ≤ (secondOfThree n).lo.toNat) ∧
    (n = 13 → (secondOfThree n).hi.toNat ≤ 0x9F) ∧
    (secondOfThree n).lo.toNat ≤ (secondOfThree n).hi.toNat := by decide

private theorem bounds_ofFour : ∀ n < 5, 0x80 ≤ (secondOfFour n).lo.toNat ∧
    (secondOfFour n).hi.toNat ≤ 0xBF ∧ (n = 0 → 0x90 ≤ (secondOfFour n).lo.toNat) ∧
    (n = 4 → (secondOfFour n).hi.toNat ≤ 0x8F) ∧
    (secondOfFour n).lo.toNat ≤ (secondOfFour n).hi.toNat := by decide

theorem tailSpan_iff {b : UInt8} : tailSpan.contains b = true ↔ 0x80 ≤ b.toNat ∧ b.toNat ≤ 0xBF :=
  contains_iff

/-- The bytes of a character by its number. -/
theorem encodeChar_ofNat {n : Nat} (h : n.isValidChar) :
    encodeChar (Char.ofNat n) =
      if n ≤ 0x7F then [UInt8.ofNat n]
      else if n ≤ 0x7FF then [UInt8.ofNat (n / 64 % 32 + 0xC0), UInt8.ofNat (n % 64 + 0x80)]
      else if n ≤ 0xFFFF then
        [UInt8.ofNat (n / 4096 % 16 + 0xE0), UInt8.ofNat (n / 64 % 64 + 0x80),
          UInt8.ofNat (n % 64 + 0x80)]
      else [UInt8.ofNat (n / 262144 % 8 + 0xF0), UInt8.ofNat (n / 4096 % 64 + 0x80),
        UInt8.ofNat (n / 64 % 64 + 0x80), UInt8.ofNat (n % 64 + 0x80)] := by
  have hcode : (Char.ofNat n).val.toNat = n := by
    rw [Char.ofNat, dif_pos h]
    rfl
  unfold encodeChar String.utf8EncodeChar
  rw [hcode]

/-- A first byte with bytes in the spans that it announces is a character. -/
theorem encodeChar_of_announced {b : UInt8} {value : Nat} {ss : List Span} {tail : List UInt8}
    (h : announced b = some (value, ss)) (ht : Fills ss tail) :
    encodeChar (Char.ofNat (codeOf value tail)) = b :: tail := by
  have hbyte : ∀ {n : Nat} {c : UInt8}, n = c.toNat → UInt8.ofNat n = c := by
    rintro n c rfl
    exact UInt8.ofNat_toNat
  rcases announces h with ⟨hb, rfl, rfl⟩ | ⟨hlo, hhi, hv, rfl⟩ | ⟨hlo, hhi, hv, rfl⟩ |
    ⟨hlo, hhi, hv, rfl⟩
  · cases ht
    have hvalid : b.toNat.isValidChar := .inl (by omega)
    rw [codeOf_nil, encodeChar_ofNat hvalid, if_pos (by omega), UInt8.ofNat_toNat]
  · obtain ⟨c, _, hc, hnil, rfl⟩ := List.forall₂_cons_left_iff.1 ht
    cases hnil
    rw [tailSpan_iff] at hc
    rw [codeOf_cons, codeOf_nil, encodeChar_ofNat (.inl (by omega)), if_neg (by omega), if_pos (by omega),
      hbyte (c := b) (by omega), hbyte (c := c) (by omega)]
  · obtain ⟨c, _, hc, hds, rfl⟩ := List.forall₂_cons_left_iff.1 ht
    obtain ⟨d, _, hd, hnil, rfl⟩ := List.forall₂_cons_left_iff.1 hds
    cases hnil
    rw [contains_iff] at hc
    rw [tailSpan_iff] at hd
    obtain ⟨hclo, hchi, hfirst, hlast, -⟩ := bounds_ofThree value (by omega)
    have hvalid : ((value * 64 + (c.toNat - 0x80)) * 64 + (d.toNat - 0x80)).isValidChar := by
      show _ < 0xD800 ∨ 0xDFFF < _ ∧ _ < 0x110000
      omega
    rw [codeOf_cons, codeOf_cons, codeOf_nil, encodeChar_ofNat hvalid, if_neg (by omega), if_neg (by omega), if_pos (by omega),
      hbyte (c := b) (by omega), hbyte (c := c) (by omega), hbyte (c := d) (by omega)]
  · obtain ⟨c, _, hc, hds, rfl⟩ := List.forall₂_cons_left_iff.1 ht
    obtain ⟨d, _, hd, hes, rfl⟩ := List.forall₂_cons_left_iff.1 hds
    obtain ⟨e, _, he, hnil, rfl⟩ := List.forall₂_cons_left_iff.1 hes
    cases hnil
    rw [contains_iff] at hc
    rw [tailSpan_iff] at hd he
    obtain ⟨hclo, hchi, hfirst, hlast, -⟩ := bounds_ofFour value (by omega)
    rw [codeOf_cons, codeOf_cons, codeOf_cons, codeOf_nil, encodeChar_ofNat (.inr (by omega)), if_neg (by omega), if_neg (by omega),
      if_neg (by omega), hbyte (c := b) (by omega), hbyte (c := c) (by omega),
      hbyte (c := d) (by omega), hbyte (c := e) (by omega)]

/-- Each span that a first byte announces holds some byte. -/
theorem exists_fills {b : UInt8} {value : Nat} {ss : List Span} (h : announced b = some (value, ss)) :
    ∀ s ∈ ss, s.contains s.lo = true := by
  have htail : tailSpan.contains tailSpan.lo = true := rfl
  intro s hs
  rcases announces h with ⟨-, -, rfl⟩ | ⟨-, -, -, rfl⟩ | ⟨hlo, hhi, hv, rfl⟩ | ⟨hlo, hhi, hv, rfl⟩
  · cases hs
  · rw [List.mem_singleton.1 hs]
    exact htail
  · simp only [List.mem_cons, List.not_mem_nil, or_false] at hs
    rcases hs with rfl | rfl
    · exact contains_iff.2 ⟨Nat.le_refl _, (bounds_ofThree value (by omega)).2.2.2.2⟩
    · exact htail
  · simp only [List.mem_cons, List.not_mem_nil, or_false] at hs
    rcases hs with rfl | rfl | rfl
    · exact contains_iff.2 ⟨Nat.le_refl _, (bounds_ofFour value (by omega)).2.2.2.2⟩
    · exact htail
    · exact htail

/-- A first byte with some of the bytes that it announces begins a character. -/
theorem beginsChar_of_fills {b : UInt8} {value : Nat} {ss₁ ss₂ : List Span} {bs : List UInt8}
    (h : announced b = some (value, ss₁ ++ ss₂)) (hbs : Fills ss₁ bs) : BeginsChar (b :: bs) := by
  have hrest : Fills ss₂ (ss₂.map Span.lo) := by
    rw [Fills, List.forall₂_map_right_iff, List.forall₂_same]
    exact fun s hs => exists_fills h s (List.mem_append_right ss₁ hs)
  refine ⟨Char.ofNat (codeOf value (bs ++ ss₂.map Span.lo)), ss₂.map Span.lo, ?_⟩
  exact (encodeChar_of_announced h (List.rel_append hbs hrest)).symm

/-! ## Reading -/

/-- A character is read exactly where its bytes stand. -/
theorem next_char_iff {bs rest : List UInt8} {c : Char} :
    next bs = some (some c, rest) ↔ bs = encodeChar c ++ rest := by
  constructor
  · intro h
    cases bs with
    | nil => cases h
    | cons b r =>
      rw [next] at h
      split at h
      · cases h
      next value ss ha =>
      rcases follow_cases value ss r with
        ⟨tail, rest', htail, rfl, hread⟩ | ⟨_, _, _, _, _, -, -, -, -, hread⟩
      · rw [hread] at h
        cases h
        rw [encodeChar_of_announced ha htail, List.cons_append]
      · rw [hread] at h
        cases h
  · rintro rfl
    exact next_encodeChar c rest

/-- Bytes that go on in another way than announced begin no character. -/
theorem not_beginsChar {b c : UInt8} {value : Nat} {ss₁ ss₂ : List Span} {s : Span}
    {bs more : List UInt8} (ha : announced b = some (value, ss₁ ++ s :: ss₂)) (hbs : Fills ss₁ bs)
    (hc : s.contains c = false) : ¬ BeginsChar (b :: (bs ++ c :: more)) := by
  rintro ⟨d, tail, heq⟩
  have hread := next_encodeChar d []
  rw [List.append_nil, ← heq, List.cons_append, next_of_announced ha, List.append_assoc,
    follow_append hbs, List.cons_append, follow, if_neg (by simp [hc])] at hread
  cases hread

/-- What is dropped at once is a damaged part. -/
theorem exists_damage_of_next {bs rest : List UInt8} (h : next bs = some (none, rest)) :
    ∃ part, Damage part rest ∧ bs = part ++ rest := by
  have hno : ∀ c, ¬ encodeChar c <+: bs := by
    rintro c ⟨more, rfl⟩
    rw [next_encodeChar] at h
    cases h
  cases bs with
  | nil => cases h
  | cons b r =>
    rw [next] at h
    split at h
    · next ha =>
      cases h
      refine ⟨[b], ⟨by simp, hno, .inl rfl, ?_⟩, rfl⟩
      rintro longer hlonger ⟨c, hc⟩
      cases longer with
      | nil => exact Nat.zero_le _
      | cons d ds =>
        obtain ⟨rfl, -⟩ := List.cons_prefix_cons.1 hlonger
        obtain ⟨more, hmore⟩ := hc
        have hnext := next_encodeChar c []
        rw [List.append_nil, ← hmore, List.cons_append, next, ha] at hnext
        cases hnext
    · next value ss ha =>
      rcases follow_cases value ss r with
        ⟨_, _, -, -, hfollow⟩ | ⟨ss₁, s, ss₂, done, rest', rfl, hdone, rfl, hstop, hfollow⟩
      · rw [hfollow] at h
        cases h
      rw [hfollow] at h
      cases h
      refine ⟨b :: done, ⟨by simp, hno, .inr (beginsChar_of_fills ha hdone), ?_⟩, rfl⟩
      intro longer hlonger hbegins
      by_contra hlt
      have hprefix : b :: done <+: longer :=
        List.prefix_of_prefix_length_le (List.prefix_append _ _) hlonger (by omega)
      obtain ⟨more, rfl⟩ := hprefix
      cases more with
      | nil => simp at hlt
      | cons c more =>
        have htail := (List.prefix_append_right_inj (b :: done)).1 hlonger
        obtain ⟨rest'', hrest⟩ := htail
        rw [List.cons_append] at hrest
        exact not_beginsChar ha hdone (hstop c _ hrest.symm) hbegins

/-- A damaged part is skipped exactly where one stands. -/
theorem next_damage_iff {bs rest : List UInt8} :
    next bs = some (none, rest) ↔ ∃ part, Damage part rest ∧ bs = part ++ rest := by
  constructor
  · exact exists_damage_of_next
  · rintro ⟨part, hpart, rfl⟩
    cases hnext : next (part ++ rest) with
    | none =>
      have hne : part ++ rest ≠ [] := by simp [hpart.ne_nil]
      obtain ⟨b, r, hbr⟩ := List.exists_cons_of_ne_nil hne
      rw [hbr, next] at hnext
      split at hnext <;> cases hnext
    | some r =>
      obtain ⟨c, rest'⟩ := r
      cases c with
      | some c =>
        rw [next_char_iff] at hnext
        exact absurd ⟨rest', hnext.symm⟩ (hpart.no_char c)
      | none =>
        obtain ⟨part', hpart', heq⟩ := exists_damage_of_next hnext
        have hlen := Nat.le_antisymm (hpart.length_le hpart' heq) (hpart'.length_le hpart heq.symm)
        rw [(List.append_inj heq hlen).2]

/-- A text is read character by character. -/
theorem decodeLossy_of_next {bs rest : List UInt8} {c : Option Char} (h : next bs = some (c, rest)) :
    decodeLossy bs = c.getD replacement :: decodeLossy rest := by
  rw [decodeLossy]
  split
  · next hnone =>
    rw [h] at hnone
    cases hnone
  · next hsome =>
    rw [h] at hsome
    cases hsome
    rfl

/-- The lossy text is what characters and damaged parts stand for. -/
theorem lossy_iff {bs : List UInt8} {cs : List Char} : Lossy bs cs ↔ decodeLossy bs = cs := by
  constructor
  · intro h
    induction h with
    | nil =>
      rw [decodeLossy]
      rfl
    | char c _ ih => rw [decodeLossy_of_next (next_char_iff.2 rfl), ih, Option.getD_some]
    | damage hpart _ ih =>
      rw [decodeLossy_of_next (next_damage_iff.2 ⟨_, hpart, rfl⟩), ih, Option.getD_none]
  · rintro rfl
    fun_induction decodeLossy bs with
    | case1 bs hnone =>
      cases bs with
      | nil => exact .nil
      | cons b r =>
        rw [next] at hnone
        split at hnone <;> cases hnone
    | case2 bs c rest hsome ih =>
      cases c with
      | some c =>
        rw [next_char_iff.1 hsome]
        exact .char c ih
      | none =>
        obtain ⟨part, hpart, rfl⟩ := next_damage_iff.1 hsome
        exact .damage hpart ih

/-! ## Bytes of ASCII -/

/-- A byte of ASCII is a character by itself and no part of another. -/
theorem eq_singleton_of_ascii {b : UInt8} (hb : b.toNat < 0x80) {c : Char} (h : b ∈ encodeChar c) :
    encodeChar c = [b] ∧ c = Char.ofNat b.toNat := by
  have hc : c.toNat < 0x80 := by
    by_contra hc
    have hhigh := high_of_mem_encodeChar (by omega) h
    omega
  have hsingle : encodeChar c = [UInt8.ofNat c.toNat] := by
    rw [← Char.ofNat_toNat c, encodeChar_ofNat (.inl (by omega)), Char.ofNat_toNat, if_pos (by omega)]
  rw [hsingle, List.mem_singleton] at h
  refine ⟨hsingle.trans (by rw [h]), ?_⟩
  rw [h, UInt8.toNat_ofNat_of_lt' (by show c.toNat < 256; omega), Char.ofNat_toNat]

theorem encodeChar_ascii_byte {b : UInt8} (hb : b.toNat < 0x80) :
    encodeChar (Char.ofNat b.toNat) = [b] := by
  rw [encodeChar_ofNat (.inl (by omega)), if_pos (by omega), UInt8.ofNat_toNat]

/-- No character begins with bytes behind which a byte of ASCII stands. -/
theorem not_beginsChar_ascii {b : UInt8} (hb : b.toNat < 0x80) {part more : List UInt8}
    (hpart : part ≠ []) : ¬ BeginsChar (part ++ b :: more) := by
  rintro ⟨c, hc⟩
  have hmem : b ∈ encodeChar c := hc.subset (by simp)
  rw [(eq_singleton_of_ascii hb hmem).1] at hc
  have hlen := hc.length_le
  have hpos := List.length_pos_iff.2 hpart
  simp only [List.length_append, List.length_cons, List.length_nil] at hlen
  omega

/-- What begins a character in front of a byte of ASCII ends before it. -/
theorem prefix_of_beginsChar {b : UInt8} (hb : b.toNat < 0x80) {part rest bs more : List UInt8}
    (hpart : part ≠ []) (hbs : BeginsChar bs) (h : bs <+: part ++ (rest ++ b :: more)) :
    bs <+: part ++ rest := by
  rw [← List.append_assoc] at h
  rcases Nat.le_total bs.length (part ++ rest).length with hle | hle
  · exact List.prefix_of_prefix_length_le h (List.prefix_append _ _) hle
  · obtain ⟨tail, rfl⟩ := List.prefix_of_prefix_length_le (List.prefix_append _ _) h hle
    cases tail with
    | nil => simp
    | cons c tail =>
      rw [List.prefix_append_right_inj, List.cons_prefix_cons] at h
      rw [h.1] at hbs
      exact absurd hbs (not_beginsChar_ascii hb (by simp [hpart]))

/-- A damaged part stays one if a byte of ASCII follows at some place. -/
theorem Damage.append_ascii {b : UInt8} (hb : b.toNat < 0x80) {part rest : List UInt8}
    (h : Damage part rest) (more : List UInt8) : Damage part (rest ++ b :: more) where
  ne_nil := h.ne_nil
  no_char c hc := h.no_char c (prefix_of_beginsChar hb h.ne_nil ⟨c, List.prefix_rfl⟩ hc)
  begins := h.begins
  longest longer hlonger hbegins :=
    h.longest longer (prefix_of_beginsChar hb h.ne_nil hbegins hlonger) hbegins

/-- Text in front of a byte of ASCII and behind it is decoded apart. -/
theorem Lossy.append_ascii {b : UInt8} (hb : b.toNat < 0x80) {bs more : List UInt8}
    {cs ds : List Char} (h : Lossy bs cs) (hmore : Lossy more ds) :
    Lossy (bs ++ b :: more) (cs ++ Char.ofNat b.toNat :: ds) := by
  induction h with
  | nil =>
    have hchar := Lossy.char (Char.ofNat b.toNat) hmore
    rwa [encodeChar_ascii_byte hb] at hchar
  | char c _ ih =>
    rw [List.append_assoc]
    exact .char c ih
  | damage hpart _ ih =>
    rw [List.append_assoc]
    exact .damage (hpart.append_ascii hb more) ih

/-- A character of ASCII is in the text only if its byte is among the bytes. -/
theorem Lossy.mem_ascii {b : UInt8} (hb : b.toNat < 0x80) {bs : List UInt8} {cs : List Char}
    (h : Lossy bs cs) (hmem : Char.ofNat b.toNat ∈ cs) : b ∈ bs := by
  induction h with
  | nil => cases hmem
  | char c _ ih =>
    rcases List.mem_cons.1 hmem with rfl | hmem
    · rw [encodeChar_ascii_byte hb]
      simp
    · exact List.mem_append_right _ (ih hmem)
  | damage _ _ ih =>
    rcases List.mem_cons.1 hmem with heq | hmem
    · have hcode : ∀ n < 0x80, Char.ofNat n ≠ replacement := by decide
      exact absurd heq (hcode _ hb)
    · exact List.mem_append_right _ (ih hmem)

/-! ## Cutting -/

/-- Bytes may be decoded before they are cut at a byte of ASCII or behind. -/
theorem splitOn_decodeLossy {b : UInt8} (hb : b.toNat < 0x80) (bs : List UInt8) :
    (decodeLossy bs).splitOn (Char.ofNat b.toNat) = (bs.splitOn b).map decodeLossy := by
  have hjoin : ∀ ps : List (List UInt8), ps ≠ [] →
      decodeLossy ([b].intercalate ps) = [Char.ofNat b.toNat].intercalate (ps.map decodeLossy) := by
    intro ps
    induction ps with
    | nil => exact fun h => absurd rfl h
    | cons p ps ih =>
      intro _
      cases ps with
      | nil => simp [List.intercalate_singleton]
      | cons q qs =>
        rw [List.intercalate_cons_cons, List.append_assoc, List.singleton_append, List.map_cons,
          List.map_cons, List.intercalate_cons_cons, List.append_assoc, List.singleton_append]
        have hrest := lossy_iff.2 (ih (by simp))
        exact lossy_iff.1 ((lossy_iff.2 rfl).append_ascii hb hrest)
  have hne : (bs.splitOn b).map decodeLossy ≠ [] := by
    rw [← pieces_eq_splitOn]
    simpa using pieces_ne_nil b bs
  have hnone : ∀ p ∈ (bs.splitOn b).map decodeLossy, Char.ofNat b.toNat ∉ p := by
    intro p hp hmem
    obtain ⟨q, hq, rfl⟩ := List.mem_map.1 hp
    rw [← pieces_eq_splitOn] at hq
    exact not_mem_of_mem_pieces hq ((lossy_iff.2 rfl).mem_ascii hb hmem)
  rw [← List.splitOn_intercalate _ hnone hne, ← hjoin _ (by simp),
    List.intercalate_splitOn]

end TagSpec.Utf8
