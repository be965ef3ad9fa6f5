import TagSpec.Proofs.StringLiteral

/-!
# The grammar of string literals

What a literal has to be, said without reading it from left to right: a quote, characters and
escapes, and a quote. Main statement: `decode?_exact`, by which a text denotes something exactly if
it is of this form, and then it denotes what its items stand for.
-/

namespace TagSpec.StringLiteral

/-! ## Items -/

/-- The escapes of one letter and the bytes that they stand for. -/
def letters : List (Char × UInt8) :=
  [('a', 0x07), ('b', 0x08), ('f', 0x0C), ('n', 0x0A), ('r', 0x0D), ('t', 0x09), ('v', 0x0B),
    ('\\', 0x5C), ('"', 0x22)]

/-- What may follow a backslash, and the bytes that it stands for. A numeral of two hexadecimal or
three octal digits is the number of a byte, one of four or eight hexadecimal digits that of a
character. -/
inductive Escape : List Char → List UInt8 → Prop
  | letter {c : Char} {b : UInt8} : (c, b) ∈ letters → Escape [c] [b]
  | hex {ds : List Char} {b : UInt8} : Numeral 16 2 ds b.toNat → Escape ('x' :: ds) [b]
  | octal {ds : List Char} {b : UInt8} : Numeral 8 3 ds b.toNat → Escape ds [b]
  | short {ds : List Char} {c : Char} : Numeral 16 4 ds c.toNat →
      Escape ('u' :: ds) (Utf8.encodeChar c)
  | long {ds : List Char} {c : Char} : Numeral 16 8 ds c.toNat →
      Escape ('U' :: ds) (Utf8.encodeChar c)

/-- A character that stands for itself, or a backslash with an escape behind it. -/
inductive IsItem : List Char → List UInt8 → Prop
  | char {c : Char} : c ≠ '"' → c ≠ '\\' → c ≠ '\n' → IsItem [c] (Utf8.encodeChar c)
  | escape {cs : List Char} {bs : List UInt8} : Escape cs bs → IsItem ('\\' :: cs) bs

/-- Items one after another. -/
inductive Items : List Char → List UInt8 → Prop
  | nil : Items [] []
  | cons {item cs : List Char} {bytes bs : List UInt8} : IsItem item bytes → Items cs bs →
      Items (item ++ cs) (bytes ++ bs)

/-- A literal with items between its quotes denotes what they stand for. -/
def Denotes (literal : List Char) (bs : List UInt8) : Prop :=
  ∃ body, Items body bs ∧ literal = '"' :: (body ++ ['"'])

/-! ## Reading one item -/

/-- The escapes of one letter are those of the list. -/
theorem simpleEscape?_eq_some_iff {c : Char} {b : UInt8} :
    simpleEscape? c = some b ↔ (c, b) ∈ letters := by
  unfold simpleEscape? letters
  constructor
  · intro h
    split at h <;> cases h <;> decide
  · intro h
    simp only [List.mem_cons, Prod.mk.injEq, List.not_mem_nil, or_false] at h
    rcases h with ⟨rfl, rfl⟩ | ⟨rfl, rfl⟩ | ⟨rfl, rfl⟩ | ⟨rfl, rfl⟩ | ⟨rfl, rfl⟩ | ⟨rfl, rfl⟩ |
      ⟨rfl, rfl⟩ | ⟨rfl, rfl⟩ | ⟨rfl, rfl⟩ <;> rfl

/-- The bytes for a number are those of the character with that number. -/
theorem charBytes?_eq_some_iff {n : Nat} {bs : List UInt8} :
    charBytes? n = some bs ↔ ∃ c : Char, c.toNat = n ∧ Utf8.encodeChar c = bs := by
  unfold charBytes?
  constructor
  · intro h
    split at h
    · next hn =>
      cases h
      have hcode : (Char.ofNat n).toNat = n := by
        rw [Char.ofNat, dif_pos hn]
        rfl
      exact ⟨Char.ofNat n, hcode, rfl⟩
    · cases h
  · rintro ⟨c, rfl, rfl⟩
    rw [if_pos (show c.toNat.isValidChar from c.valid), Char.ofNat_toNat]

/-- A digit of an octal numeral is no letter that begins another escape. -/
theorem simpleEscape?_octal {c : Char} {n : Nat} (h : IsDigit 8 c n) :
    simpleEscape? c = none ∧ c ≠ 'x' ∧ c ≠ 'u' ∧ c ≠ 'U' := by
  have hall : ∀ row ∈ digitRows, ∀ n < 8, (row[n]?).all
      (fun c => simpleEscape? c = none ∧ c ≠ 'x' ∧ c ≠ 'u' ∧ c ≠ 'U') = true := by
    decide
  obtain ⟨hn, row, hrow, hc⟩ := h
  have hother := hall row hrow n hn
  rwa [hc, Option.all_some, decide_eq_true_eq] at hother

/-- Two hexadecimal digits are read as the number of a byte. -/
theorem readHexByte_eq_some_iff {cs rest : List Char} {bs : List UInt8} :
    (readDigits 16 2 0 cs).map (fun (n, rest) => ([n.toUInt8], rest)) = some (bs, rest) ↔
      ∃ ds b, Numeral 16 2 ds (UInt8.toNat b) ∧ bs = [b] ∧ cs = ds ++ rest := by
  constructor
  · intro h
    obtain ⟨⟨n, r⟩, hr, hn⟩ := Option.map_eq_some_iff.1 h
    cases hn
    obtain ⟨ds, hcs, hds⟩ := (readDigits_iff_numeral (Nat.le_refl 16)).1 hr
    have hb : n.toUInt8.toNat = n := UInt8.toNat_ofNat_of_lt' (numeral_lt (by decide) hds)
    exact ⟨ds, n.toUInt8, hb.symm ▸ hds, rfl, hcs⟩
  · rintro ⟨ds, b, hds, rfl, hcs⟩
    rw [(readDigits_iff_numeral (Nat.le_refl 16)).2 ⟨ds, hcs, hds⟩]
    simp

/-- Three octal digits are read as the number of a byte, if there is a byte of this number. -/
theorem readOctalByte_eq_some_iff {cs rest : List Char} {bs : List UInt8} :
    (readDigits 8 3 0 cs).bind (fun (n, rest) => if n ≤ 0xFF then some ([n.toUInt8], rest) else none) =
        some (bs, rest) ↔
      ∃ ds b, Numeral 8 3 ds (UInt8.toNat b) ∧ bs = [b] ∧ cs = ds ++ rest := by
  constructor
  · intro h
    obtain ⟨⟨n, r⟩, hr, hn⟩ := Option.bind_eq_some_iff.1 h
    simp only at hn
    split at hn
    · next hle =>
      cases hn
      obtain ⟨ds, hcs, hds⟩ := (readDigits_iff_numeral (by decide)).1 hr
      have hb : n.toUInt8.toNat = n := UInt8.toNat_ofNat_of_lt' (Nat.lt_succ_of_le hle)
      exact ⟨ds, n.toUInt8, hb.symm ▸ hds, rfl, hcs⟩
    · cases hn
  · rintro ⟨ds, b, hds, rfl, hcs⟩
    rw [(readDigits_iff_numeral (by decide)).2 ⟨ds, hcs, hds⟩]
    have hle : b.toNat ≤ 0xFF := Nat.le_of_lt_succ b.toNat_lt
    simp [hle]

/-- Hexadecimal digits are read as the number of a character, if there is a character of this number. -/
theorem readChar_eq_some_iff {count : Nat} {cs rest : List Char} {bs : List UInt8} :
    (readDigits 16 count 0 cs).bind (fun (n, rest) => (charBytes? n).map (·, rest)) =
        some (bs, rest) ↔
      ∃ ds c, Numeral 16 count ds (Char.toNat c) ∧ bs = Utf8.encodeChar c ∧ cs = ds ++ rest := by
  constructor
  · intro h
    obtain ⟨⟨n, r⟩, hr, hn⟩ := Option.bind_eq_some_iff.1 h
    obtain ⟨bytes, hbytes, hb⟩ := Option.map_eq_some_iff.1 hn
    cases hb
    obtain ⟨ds, hcs, hds⟩ := (readDigits_iff_numeral (Nat.le_refl 16)).1 hr
    obtain ⟨c, rfl, rfl⟩ := charBytes?_eq_some_iff.1 hbytes
    exact ⟨ds, c, hds, rfl, hcs⟩
  · rintro ⟨ds, c, hds, rfl, hcs⟩
    rw [(readDigits_iff_numeral (Nat.le_refl 16)).2 ⟨ds, hcs, hds⟩]
    simp [charBytes?_eq_some_iff.2 ⟨c, rfl, rfl⟩]

/-- What is read as an escape is one. -/
theorem escape_of_readEscape {cs rest : List Char} {bs : List UInt8}
    (h : readEscape cs = some (bs, rest)) : ∃ escape, Escape escape bs ∧ cs = escape ++ rest := by
  cases cs with
  | nil => cases h
  | cons e cs =>
    simp only [readEscape] at h
    split at h
    · next b hb =>
      cases h
      exact ⟨[e], .letter (simpleEscape?_eq_some_iff.1 hb), rfl⟩
    split at h
    · next he =>
      subst he
      obtain ⟨ds, b, hds, rfl, rfl⟩ := readHexByte_eq_some_iff.1 h
      exact ⟨'x' :: ds, .hex hds, rfl⟩
    split at h
    · next he =>
      subst he
      obtain ⟨ds, c, hds, rfl, rfl⟩ := readChar_eq_some_iff.1 h
      exact ⟨'u' :: ds, .short hds, rfl⟩
    split at h
    · next he =>
      subst he
      obtain ⟨ds, c, hds, rfl, rfl⟩ := readChar_eq_some_iff.1 h
      exact ⟨'U' :: ds, .long hds, rfl⟩
    split at h
    · obtain ⟨ds, b, hds, rfl, hcs⟩ := readOctalByte_eq_some_iff.1 h
      exact ⟨ds, .octal hds, hcs⟩
    · cases h

/-- An escape is read whatever stands behind it. -/
theorem readEscape_of_escape {escape : List Char} {bs : List UInt8} (h : Escape escape bs)
    (rest : List Char) : readEscape (escape ++ rest) = some (bs, rest) := by
  cases h with
  | letter hc => simp [readEscape, simpleEscape?_eq_some_iff.2 hc]
  | @hex ds b hds =>
    have hread := readHexByte_eq_some_iff.2 ⟨ds, b, hds, rfl, Eq.refl (ds ++ rest)⟩
    simpa [readEscape, simpleEscape?] using hread
  | @octal _ b hds =>
    have hread := readOctalByte_eq_some_iff.2 ⟨escape, b, hds, rfl, Eq.refl (escape ++ rest)⟩
    obtain ⟨hlen, ns, hdigits, -⟩ := hds
    cases hdigits with
    | nil => cases hlen
    | @cons d n ds ns hd hds =>
      have hsome : (digit? 8 d).isSome := by
        rw [(digit?_eq_some_iff (by decide)).2 hd]
        rfl
      have hother := simpleEscape?_octal hd
      rw [List.cons_append] at hread ⊢
      simpa [readEscape, hother, hsome] using hread
  | @short ds c hds =>
    have hread := readChar_eq_some_iff.2 ⟨ds, c, hds, rfl, Eq.refl (ds ++ rest)⟩
    simpa [readEscape, simpleEscape?] using hread
  | @long ds c hds =>
    have hread := readChar_eq_some_iff.2 ⟨ds, c, hds, rfl, Eq.refl (ds ++ rest)⟩
    simpa [readEscape, simpleEscape?] using hread

/-- An escape is read exactly where one stands. -/
theorem readEscape_eq_some_iff {cs rest : List Char} {bs : List UInt8} :
    readEscape cs = some (bs, rest) ↔ ∃ escape, Escape escape bs ∧ cs = escape ++ rest := by
  constructor
  · exact escape_of_readEscape
  · rintro ⟨escape, hescape, rfl⟩
    exact readEscape_of_escape hescape rest

/-- Behind the character of an escape stand only digits that belong to it. -/
theorem Escape.exists_cons {escape : List Char} {bs : List UInt8} (h : Escape escape bs) :
    ∃ e ds, escape = e :: ds ∧ ∀ d ∈ ds, d ≠ '"' ∧ d ≠ '\\' := by
  cases h with
  | @letter c => exact ⟨c, [], rfl, by simp⟩
  | @hex ds _ hds => exact ⟨'x', ds, rfl, hds.ne_quote⟩
  | octal hds =>
    obtain ⟨d, ds, rfl⟩ := List.exists_cons_of_length_pos (show 0 < escape.length by rw [hds.1]; decide)
    exact ⟨d, ds, rfl, (List.forall_mem_cons.1 hds.ne_quote).2⟩
  | @short ds _ hds => exact ⟨'u', ds, rfl, hds.ne_quote⟩
  | @long ds _ hds => exact ⟨'U', ds, rfl, hds.ne_quote⟩

/-- An item is read exactly where one stands. -/
theorem readItem_eq_some_iff {cs rest : List Char} {bs : List UInt8} :
    readItem cs = some (bs, rest) ↔ ∃ item, IsItem item bs ∧ cs = item ++ rest := by
  constructor
  · intro h
    cases cs with
    | nil => cases h
    | cons c cs =>
      simp only [readItem] at h
      split at h
      · cases h
      next hc =>
      rw [not_or] at hc
      split at h
      · next hb =>
        subst hb
        obtain ⟨escape, hescape, rfl⟩ := readEscape_eq_some_iff.1 h
        exact ⟨'\\' :: escape, .escape hescape, rfl⟩
      · next hb =>
        cases h
        exact ⟨[c], .char hc.1 hb hc.2, rfl⟩
  · rintro ⟨item, hitem, rfl⟩
    cases hitem with
    | char hq hb hn => exact readItem_char hq hn hb rest
    | @escape escape _ hescape =>
      have hread : readEscape (escape ++ rest) = some (bs, rest) :=
        readEscape_eq_some_iff.2 ⟨escape, hescape, rfl⟩
      simpa [readItem] using hread

/-! ## Reading a literal -/

/-- A text is decoded item by item exactly if it consists of items. -/
theorem decodeItems_eq_some_iff {cs : List Char} {bs : List UInt8} :
    decodeItems cs = some bs ↔ Items cs bs := by
  constructor
  · intro h
    fun_induction decodeItems cs generalizing bs with
    | case1 cs hempty =>
      cases h
      rw [List.isEmpty_iff.1 hempty]
      exact .nil
    | case2 => cases h
    | case3 cs _ bytes rest hread ih =>
      obtain ⟨tail, htail, rfl⟩ := Option.map_eq_some_iff.1 h
      obtain ⟨item, hitem, rfl⟩ := readItem_eq_some_iff.1 hread
      exact .cons hitem (ih htail)
  · intro h
    induction h with
    | nil => exact decodeItems_nil
    | cons hitem _ ih =>
      rw [decodeItems_of_readItem (readItem_eq_some_iff.2 ⟨_, hitem, rfl⟩), ih]
      rfl

theorem decode?_eq_some_iff {literal : List Char} {bs : List UInt8} :
    decode? literal = some bs ↔ Denotes literal bs := by
  constructor
  · intro h
    obtain ⟨body, hbody, -⟩ := Option.bind_eq_some_iff.1 h
    rw [body?_eq_some_iff] at hbody
    rw [hbody, decode?_quoted] at h
    exact ⟨body, decodeItems_eq_some_iff.1 h, hbody⟩
  · rintro ⟨body, hbody, rfl⟩
    rw [decode?_quoted]
    exact decodeItems_eq_some_iff.2 hbody

/-- A text denotes bytes exactly if it is a literal with items that stand for them, and nothing if it
is no literal. Where no backslash is in the body, reading it at once and reading it item by item come
to the same. -/
theorem decode?_exact :
    (∀ literal bs, decode? literal = some bs ↔ Denotes literal bs) ∧
      (∀ literal, decode? literal = none ↔ ∀ bs, ¬ Denotes literal bs) ∧
      ∀ body : List Char, '\\' ∉ body → decodePlain body = decodeItems body := by
  refine ⟨fun _ _ => decode?_eq_some_iff, fun literal => ?_, fun body h => ?_⟩
  · rw [Option.eq_none_iff_forall_ne_some]
    exact forall_congr' fun bs => not_congr decode?_eq_some_iff
  · exact (decodeItems_eq_decodePlain h).symm

end TagSpec.StringLiteral
