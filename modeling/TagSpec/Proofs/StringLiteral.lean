import Mathlib.Data.List.Basic
import TagSpec.Proofs.Text.Digits
import TagSpec.StringLiteral

/-!
# String literals read back

What `decode?` makes of a literal that was written character by character, and from that what it
makes of the literals of `encode`. Main statement: a written literal always denotes something, and it
denotes the text it was written for exactly if that text has no control character beyond ASCII.
-/

namespace TagSpec.StringLiteral

/-! ## Items -/

@[simp] theorem decodeItems_nil : decodeItems [] = some [] := by
  rw [decodeItems]
  rfl

/-- One item is decoded, and then the rest of the text. -/
theorem decodeItems_of_readItem {cs rest : List Char} {bs : List UInt8}
    (h : readItem cs = some (bs, rest)) :
    decodeItems cs = (decodeItems rest).map (bs ++ ·) := by
  cases cs with
  | nil => cases h
  | cons c cs =>
    rw [decodeItems]
    split
    · next hc => simp at hc
    · split
      · next hn => simp [h] at hn
      · next hs =>
        rw [h] at hs
        cases hs
        rfl

/-- A text that is written item by item is decoded item by item. -/
theorem decodeItems_flatMap {write : Char → List Char} {bytes : Char → List UInt8}
    {cs : List Char} (h : ∀ c ∈ cs, ∀ rest, readItem (write c ++ rest) = some (bytes c, rest)) :
    decodeItems (cs.flatMap write) = some (cs.flatMap bytes) := by
  induction cs with
  | nil => simp
  | cons c cs ih =>
    have hc := h c List.mem_cons_self (cs.flatMap write)
    have hcs := ih fun d hd => h d (List.mem_cons_of_mem _ hd)
    simp [decodeItems_of_readItem hc, hcs]

/-- A character that needs no escape is an item by itself. -/
theorem readItem_char {c : Char} (hq : c ≠ '"') (hn : c ≠ '\n') (hb : c ≠ '\\')
    (rest : List Char) : readItem (c :: rest) = some (Utf8.encodeChar c, rest) := by
  simp [readItem, hq, hn, hb]

/-- Without escapes there is nothing to decode item by item. -/
theorem decodeItems_eq_decodePlain {cs : List Char} (h : '\\' ∉ cs) :
    decodeItems cs = decodePlain cs := by
  induction cs with
  | nil => simp [decodePlain]
  | cons c cs ih =>
    have hb : c ≠ '\\' := fun e => h (e ▸ List.mem_cons_self)
    have hcs := ih fun hm => h (List.mem_cons_of_mem _ hm)
    by_cases hc : c = '"' ∨ c = '\n'
    · have hnone : readItem (c :: cs) = none := by simp [readItem, hc]
      rw [decodeItems]
      split
      · next he => simp at he
      · split
        · rcases hc with rfl | rfl <;> simp [decodePlain]
        · next hs => simp [hnone] at hs
    · rw [not_or] at hc
      rw [decodeItems_of_readItem (readItem_char hc.1 hc.2 hb cs), hcs]
      simp only [decodePlain, List.contains_cons, beq_eq_false_iff_ne.2 (Ne.symm hc.1),
        beq_eq_false_iff_ne.2 (Ne.symm hc.2), Bool.false_or]
      split <;> simp

/-- A body stands between two quotes. -/
theorem body?_eq_some_iff {literal body : List Char} :
    body? literal = some body ↔ literal = '"' :: (body ++ ['"']) := by
  constructor
  · intro h
    unfold body? at h
    split at h
    · next cs =>
      split at h
      · next hlast =>
        cases h
        rw [List.dropLast_append_getLast? _ hlast]
      · cases h
    · cases h
  · rintro rfl
    simp [body?]

/-- The literal of a body denotes what the items of the body do. -/
theorem decode?_quoted (cs : List Char) : decode? ('"' :: (cs ++ ['"'])) = decodeItems cs := by
  rw [decode?, body?_eq_some_iff.2 rfl, Option.bind_some]
  split
  · rfl
  · next h => exact (decodeItems_eq_decodePlain (by simpa using h)).symm

/-! ## Written items -/

/-- Whether a character is a control character beyond ASCII. -/
def isHighControl (c : Char) : Bool := 0x80 ≤ c.toNat && c.toNat < 0xA0

/-- What an item of `encode` denotes: the code of a control character as one byte, and the UTF-8 of
any other character. -/
def itemBytes (c : Char) : List UInt8 :=
  if isHighControl c then [c.toNat.toUInt8] else Utf8.encodeChar c

theorem encodeChar_ascii {c : Char} (h : c.toNat < 0x80) :
    Utf8.encodeChar c = [c.toNat.toUInt8] := by
  simp [Utf8.encodeChar, String.utf8EncodeChar, Nat.le_of_lt_succ h]

/-- What is written for a character is read as one item. -/
theorem readItem_encodeItem (c : Char) (rest : List Char) :
    readItem (encodeItem c ++ rest) = some (itemBytes c, rest) := by
  unfold encodeItem
  split
  · next h => subst h; rfl
  split
  · next h => subst h; rfl
  split
  · next h => subst h; rfl
  split
  · next h => subst h; rfl
  split
  · next h => subst h; rfl
  next hq hb hn _ _ =>
  split
  · next hc =>
    have hlt : c.toNat < 0x100 := by
      simp only [isControl, Bool.or_eq_true, Bool.and_eq_true, decide_eq_true_eq] at hc
      omega
    have hread : readEscape ('x' :: (hexDigits 2 c.toNat ++ rest)) =
        some ([c.toNat.toUInt8], rest) := by
      simp [readEscape, simpleEscape?, readDigits_hexDigits, Nat.mod_eq_of_lt hlt]
    refine hread.trans ?_
    unfold itemBytes
    split
    · rfl
    · next hh =>
      rw [encodeChar_ascii]
      simp only [isHighControl, isControl, Bool.or_eq_true, Bool.and_eq_true,
        decide_eq_true_eq] at hh hc
      omega
  · next hc =>
    have hh : isHighControl c = false := by
      simp only [isHighControl, isControl, Bool.or_eq_true, Bool.and_eq_true, decide_eq_true_eq,
        Bool.and_eq_false_iff, decide_eq_false_iff_not] at hc ⊢
      omega
    simpa [itemBytes, hh] using readItem_char hq hn hb rest

/-- Every written literal denotes something: the bytes of its items. -/
theorem decode?_encode (cs : List Char) : decode? (encode cs) = some (cs.flatMap itemBytes) := by
  rw [encode, decode?_quoted]
  exact decodeItems_flatMap fun c _ rest => readItem_encodeItem c rest

/-- A control character beyond ASCII has two bytes of UTF-8 but only one in a literal. -/
theorem length_itemBytes (c : Char) :
    (Utf8.encodeChar c).length = (itemBytes c).length + if isHighControl c then 1 else 0 := by
  unfold itemBytes
  split
  · next h =>
    simp only [isHighControl, Bool.and_eq_true, decide_eq_true_eq] at h
    have h1 : ¬ c.toNat ≤ 0x7F := by omega
    have h2 : c.toNat ≤ 0x7FF := by omega
    simp [Utf8.encodeChar, String.utf8EncodeChar, h1, h2]
  · rfl

/-- A text without control characters beyond ASCII is written for its own bytes. -/
theorem itemBytes_eq_encode {cs : List Char} (h : ∀ c ∈ cs, isHighControl c = false) :
    cs.flatMap itemBytes = Utf8.encode cs := by
  induction cs with
  | nil => rfl
  | cons c cs ih =>
    have hc : itemBytes c = Utf8.encodeChar c := by simp [itemBytes, h c List.mem_cons_self]
    rw [List.flatMap_cons, hc, ih fun d hd => h d (List.mem_cons_of_mem _ hd), Utf8.encode_cons]

/-- The bytes of a text in a literal are as many as those of its UTF-8, less one for each control
character beyond ASCII. -/
theorem length_flatMap_itemBytes (cs : List Char) :
    (Utf8.encode cs).length = (cs.flatMap itemBytes).length + cs.countP isHighControl := by
  induction cs with
  | nil => rfl
  | cons c cs ih =>
    rw [Utf8.encode_cons, List.flatMap_cons, List.length_append, List.length_append,
      List.countP_cons, ih, length_itemBytes]
    omega

/-- A literal written for a text always denotes something, and it denotes the text exactly if no
control character beyond ASCII is in it. -/
theorem decode?_encode_eq_text_iff (cs : List Char) :
    (decode? (encode cs)).isSome ∧
      (decode? (encode cs) = some (Utf8.encode cs) ↔ ∀ c ∈ cs, isHighControl c = false) := by
  rw [decode?_encode]
  refine ⟨rfl, ?_, fun h => by rw [itemBytes_eq_encode h]⟩
  intro h
  have hlen := length_flatMap_itemBytes cs
  rw [Option.some.injEq] at h
  rw [← h] at hlen
  have hcount : cs.countP isHighControl = 0 := by omega
  simpa using List.countP_eq_zero.1 hcount

/-- The literal of U+0085 denotes the byte 85, which is no text. -/
theorem decode?_encode_nextLine :
    decode? (encode ['\u0085']) = some [0x85] ∧
      decode? (encode ['\u0085']) ≠ some (Utf8.encode ['\u0085']) := by
  rw [decode?_encode]
  decide

end TagSpec.StringLiteral
