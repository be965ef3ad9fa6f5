import TagSpec.Proofs.Tags.Grammar
import TagSpec.Proofs.Text.Lossy
import TagSpec.Proofs.Text.Positions

/-!
# Where a value is closed

The end of a value is looked for among its bytes, and a backslash takes away the meaning of the one
byte behind it, while the decoder goes by characters and takes up to nine of them for an escape. Main
statement: `closingQuote_exact`, by which of the texts at the start of a text at most one is a literal
that denotes something, and its last byte is the one that is found.
-/

namespace TagSpec.Checked

open Tags
open StringLiteral (decode?)

/-- The position of the first quote, from a position on, that is not passed over. A backslash is passed
over together with the byte behind it, even if a character goes on behind that byte. If there is no
such quote, the position is not one in front of the end. -/
def closingQuote (bytes : List UInt8) (i : Nat) : Except Abort Nat :=
  if i < bytes.length then do
    let b ← byteAt bytes i
    if b = 0x22 then return i
    else if b = 0x5C then closingQuote bytes (i + 2)
    else closingQuote bytes (i + 1)
  else return i
termination_by bytes.length - i

/-! ## Passing over bytes -/

theorem closingQuote_end {bytes : List UInt8} {i : Nat} (h : bytes.length ≤ i) :
    closingQuote bytes i = .ok i := by
  rw [closingQuote, if_neg (Nat.not_lt.2 h)]
  rfl

/-- What is done at a position is told by the byte there. -/
theorem closingQuote_append (front : List UInt8) (b : UInt8) (back : List UInt8) :
    closingQuote (front ++ b :: back) front.length =
      if b = 0x22 then .ok front.length
      else if b = 0x5C then closingQuote (front ++ b :: back) (front.length + 2)
      else closingQuote (front ++ b :: back) (front.length + 1) := by
  have hlt : front.length < (front ++ b :: back).length := by simp
  rw [closingQuote, if_pos hlt, byteAt_append]
  rfl

/-- Bytes are passed over: the quote that is found from where they begin on is the one that is found
from where they end on, whatever stands around them. -/
def IsPassed (bytes : List UInt8) : Prop :=
  ∀ front back, closingQuote (front ++ (bytes ++ back)) front.length =
    closingQuote (front ++ (bytes ++ back)) (front ++ bytes).length

namespace IsPassed

theorem nil : IsPassed [] := by
  intro front back
  rw [List.append_nil]

/-- Bytes that are passed over one after the other are passed over together. -/
theorem append {bs cs : List UInt8} (hbs : IsPassed bs) (hcs : IsPassed cs) :
    IsPassed (bs ++ cs) := by
  intro front back
  have hfirst := hbs front (cs ++ back)
  have hsecond := hcs (front ++ bs) back
  simp only [List.append_assoc] at hfirst hsecond ⊢
  exact hfirst.trans hsecond

theorem byte {b : UInt8} (hq : b ≠ 0x22) (hb : b ≠ 0x5C) : IsPassed [b] := by
  intro front back
  rw [List.singleton_append, closingQuote_append, if_neg hq, if_neg hb, List.length_append]
  rfl

/-- A backslash is passed over with any byte behind it. -/
theorem backslash (b : UInt8) : IsPassed [0x5C, b] := by
  intro front back
  rw [List.cons_append, closingQuote_append, if_neg (by decide), if_pos rfl, List.length_append]
  rfl

theorem bytes {bs : List UInt8} (h : ∀ b ∈ bs, b ≠ 0x22 ∧ b ≠ 0x5C) : IsPassed bs := by
  induction bs with
  | nil => exact nil
  | cons b bs ih =>
    obtain ⟨⟨hq, hb⟩, hbs⟩ := List.forall_mem_cons.1 h
    exact (byte hq hb).append (ih hbs)

/-- A character beyond ASCII has bytes beyond ASCII only. -/
theorem char {c : Char} (hq : c ≠ '"') (hb : c ≠ '\\') : IsPassed (Utf8.encodeChar c) := by
  refine bytes fun b hmem => ⟨?_, ?_⟩
  · rintro rfl
    exact hq (Utf8.eq_singleton_of_ascii (by decide) hmem).2
  · rintro rfl
    exact hb (Utf8.eq_singleton_of_ascii (by decide) hmem).2

/-- Of the character behind a backslash the first byte is passed over with the backslash, and the others
are passed over since they are beyond ASCII. -/
theorem escape (c : Char) : IsPassed (0x5C :: Utf8.encodeChar c) := by
  by_cases hc : c.toNat < 0x80
  · rw [StringLiteral.encodeChar_ascii hc]
    exact backslash _
  · have hhigh : ∀ d ∈ Utf8.encodeChar c, d ≠ 0x22 ∧ d ≠ 0x5C := by
      intro d hd
      have hd := Utf8.high_of_mem_encodeChar (Nat.le_of_not_lt hc) hd
      constructor <;> (rintro rfl; exact absurd hd (by decide))
    obtain ⟨b, bs, hbs⟩ := List.exists_cons_of_ne_nil (String.utf8EncodeChar_ne_nil (c := c))
    rw [Utf8.encodeChar, hbs] at hhigh ⊢
    exact (backslash b).append (bytes fun d hd => hhigh d (List.mem_cons_of_mem b hd))

/-- Positions and characters agree again behind what is enclosed. -/
theorem enclosed {body : List Char} (h : Enclosed body) : IsPassed (Utf8.encode body) := by
  induction h with
  | nil => exact nil
  | char hq hb _ ih => exact (char hq hb).append ih
  | @escape c _ _ ih => exact (escape c).append ih

end IsPassed

/-! ## The closing quote -/

/-- A quote is found where what is enclosed ends. -/
theorem closingQuote_of_enclosed {body : List Char} (h : Enclosed body) (front back : List UInt8) :
    closingQuote (front ++ (Utf8.encode body ++ 0x22 :: back)) front.length =
      .ok (front ++ Utf8.encode body).length := by
  rw [IsPassed.enclosed h front, ← List.append_assoc, closingQuote_append, if_pos rfl]

/-- Where no quote closes the text, none is found in front of its end. -/
theorem closingQuote_of_unclosed {cs : List Char} (h : cutQuote cs = none) (front : List UInt8) :
    ∃ i, closingQuote (front ++ Utf8.encode cs) front.length = .ok i ∧
      (front ++ Utf8.encode cs).length ≤ i := by
  obtain ⟨body, hbody, rfl | rfl⟩ := enclosed_of_cutQuote_eq_none h
  · have hpassed := IsPassed.enclosed hbody front []
    rw [List.append_nil] at hpassed
    exact ⟨_, hpassed.trans (closingQuote_end (Nat.le_refl _)), Nat.le_refl _⟩
  · have hend : Utf8.encode ['\\'] = [0x5C] := by decide
    have hpassed := IsPassed.enclosed hbody front [0x5C]
    have hbehind : (front ++ (Utf8.encode body ++ [0x5C])).length ≤
        (front ++ Utf8.encode body).length + 2 := by
      simp only [List.length_append, List.length_singleton]
      omega
    rw [Utf8.encode_append, hend]
    refine ⟨_, ?_, hbehind⟩
    rw [hpassed, ← List.append_assoc, closingQuote_append, if_neg (by decide), if_pos rfl]
    exact closingQuote_end (by rwa [List.append_assoc])

/-- The quote that closes a literal is its last byte. -/
theorem closingQuote_literal {inner : List Char} (h : Enclosed inner) (rest : List Char) :
    ∃ last, closingQuote (Utf8.encode ('"' :: (inner ++ '"' :: rest))) 1 = .ok last ∧
      (Utf8.encode ('"' :: (inner ++ ['"']))).length = last + 1 := by
  have hquote : Utf8.encodeChar '"' = [0x22] := by decide
  have hfound := closingQuote_of_enclosed h [0x22] (Utf8.encode rest)
  refine ⟨([0x22] ++ Utf8.encode inner).length, ?_, ?_⟩
  · rw [Utf8.encode_cons, Utf8.encode_append, Utf8.encode_cons, hquote]
    exact hfound
  · simp [hquote]

/-! ## Literals at the start of a text -/

/-- A literal that denotes something is the one that is cut off. -/
theorem cutQuote_of_decode? {body p rest : List Char} (h : (decode? p).isSome)
    (hp : p ++ rest = '"' :: body) :
    ∃ inner, Enclosed inner ∧ p = '"' :: (inner ++ ['"']) ∧ body = inner ++ '"' :: rest ∧
      cutQuote body = some (inner ++ ['"'], rest) := by
  obtain ⟨bs, hbs⟩ := Option.isSome_iff_exists.1 h
  obtain ⟨inner, hinner, rfl⟩ := exists_enclosed_of_decode? hbs
  have hbody : body = inner ++ '"' :: rest := by simpa using hp.symm
  exact ⟨inner, hinner, rfl, hbody, by rw [hbody, cutQuote_of_enclosed hinner]⟩

/-- Behind a key and a colon exactly the literal is read that stands there. -/
theorem readPair_eq_ok_iff {key value rest : List Char} {pair : Pair} (hkey : IsKey key) :
    readPair (key ++ ':' :: value) = .ok (pair, rest) ↔
      pair.key = key ∧ decode? pair.quoted = some pair.bytes ∧ value = pair.quoted ++ rest := by
  have hcolon : ∀ ds c cs, ':' :: ds = c :: cs → isKeyChar c = false := by
    rintro ds c cs he
    cases he
    rfl
  constructor
  · intro h
    obtain ⟨hpair, htext⟩ := valid_of_readPair h
    rw [Pair.text, List.append_assoc, List.cons_append] at htext
    have hsame : key = pair.key := by
      rw [← (key_of_append hkey _ (hcolon _)).1, htext, (key_of_append hpair.key _ (hcolon _)).1]
    subst hsame
    exact ⟨rfl, hpair.value, (List.cons.inj (List.append_cancel_left htext)).2⟩
  · rintro ⟨rfl, hvalue, rfl⟩
    have hread := readPair_text ⟨hkey, hvalue⟩ rest
    rwa [Pair.text, List.append_assoc, List.cons_append] at hread

/-- Of the texts at the start of a text that begins with a quote at most one is a literal that denotes
something. If there is one, the quote that is found among the bytes is its last byte, and behind a key
and a colon it is read as the value, neither less of the text nor more. -/
theorem closingQuote_exact (body : List Char) :
    (∀ p q, p <+: '"' :: body → q <+: '"' :: body → (decode? p).isSome → (decode? q).isSome →
      p = q) ∧
    (∀ p, p <+: '"' :: body → (decode? p).isSome → ∃ last,
      closingQuote (Utf8.encode ('"' :: body)) 1 = .ok last ∧ (Utf8.encode p).length = last + 1) ∧
    ∀ key, IsKey key → ∀ pair rest, readPair (key ++ ':' :: '"' :: body) = .ok (pair, rest) ↔
      pair.key = key ∧ decode? pair.quoted = some pair.bytes ∧
        '"' :: body = pair.quoted ++ rest := by
  refine ⟨?_, ?_, fun key hkey pair rest => readPair_eq_ok_iff hkey⟩
  · rintro p q ⟨behindP, hp⟩ ⟨behindQ, hq⟩ hdecodeP hdecodeQ
    obtain ⟨inner, -, rfl, -, hcut⟩ := cutQuote_of_decode? hdecodeP hp
    obtain ⟨inner', -, rfl, -, hcut'⟩ := cutQuote_of_decode? hdecodeQ hq
    have hsame := hcut.symm.trans hcut'
    rw [Option.some.injEq, Prod.mk.injEq] at hsame
    rw [hsame.1]
  · rintro p ⟨rest, hp⟩ hdecode
    obtain ⟨inner, hinner, rfl, rfl, -⟩ := cutQuote_of_decode? hdecode hp
    exact closingQuote_literal hinner rest

/-- A quote behind a backslash, a character of two bytes, and the literal of another pair. -/
theorem closingQuote_exact_escaped :
    "\"a\\\"é\"".toList <+: "\"a\\\"é\" b:\"\"".toList ∧
      decode? "\"a\\\"é\"".toList = some [0x61, 0x22, 0xC3, 0xA9] ∧
      closingQuote (Utf8.encode "\"a\\\"é\" b:\"\"".toList) 1 = .ok 6 ∧
      readPair "k:\"a\\\"é\" b:\"\"".toList =
        .ok (⟨['k'], "\"a\\\"é\"".toList, [0x61, 0x22, 0xC3, 0xA9]⟩, " b:\"\"".toList) := by
  have hbegins : "\"a\\\"é\"".toList <+: "\"a\\\"é\" b:\"\"".toList := ⟨" b:\"\"".toList, rfl⟩
  have hdecode : decode? "\"a\\\"é\"".toList = some [0x61, 0x22, 0xC3, 0xA9] := by cbv
  have hkey : IsKey ['k'] := isKey_singleton.2 rfl
  obtain ⟨-, hclosing, hread⟩ := closingQuote_exact "a\\\"é\" b:\"\"".toList
  obtain ⟨last, hlast, hlen⟩ := hclosing _ hbegins (by rw [hdecode]; rfl)
  obtain rfl : 6 = last := Nat.succ.inj hlen
  exact ⟨hbegins, hdecode, hlast, (hread ['k'] hkey _ _).2 ⟨rfl, hdecode, rfl⟩⟩

end TagSpec.Checked
