import TagSpec.Text.Digits
import TagSpec.Text.Utf8

/-!
# String literals

Interpreted string literals: a text between double quotes in which a backslash begins an escape.
`decode?` gives the bytes that a literal denotes; `encode` writes a literal for a text.
-/

namespace TagSpec.StringLiteral

-- ---------------------------------------------------------------------------
-- Decoding
-- ---------------------------------------------------------------------------

/-- The bytes of the character with the given code, if there is one. -/
def charBytes? (code : Nat) : Option (List UInt8) :=
  if code.isValidChar then some (Utf8.encodeChar (Char.ofNat code)) else none

/-- The byte of an escape that is one letter after the backslash. -/
def simpleEscape? : Char → Option UInt8
  | 'a' => some 0x07
  | 'b' => some 0x08
  | 'f' => some 0x0C
  | 'n' => some 0x0A
  | 'r' => some 0x0D
  | 't' => some 0x09
  | 'v' => some 0x0B
  | '\\' => some 0x5C
  | '"' => some 0x22
  | _ => none

/-- Reads what follows a backslash: the bytes that the escape denotes, and the rest of the text. -/
def readEscape : List Char → Option (List UInt8 × List Char)
  | [] => none
  | e :: cs =>
    match simpleEscape? e with
    | some b => some ([b], cs)
    | none =>
      if e = 'x' then (readDigits 16 2 0 cs).map fun (n, rest) => ([n.toUInt8], rest)
      else if e = 'u' then
        (readDigits 16 4 0 cs).bind fun (n, rest) => (charBytes? n).map (·, rest)
      else if e = 'U' then
        (readDigits 16 8 0 cs).bind fun (n, rest) => (charBytes? n).map (·, rest)
      else if (digit? 8 e).isSome then
        (readDigits 8 3 0 (e :: cs)).bind fun (n, rest) =>
          if n ≤ 0xFF then some ([n.toUInt8], rest) else none
      else none

/-- An escape has at least one character. -/
theorem length_readEscape_lt {cs rest : List Char} {bs : List UInt8}
    (h : readEscape cs = some (bs, rest)) : rest.length < cs.length := by
  cases cs with
  | nil => cases h
  | cons e cs =>
    simp only [readEscape] at h
    split at h
    · cases h
      exact Nat.lt_succ_self _
    · split at h
      · obtain ⟨⟨n, r⟩, hr, he⟩ := Option.map_eq_some_iff.1 h
        cases he
        have := readDigits_length hr
        simp only [List.length_cons]
        omega
      · split at h
        · obtain ⟨⟨n, r⟩, hr, he⟩ := Option.bind_eq_some_iff.1 h
          obtain ⟨bytes, -, hb⟩ := Option.map_eq_some_iff.1 he
          cases hb
          have := readDigits_length hr
          simp only [List.length_cons]
          omega
        · split at h
          · obtain ⟨⟨n, r⟩, hr, he⟩ := Option.bind_eq_some_iff.1 h
            obtain ⟨bytes, -, hb⟩ := Option.map_eq_some_iff.1 he
            cases hb
            have := readDigits_length hr
            simp only [List.length_cons]
            omega
          · split at h
            · obtain ⟨⟨n, r⟩, hr, he⟩ := Option.bind_eq_some_iff.1 h
              have := readDigits_length hr
              simp only at he
              split at he
              · cases he
                simp only [List.length_cons] at this ⊢
                omega
              · cases he
            · cases h

/-- One item of a literal: a character or an escape. A bare quote or line feed is none. -/
def readItem : List Char → Option (List UInt8 × List Char)
  | [] => none
  | c :: cs =>
    if c = '"' ∨ c = '\n' then none
    else if c = '\\' then readEscape cs
    else some (Utf8.encodeChar c, cs)

theorem length_readItem_lt {cs rest : List Char} {bs : List UInt8}
    (h : readItem cs = some (bs, rest)) : rest.length < cs.length := by
  cases cs with
  | nil => cases h
  | cons c cs =>
    simp only [readItem] at h
    split at h
    · cases h
    · split at h
      · exact Nat.lt_succ_of_lt (length_readEscape_lt h)
      · cases h
        exact Nat.lt_succ_self _

/-- The bytes of a text that is all items. -/
def decodeItems (cs : List Char) : Option (List UInt8) :=
  if cs.isEmpty then some []
  else
    match _h : readItem cs with
    | none => none
    | some (bs, rest) => (decodeItems rest).map (bs ++ ·)
termination_by cs.length
decreasing_by exact length_readItem_lt _h

/-- The text between a quote at the start and another at the end. -/
def body? : List Char → Option (List Char)
  | '"' :: cs => if cs.getLast? = some '"' then some cs.dropLast else none
  | _ => none

/-- The bytes of a text without escapes. -/
def decodePlain (cs : List Char) : Option (List UInt8) :=
  if cs.contains '"' || cs.contains '\n' then none else some (Utf8.encode cs)

/-- The bytes that a literal denotes. A text without a backslash needs no reading item by item. -/
def decode? (literal : List Char) : Option (List UInt8) :=
  (body? literal).bind fun cs =>
    if cs.contains '\\' then decodeItems cs else decodePlain cs


-- ---------------------------------------------------------------------------
-- Encoding
-- ---------------------------------------------------------------------------

def isControl (c : Char) : Bool := c.toNat < 0x20 || (0x7F ≤ c.toNat && c.toNat < 0xA0)

/-- How a character is written in a literal. -/
def encodeItem (c : Char) : List Char :=
  if c = '"' then ['\\', '"']
  else if c = '\\' then ['\\', '\\']
  else if c = '\n' then ['\\', 'n']
  else if c = '\r' then ['\\', 'r']
  else if c = '\t' then ['\\', 't']
  else if isControl c then '\\' :: 'x' :: hexDigits 2 c.toNat
  else [c]

/-- The literal of a text, quotes included. -/
def encode (cs : List Char) : List Char := '"' :: (cs.flatMap encodeItem ++ ['"'])

end TagSpec.StringLiteral
