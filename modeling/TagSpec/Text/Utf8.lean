/-!
# UTF-8

Characters as bytes and bytes as characters. `decode?` refuses bytes that are not UTF-8;
`decodeLossy` puts the replacement character in place of each longest part that could have begun a
character but does not, so the text that surrounds a damaged part always survives.
-/

namespace TagSpec.Utf8

-- ---------------------------------------------------------------------------
-- Encoding
-- ---------------------------------------------------------------------------

def encodeChar (c : Char) : List UInt8 := String.utf8EncodeChar c

def encode (cs : List Char) : List UInt8 := cs.flatMap encodeChar

@[simp] theorem encode_nil : encode [] = [] := rfl

@[simp] theorem encode_cons (c : Char) (cs : List Char) :
    encode (c :: cs) = encodeChar c ++ encode cs := rfl

@[simp] theorem encode_append (cs ds : List Char) : encode (cs ++ ds) = encode cs ++ encode ds :=
  List.flatMap_append

def byteLength (cs : List Char) : Nat := (cs.map Char.utf8Size).foldl (· + ·) 0


-- ---------------------------------------------------------------------------
-- Decoding
-- ---------------------------------------------------------------------------

/-- Stands in place of bytes that form no character. -/
def replacement : Char := '\uFFFD'

/-- The bytes that may stand at one place of a character: all from `lo` to `hi`. -/
structure Span where
  lo : UInt8
  hi : UInt8
deriving DecidableEq, Repr

def Span.contains (s : Span) (b : UInt8) : Bool := s.lo ≤ b && b ≤ s.hi

def tailSpan : Span := ⟨0x80, 0xBF⟩

/-- What the first byte of a character says: its own bits, and what each byte after it may be. The
second byte is bounded more tightly where a shorter form exists or the code is no character. -/
def announced (b : UInt8) : Option (Nat × List Span) :=
  if b < 0x80 then some (b.toNat, [])
  else if b < 0xC2 then none
  else if b < 0xE0 then some (b.toNat - 0xC0, [tailSpan])
  else if b < 0xF0 then
    let second : Span :=
      if b = 0xE0 then ⟨0xA0, 0xBF⟩ else if b = 0xED then ⟨0x80, 0x9F⟩ else tailSpan
    some (b.toNat - 0xE0, [second, tailSpan])
  else if b < 0xF5 then
    let second : Span :=
      if b = 0xF0 then ⟨0x90, 0xBF⟩ else if b = 0xF4 then ⟨0x80, 0x8F⟩ else tailSpan
    some (b.toNat - 0xF0, [second, tailSpan, tailSpan])
  else none

/-- Reads the bytes announced after the first one; the character is absent where one is missing or
out of its span, and reading stops in front of that one. -/
def follow (value : Nat) : List Span → List UInt8 → Option Char × List UInt8
  | [], r => (some (Char.ofNat value), r)
  | _ :: _, [] => (none, [])
  | s :: ss, c :: r =>
    if s.contains c then follow (value * 64 + (c.toNat - 0x80)) ss r else (none, c :: r)

theorem length_follow_le (value : Nat) (ss : List Span) (r : List UInt8) :
    (follow value ss r).2.length ≤ r.length := by
  induction ss generalizing value r with
  | nil => simp [follow]
  | cons s ss ih =>
    cases r with
    | nil => simp [follow]
    | cons c r =>
      unfold follow
      split
      · exact Nat.le_succ_of_le (ih _ r)
      · exact Nat.le_refl _

/-- The first character of a byte sequence and what follows it; the character is absent where the
bytes begin with a part that is not UTF-8, and that part is then skipped whole. -/
def next : List UInt8 → Option (Option Char × List UInt8)
  | [] => none
  | b :: r =>
    match announced b with
    | none => some (none, r)
    | some (value, spans) => some (follow value spans r)

/-- Every step uses up at least one byte. -/
theorem length_next_lt {bs rest : List UInt8} {c : Option Char} (h : next bs = some (c, rest)) :
    rest.length < bs.length := by
  cases bs with
  | nil => simp [next] at h
  | cons b r =>
    simp only [next] at h
    split at h
    · cases h
      exact Nat.lt_succ_self _
    · next value spans _ =>
      have hle := length_follow_le value spans r
      rw [Option.some.inj h] at hle
      exact Nat.lt_succ_of_le hle

/-- The text of a byte sequence, with `replacement` for each part that is not UTF-8. -/
def decodeLossy (bs : List UInt8) : List Char :=
  match _h : next bs with
  | none => []
  | some (c, rest) => c.getD replacement :: decodeLossy rest
termination_by bs.length
decreasing_by exact length_next_lt _h

/-- The text of a byte sequence, if all of it is UTF-8. -/
def decode? (bs : List UInt8) : Option (List Char) :=
  match _h : next bs with
  | none => some []
  | some (none, _) => none
  | some (some c, rest) => (decode? rest).map (c :: ·)
termination_by bs.length
decreasing_by exact length_next_lt _h

def isValid (bs : List UInt8) : Bool := (decode? bs).isSome

end TagSpec.Utf8
