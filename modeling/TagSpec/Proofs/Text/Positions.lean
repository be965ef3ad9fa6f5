import TagSpec.Proofs.Text.Utf8

/-!
# Reading by positions

A text may be read by the positions of its bytes, and numbers in it by arithmetic of 32 bits. Then a
step can go wrong that a reading character by character does not have: the byte that is asked for is
not there, a cut goes through a character, a buffer is too small or a number too great. Here each such
step is checked, and one that goes wrong aborts the reading.
-/

namespace TagSpec.Checked

/-- What aborts a reading. -/
inductive Abort where
  /-- No byte is at the position. -/
  | position
  /-- The text does not end at the cut, and no character begins there. -/
  | cut
  /-- A character has more bytes than the buffer. -/
  | buffer
  /-- A number has more than 32 bits. -/
  | overflow
deriving DecidableEq, Repr

section

variable {α β : Type}

@[simp] theorem ok_bind (a : α) (f : α → Except Abort β) : (Except.ok a >>= f) = f a := rfl

@[simp] theorem pure_eq_ok (a : α) : (pure a : Except Abort α) = .ok a := rfl

end


/-! ## Bytes -/

/-- The byte at a position. -/
def byteAt (bytes : List UInt8) (i : Nat) : Except Abort UInt8 :=
  match bytes[i]? with
  | some b => .ok b
  | none => .error .position

@[simp] theorem byteAt_append (front : List UInt8) (b : UInt8) (back : List UInt8) :
    byteAt (front ++ b :: back) front.length = .ok b := by
  simp [byteAt]

@[simp] theorem byteAt_append_succ (front : List UInt8) (b c : UInt8) (back : List UInt8) :
    byteAt (front ++ b :: c :: back) (front.length + 1) = .ok c := by
  simp [byteAt]

/-- The bytes of a character, put into a buffer of four. -/
def buffered (c : Char) : Except Abort (List UInt8) :=
  if (Utf8.encodeChar c).length ≤ 4 then .ok (Utf8.encodeChar c) else .error .buffer

/-- Every character fits into the buffer. -/
@[simp] theorem buffered_eq (c : Char) : buffered c = .ok (Utf8.encodeChar c) := by
  have hsize : (Utf8.encodeChar c).length ≤ 4 := by
    rw [Utf8.encodeChar, String.length_utf8EncodeChar]
    exact c.utf8Size_le_four
  rw [buffered, if_pos hsize]


/-! ## Cuts -/

/-- Cuts a text at a byte position, if a character begins there or the text ends there. -/
def cutAt? : Nat → List Char → Option (List Char × List Char)
  | 0, cs => some ([], cs)
  | _ + 1, [] => none
  | i + 1, c :: cs =>
    if c.utf8Size ≤ i + 1 then
      (cutAt? (i + 1 - c.utf8Size) cs).map fun (front, back) => (c :: front, back)
    else none

/-- The text in front of a position. -/
def upTo (i : Nat) (cs : List Char) : Except Abort (List Char) :=
  match cutAt? i cs with
  | some (front, _) => .ok front
  | none => .error .cut

/-- The text from a position on. -/
def behind (i : Nat) (cs : List Char) : Except Abort (List Char) :=
  match cutAt? i cs with
  | some (_, back) => .ok back
  | none => .error .cut

/-- A text can be cut exactly where it falls into two texts, of which the first has as many bytes as
the position says. -/
theorem cutAt?_eq_some_iff {i : Nat} {cs front back : List Char} :
    cutAt? i cs = some (front, back) ↔ cs = front ++ back ∧ (Utf8.encode front).length = i := by
  constructor
  · intro h
    fun_induction cutAt? i cs generalizing front back with
    | case1 cs =>
      cases h
      exact ⟨rfl, rfl⟩
    | case2 => cases h
    | case3 i c cs hsize ih =>
      obtain ⟨⟨f, b⟩, hcut, he⟩ := Option.map_eq_some_iff.1 h
      cases he
      obtain ⟨rfl, hlen⟩ := ih hcut
      refine ⟨rfl, ?_⟩
      rw [Utf8.encode_cons, List.length_append, hlen, Utf8.encodeChar, String.length_utf8EncodeChar]
      omega
    | case4 => cases h
  · rintro ⟨rfl, rfl⟩
    induction front with
    | nil => simp [cutAt?]
    | cons c front ih =>
      have hpos := c.utf8Size_pos
      have hlen : (Utf8.encode (c :: front)).length =
          (c.utf8Size - 1 + (Utf8.encode front).length) + 1 := by
        rw [Utf8.encode_cons, List.length_append, Utf8.encodeChar, String.length_utf8EncodeChar]
        omega
      have hrest : c.utf8Size - 1 + (Utf8.encode front).length + 1 - c.utf8Size =
          (Utf8.encode front).length := by omega
      rw [List.cons_append, hlen, cutAt?, if_pos (by omega), hrest, ih]
      rfl

@[simp] theorem upTo_append (front back : List Char) :
    upTo (Utf8.encode front).length (front ++ back) = .ok front := by
  rw [upTo, cutAt?_eq_some_iff.2 ⟨rfl, rfl⟩]

/-- No cut goes through a character. -/
example : upTo 1 ['é', 'x'] = .error .cut ∧ upTo 2 ['é', 'x'] = .ok ['é'] := ⟨rfl, rfl⟩

@[simp] theorem behind_append (front back : List Char) :
    behind (Utf8.encode front).length (front ++ back) = .ok back := by
  rw [behind, cutAt?_eq_some_iff.2 ⟨rfl, rfl⟩]


/-! ## Numbers -/

def times (m n : UInt32) : Except Abort UInt32 :=
  if m.toNat * n.toNat < UInt32.size then .ok (m * n) else .error .overflow

def plus (m n : UInt32) : Except Abort UInt32 :=
  if m.toNat + n.toNat < UInt32.size then .ok (m + n) else .error .overflow

/-- A product that fits into a word is the product of the numbers. -/
theorem exists_times {m n : UInt32} (h : m.toNat * n.toNat < UInt32.size) :
    ∃ k, times m n = .ok k ∧ k.toNat = m.toNat * n.toNat :=
  ⟨m * n, if_pos h, (UInt32.toNat_mul m n).trans (Nat.mod_eq_of_lt h)⟩

/-- A sum that fits into a word is the sum of the numbers. -/
theorem exists_plus {m n : UInt32} (h : m.toNat + n.toNat < UInt32.size) :
    ∃ k, plus m n = .ok k ∧ k.toNat = m.toNat + n.toNat :=
  ⟨m + n, if_pos h, (UInt32.toNat_add m n).trans (Nat.mod_eq_of_lt h)⟩

end TagSpec.Checked
