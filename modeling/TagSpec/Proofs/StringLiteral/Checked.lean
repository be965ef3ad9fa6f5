import TagSpec.Proofs.StringLiteral.Grammar
import TagSpec.Proofs.Text.Positions

/-!
# String literals with numbers of 32 bits

The number of an escape is put together digit by digit in 32 bits. No escape has so many digits that
they overflow, so a literal is never given up while it is decoded: `decode_eq`.
-/

namespace TagSpec.Checked

open StringLiteral (simpleEscape? charBytes? body? decodePlain)

/-! ## Numbers -/

/-- Reads exactly `count` digits after a numeral of value `acc`. The numeral is multiplied before it is
seen whether a digit follows. -/
def readNumber (base : UInt32) : Nat → UInt32 → List Char → Except Abort (Option (UInt32 × List Char))
  | 0, acc, cs => return some (acc, cs)
  | count + 1, acc, cs => do
    let product ← times acc base
    match cs with
    | [] => return none
    | c :: cs =>
      match digit? base.toNat c with
      | none => return none
      | some d => readNumber base count (← plus product d.toUInt32) cs

/-- Digits that 32 bits have room for are read as they are without a bound. -/
theorem exists_readNumber {base : UInt32} (hbase : 0 < base.toNat) {count : Nat} {acc : UInt32}
    (cs : List Char) (h : (acc.toNat + 1) * base.toNat ^ count ≤ UInt32.size) :
    ∃ r, readNumber base count acc cs = .ok r ∧
      r.map (fun (n, rest) => (n.toNat, rest)) = readDigits base.toNat count acc.toNat cs := by
  induction count generalizing acc cs with
  | zero => exact ⟨some (acc, cs), rfl, rfl⟩
  | succ count ih =>
    have hroom : (acc.toNat + 1) * base.toNat ≤ UInt32.size :=
      Nat.le_trans (Nat.mul_le_mul_left _ (Nat.le_self_pow (Nat.succ_ne_zero count) _)) h
    have hsucc : (acc.toNat + 1) * base.toNat = acc.toNat * base.toNat + base.toNat :=
      Nat.succ_mul _ _
    obtain ⟨product, htimes, hproduct⟩ := exists_times (m := acc) (n := base) (by omega)
    cases cs with
    | nil => exact ⟨none, by simp [readNumber, htimes], rfl⟩
    | cons c cs =>
      cases hdigit : digit? base.toNat c with
      | none => exact ⟨none, by simp [readNumber, htimes, hdigit], by simp [readDigits, hdigit]⟩
      | some d =>
        have hd := lt_of_digit? hdigit
        have hword : d.toUInt32.toNat = d := UInt32.toNat_ofNat_of_lt' (by omega)
        obtain ⟨sum, hplus, hsum⟩ := exists_plus (m := product) (n := d.toUInt32) (by omega)
        have hvalue : sum.toNat = acc.toNat * base.toNat + d := by omega
        have hnext : (sum.toNat + 1) * base.toNat ^ count ≤ UInt32.size := by
          refine Nat.le_trans (Nat.mul_le_mul_right _ (?_ : _ ≤ (acc.toNat + 1) * base.toNat)) ?_
          · omega
          · rwa [Nat.mul_assoc, ← Nat.pow_succ']
        obtain ⟨r, hread, hr⟩ := ih cs hnext
        refine ⟨r, by simp [readNumber, htimes, hdigit, hplus, hread], ?_⟩
        simp only [readDigits, hdigit]
        rw [hr, hvalue]

/-- A ninth digit would be one too many. -/
example : readNumber 16 9 0 "100000000".toList = .error .overflow := rfl

/-- A hexadecimal numeral of at most eight digits is read without overflow. -/
theorem exists_readNumber_hex {count : Nat} (h : count ≤ 8) (cs : List Char) :
    ∃ r, readNumber 16 count 0 cs = .ok r ∧
      r.map (fun (n, rest) => (n.toNat, rest)) = readDigits 16 count 0 cs := by
  have hroom : ((0 : UInt32).toNat + 1) * (16 : UInt32).toNat ^ count ≤ UInt32.size := by
    simpa using Nat.pow_le_pow_right (show 0 < 16 by decide) h
  exact exists_readNumber (by decide) cs hroom

/-- An octal numeral of three digits is read without overflow. -/
theorem exists_readNumber_octal {d : Nat} (h : d < 8) (cs : List Char) :
    ∃ r, readNumber 8 2 d.toUInt32 cs = .ok r ∧
      r.map (fun (n, rest) => (n.toNat, rest)) = readDigits 8 2 d cs := by
  have hword : d.toUInt32.toNat = d := UInt32.toNat_ofNat_of_lt' (Nat.lt_trans h (by decide))
  have hroom : (d.toUInt32.toNat + 1) * (8 : UInt32).toNat ^ 2 ≤ UInt32.size := by
    rw [hword]
    exact Nat.le_trans (Nat.mul_le_mul_right _ (Nat.succ_le_of_lt h)) (by decide)
  obtain ⟨r, hread, hr⟩ := exists_readNumber (by decide) cs hroom
  rw [hword] at hr
  exact ⟨r, hread, hr⟩


/-! ## Escapes -/

def readCode (count : Nat) (cs : List Char) : Except Abort (Option (List UInt8 × List Char)) := do
  match ← readNumber 16 count 0 cs with
  | none => return none
  | some (n, rest) =>
    if n.toNat.isValidChar then return some (← buffered (Char.ofNat n.toNat), rest) else return none

def readEscape : List Char → Except Abort (Option (List UInt8 × List Char))
  | [] => return none
  | e :: cs =>
    match simpleEscape? e with
    | some b => return some ([b], cs)
    | none =>
      if e = 'x' then do
        return (← readNumber 16 2 0 cs).map fun (n, rest) => ([n.toUInt8], rest)
      else if e = 'u' then readCode 4 cs
      else if e = 'U' then readCode 8 cs
      else
        match digit? 8 e with
        | none => return none
        | some d => do
          return (← readNumber 8 2 d.toUInt32 cs).bind fun (n, rest) =>
            if n ≤ 0xFF then some ([n.toUInt8], rest) else none

theorem readCode_eq {count : Nat} (h : count ≤ 8) (cs : List Char) :
    readCode count cs = .ok ((readDigits 16 count 0 cs).bind fun (n, rest) =>
      (charBytes? n).map (·, rest)) := by
  obtain ⟨r, hread, hr⟩ := exists_readNumber_hex h cs
  rw [readCode, hread, ← hr]
  cases r with
  | none => rfl
  | some r =>
    simp only [ok_bind, Option.map_some, Option.bind_some, charBytes?, buffered_eq, pure_eq_ok]
    split <;> rfl

/-- An escape is read as it is without a bound. -/
theorem readEscape_eq (cs : List Char) : readEscape cs = .ok (StringLiteral.readEscape cs) := by
  cases cs with
  | nil => rfl
  | cons e cs =>
    simp only [readEscape, StringLiteral.readEscape]
    cases simpleEscape? e with
    | some b => rfl
    | none =>
      dsimp only
      split
      · obtain ⟨r, hread, hr⟩ := exists_readNumber_hex (show 2 ≤ 8 by decide) cs
        rw [hread, ← hr, Option.map_map]
        rfl
      split
      · exact readCode_eq (by decide) cs
      split
      · exact readCode_eq (by decide) cs
      cases hdigit : digit? 8 e with
      | none => rfl
      | some d =>
        obtain ⟨r, hread, hr⟩ := exists_readNumber_octal (lt_of_digit? hdigit) cs
        have hdigits : readDigits 8 3 0 (e :: cs) = readDigits 8 2 d cs := by
          simp [readDigits, hdigit]
        rw [hdigits, ← hr]
        simp only [hread, ok_bind, pure_eq_ok, Option.isSome_some, if_true]
        cases r <;> rfl


/-! ## Literals -/

/-- One item of a literal: a character or an escape. -/
def readItem : List Char → Except Abort (Option (List UInt8 × List Char))
  | [] => return none
  | c :: cs =>
    if c = '"' ∨ c = '\n' then return none
    else if c = '\\' then readEscape cs
    else do return some (← buffered c, cs)

/-- An item is read without an abort, and as it is without checks. -/
theorem readItem_eq (cs : List Char) : readItem cs = .ok (StringLiteral.readItem cs) := by
  cases cs with
  | nil => rfl
  | cons c cs =>
    simp only [readItem, StringLiteral.readItem, readEscape_eq, buffered_eq, ok_bind, pure_eq_ok]
    split
    · rfl
    split <;> rfl

def decodeItems (cs : List Char) : Except Abort (Option (List UInt8)) :=
  if cs.isEmpty then return some []
  else
    match _h : readItem cs with
    | .error abort => .error abort
    | .ok none => return none
    | .ok (some (bs, rest)) => do return (← decodeItems rest).map (bs ++ ·)
termination_by cs.length
decreasing_by
  rw [readItem_eq, Except.ok.injEq] at _h
  exact StringLiteral.length_readItem_lt _h

/-- The bytes that a literal denotes. -/
def decode (literal : List Char) : Except Abort (Option (List UInt8)) :=
  match body? literal with
  | none => return none
  | some cs => if cs.contains '\\' then decodeItems cs else return decodePlain cs

/-- What is decoded is told by the first item. -/
theorem decodeItems_of_item {cs : List Char} (h : ¬ cs.isEmpty = true) :
    decodeItems cs =
      match readItem cs with
      | .error abort => .error abort
      | .ok none => .ok none
      | .ok (some (bs, rest)) => do return (← decodeItems rest).map (bs ++ ·) := by
  rw [decodeItems, if_neg h]
  split <;> simp_all

/-- Items are read without an abort, and as they are without checks. -/
theorem decodeItems_eq (cs : List Char) : decodeItems cs = .ok (StringLiteral.decodeItems cs) := by
  fun_induction StringLiteral.decodeItems cs with
  | case1 cs hempty =>
    rw [decodeItems, if_pos hempty]
    rfl
  | case2 cs hempty hread => rw [decodeItems_of_item hempty, readItem_eq, hread]
  | case3 cs hempty bs rest hread ih =>
    rw [decodeItems_of_item hempty, readItem_eq, hread]
    simp only [ih, ok_bind, pure_eq_ok]

/-- Decoding never aborts. -/
theorem decode_eq (literal : List Char) : decode literal = .ok (StringLiteral.decode? literal) := by
  unfold decode StringLiteral.decode?
  cases body? literal with
  | none => rfl
  | some cs =>
    simp only [decodeItems_eq, Option.bind_some]
    split <;> rfl

end TagSpec.Checked
