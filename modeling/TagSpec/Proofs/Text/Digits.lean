import Mathlib.Algebra.Group.Nat.Defs
import Mathlib.Data.Nat.Digits.Defs
import TagSpec.Text.Digits

/-!
# Numerals read back

A numeral of fixed width is read back as the number that it writes: `readDigits_hexDigits`. What is
read as a numeral at all is one: `readDigits_eq_some_iff`.
-/

namespace TagSpec

/-- A digit counts what it was written for. -/
theorem digitValue_digitChar : ∀ {n : Nat}, n < 16 → digitValue (digitChar n) = n := by
  decide

theorem digit?_digitChar {n : Nat} (h : n < 16) : digit? 16 (digitChar n) = some n := by
  simp [digit?, digitValue_digitChar h, h]

/-- Digits may be read in two goes. -/
theorem readDigits_add (base m k acc : Nat) (cs : List Char) :
    readDigits base (m + k) acc cs =
      (readDigits base m acc cs).bind fun (value, rest) => readDigits base k value rest := by
  induction m generalizing acc cs with
  | zero => simp [readDigits]
  | succ m ih =>
    rw [Nat.succ_add]
    cases cs with
    | nil => rfl
    | cons c cs =>
      simp only [readDigits]
      cases digit? base c with
      | none => rfl
      | some d => exact ih _ _

/-- The digits of a numeral are read as the number that they write, behind any other numeral and in
front of any text. -/
theorem readDigits_hexDigits (width acc n : Nat) (rest : List Char) :
    readDigits 16 width acc (hexDigits width n ++ rest) =
      some (acc * 16 ^ width + n % 16 ^ width, rest) := by
  induction width generalizing n rest with
  | zero => simp [readDigits, hexDigits, Nat.mod_one]
  | succ width ih =>
    have hlast : readDigits 16 1 (acc * 16 ^ width + n / 16 % 16 ^ width)
        (digitChar (n % 16) :: rest) =
        some ((acc * 16 ^ width + n / 16 % 16 ^ width) * 16 + n % 16, rest) := by
      simp [readDigits, digit?_digitChar (Nat.mod_lt n (by omega))]
    have hvalue : (acc * 16 ^ width + n / 16 % 16 ^ width) * 16 + n % 16 =
        acc * 16 ^ (width + 1) + n % 16 ^ (width + 1) := by
      rw [Nat.pow_succ', Nat.mod_mul, Nat.add_mul, Nat.mul_assoc, Nat.mul_comm (16 ^ width) 16]
      omega
    rw [hexDigits, List.append_assoc, readDigits_add, ih]
    exact hlast.trans (by rw [hvalue])

/-! ## Numerals -/

/-- The digits in the order of what they count, with letters in lower case and in upper case. -/
def digitRows : List (List Char) := ["0123456789abcdef".toList, "0123456789ABCDEF".toList]

/-- A character is the digit that counts `n` in a base up to sixteen. -/
def IsDigit (base : Nat) (c : Char) (n : Nat) : Prop :=
  n < base ∧ ∃ row ∈ digitRows, row[n]? = some c

/-- A text of so many digits, of which the first counts most, writes a number. -/
def Numeral (base count : Nat) (ds : List Char) (value : Nat) : Prop :=
  ds.length = count ∧
    ∃ ns, List.Forall₂ (IsDigit base) ds ns ∧ value = Nat.ofDigits base ns.reverse

private theorem mem_row_of_digitValue : ∀ m < 0x80, digitValue (Char.ofNat m) < 16 →
    ∃ row ∈ digitRows, row[digitValue (Char.ofNat m)]? = some (Char.ofNat m) := by
  decide

private theorem digitValue_of_row : ∀ row ∈ digitRows, ∀ n < 16,
    (row[n]?).all (fun c => digitValue c = n) = true := by
  decide

theorem lt_of_digitValue {c : Char} (h : digitValue c < 16) : c.toNat < 0x80 := by
  have hle : ∀ d : Char, c ≤ d → c.toNat ≤ d.toNat := fun d h => h
  unfold digitValue at h
  split at h
  · next hc =>
    simp only [Bool.and_eq_true, decide_eq_true_eq] at hc
    exact Nat.lt_of_le_of_lt (hle _ hc.2) (by decide)
  split at h
  · next hc =>
    simp only [Bool.and_eq_true, decide_eq_true_eq] at hc
    exact Nat.lt_of_le_of_lt (hle _ hc.2) (by decide)
  split at h
  · next hc =>
    simp only [Bool.and_eq_true, decide_eq_true_eq] at hc
    exact Nat.lt_of_le_of_lt (hle _ hc.2) (by decide)
  · exact absurd h (Nat.lt_irrefl _)

theorem isSome_digit?_iff {base : Nat} {c : Char} :
    (digit? base c).isSome = true ↔ digitValue c < base := by
  unfold digit?
  split <;> simp_all

theorem lt_of_digit? {base n : Nat} {c : Char} (h : digit? base c = some n) : n < base := by
  unfold digit? at h
  split at h
  · next hlt =>
    cases h
    exact hlt
  · cases h

/-- What a digit counts is its place in the row of digits. -/
theorem digit?_eq_some_iff {base n : Nat} (hbase : base ≤ 16) {c : Char} :
    digit? base c = some n ↔ IsDigit base c n := by
  unfold digit? IsDigit
  constructor
  · intro h
    split at h
    · next hlt =>
      cases h
      have hrow := mem_row_of_digitValue c.toNat (lt_of_digitValue (by omega))
      rw [Char.ofNat_toNat] at hrow
      exact ⟨hlt, hrow (by omega)⟩
    · cases h
  · rintro ⟨hlt, row, hrow, hc⟩
    have hvalue := digitValue_of_row row hrow n (by omega)
    rw [hc, Option.all_some, decide_eq_true_eq] at hvalue
    rw [hvalue, if_pos hlt]

/-- Digits are read exactly where so many of them stand; the number that was read before counts more
than all of them. -/
theorem readDigits_eq_some_iff {base : Nat} (hbase : base ≤ 16) {count acc value : Nat}
    {cs rest : List Char} : readDigits base count acc cs = some (value, rest) ↔
      ∃ ds ns, cs = ds ++ rest ∧ ds.length = count ∧ List.Forall₂ (IsDigit base) ds ns ∧
        value = Nat.ofDigits base (ns.reverse ++ [acc]) := by
  induction count generalizing acc cs with
  | zero =>
    constructor
    · intro h
      cases h
      exact ⟨[], [], rfl, rfl, .nil, (Nat.ofDigits_singleton).symm⟩
    · rintro ⟨ds, ns, rfl, hlen, hds, rfl⟩
      cases List.length_eq_zero_iff.1 hlen
      cases hds
      simp [readDigits]
  | succ count ih =>
    have hvalue : ∀ (ns : List Nat) (n : Nat), Nat.ofDigits base ((n :: ns).reverse ++ [acc]) =
        Nat.ofDigits base (ns.reverse ++ [acc * base + n]) := by
      intro ns n
      rw [List.reverse_cons, List.append_assoc, List.singleton_append, Nat.ofDigits_append,
        Nat.ofDigits_append, Nat.ofDigits_cons, Nat.ofDigits_singleton, Nat.ofDigits_singleton,
        Nat.mul_comm base acc, Nat.add_comm n]
    cases cs with
    | nil =>
      constructor
      · intro h
        cases h
      · rintro ⟨ds, ns, hcs, hlen, -, -⟩
        rw [(List.nil_eq_append_iff.1 hcs).1] at hlen
        cases hlen
    | cons c cs =>
      rw [readDigits]
      constructor
      · intro h
        split at h
        · cases h
        next n hn =>
        obtain ⟨ds, ns, rfl, rfl, hds, rfl⟩ := ih.1 h
        exact ⟨c :: ds, n :: ns, rfl, rfl, .cons ((digit?_eq_some_iff hbase).1 hn) hds,
          (hvalue ns n).symm⟩
      · rintro ⟨ds, ns, hcs, hlen, hds, rfl⟩
        cases hds with
        | nil => cases hlen
        | @cons d n ds ns hd hds =>
          rw [List.cons_append, List.cons.injEq] at hcs
          obtain ⟨rfl, rfl⟩ := hcs
          rw [(digit?_eq_some_iff hbase).2 hd]
          exact ih.2 ⟨ds, ns, rfl, Nat.succ.inj hlen, hds, hvalue ns n⟩

/-- A numeral is read exactly where one stands. -/
theorem readDigits_iff_numeral {base : Nat} (hbase : base ≤ 16) {count value : Nat}
    {cs rest : List Char} : readDigits base count 0 cs = some (value, rest) ↔
      ∃ ds, cs = ds ++ rest ∧ Numeral base count ds value := by
  have hzero : ∀ ns : List Nat, Nat.ofDigits base (ns.reverse ++ [0]) =
      Nat.ofDigits base ns.reverse := fun ns => Nat.ofDigits_append_zero _
  rw [readDigits_eq_some_iff hbase]
  constructor
  · rintro ⟨ds, ns, rfl, hlen, hds, rfl⟩
    exact ⟨ds, rfl, hlen, ns, hds, hzero ns⟩
  · rintro ⟨ds, rfl, hlen, ns, hds, rfl⟩
    exact ⟨ds, ns, rfl, hlen, hds, (hzero ns).symm⟩

/-- A numeral of so many digits is below the power of its base. -/
theorem numeral_lt {base count value : Nat} {ds : List Char} (hbase : 1 < base)
    (h : Numeral base count ds value) : value < base ^ count := by
  obtain ⟨rfl, ns, hds, rfl⟩ := h
  have hns : ns.length = ds.length ∧ ∀ n ∈ ns, n < base := by
    induction hds with
    | nil => simp
    | cons hd _ ih => exact ⟨congrArg (· + 1) ih.1, List.forall_mem_cons.2 ⟨hd.1, ih.2⟩⟩
  rw [← hns.1, ← List.length_reverse]
  exact Nat.ofDigits_lt_base_pow_length hbase fun n hn => hns.2 n (List.mem_reverse.1 hn)

/-! ## Characters of numerals -/

/-- A text with a character that is neither a digit nor a plus is no number. -/
theorem unsigned?_eq_none {cs : List Char} {c : Char} (hc : c ∈ cs) (hdigit : isDigit c = false)
    (hplus : c ≠ '+') : unsigned? cs = none := by
  have hnone : ∀ ds : List Char, c ∈ ds → (natural? ds).filter (· ≤ wordLimit) = none := by
    intro ds hds
    have hall : ds.all isDigit = false := List.all_eq_false.2 ⟨c, hds, by simp [hdigit]⟩
    simp [natural?, hall]
  unfold unsigned?
  split
  · next r => exact hnone r ((List.mem_cons.1 hc).resolve_left hplus)
  · exact hnone cs hc

/-- No digit is a quote or a backslash. -/
theorem IsDigit.ne_quote {base n : Nat} {d : Char} (h : IsDigit base d n) : d ≠ '"' ∧ d ≠ '\\' := by
  have hall : (digitRows.all fun row => row.all fun d => d ≠ '"' ∧ d ≠ '\\') = true := by decide
  obtain ⟨-, row, hrow, hd⟩ := h
  exact of_decide_eq_true
    (List.all_eq_true.1 (List.all_eq_true.1 hall row hrow) d (List.mem_of_getElem? hd))

theorem Numeral.ne_quote {base count value : Nat} {ds : List Char}
    (h : Numeral base count ds value) : ∀ d ∈ ds, d ≠ '"' ∧ d ≠ '\\' := by
  obtain ⟨-, ns, hds, -⟩ := h
  induction hds with
  | nil => simp
  | cons hd _ ih => exact List.forall_mem_cons.2 ⟨hd.ne_quote, ih⟩

@[simp] theorem length_hexDigits (width n : Nat) : (hexDigits width n).length = width := by
  induction width generalizing n with
  | zero => rfl
  | succ width ih => simp [hexDigits, ih]

/-- A property of the sixteen digits is one of all characters of a numeral. -/
theorem forall_hexDigits {p : Char → Prop} (h : ∀ n < 16, p (digitChar n)) (width n : Nat) :
    ∀ c ∈ hexDigits width n, p c := by
  induction width generalizing n with
  | zero => simp [hexDigits]
  | succ width ih =>
    intro c hc
    rcases List.mem_append.1 hc with hc | hc
    · exact ih _ c hc
    · rw [List.mem_singleton.1 hc]
      exact h _ (Nat.mod_lt n (by omega))

end TagSpec
