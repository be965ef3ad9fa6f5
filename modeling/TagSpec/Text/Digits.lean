/-!
# Digits

Digits of a numeral and what they count.
-/

namespace TagSpec

/-- What a digit counts, up to fifteen; sixteen for any other character. -/
def digitValue (c : Char) : Nat :=
  if '0' ≤ c && c ≤ '9' then c.toNat - 48
  else if 'a' ≤ c && c ≤ 'f' then c.toNat - 87
  else if 'A' ≤ c && c ≤ 'F' then c.toNat - 55
  else 16

/-- What a digit counts in the given base, at most sixteen. -/
def digit? (base : Nat) (c : Char) : Option Nat :=
  if digitValue c < base then some (digitValue c) else none

def isDigit (c : Char) : Bool := '0' ≤ c && c ≤ '9'

/-- The number that a text of digits writes. -/
def natural? (cs : List Char) : Option Nat :=
  if cs.isEmpty || !cs.all isDigit then none
  else some (cs.foldl (fun n c => n * 10 + digitValue c) 0)

/-- The greatest number of sixty-four bits. -/
def wordLimit : Nat := 18446744073709551615

/-- The number of at most sixty-four bits that a text writes, with a plus in front or without. -/
def unsigned? (cs : List Char) : Option Nat :=
  let digits := match cs with
    | '+' :: r => r
    | _ => cs
  (natural? digits).filter (· ≤ wordLimit)

/-- Reads exactly `count` digits after a numeral of value `acc`, and gives what follows them. -/
def readDigits (base : Nat) : Nat → Nat → List Char → Option (Nat × List Char)
  | 0, acc, cs => some (acc, cs)
  | _ + 1, _, [] => none
  | count + 1, acc, c :: cs =>
    match digit? base c with
    | none => none
    | some d => readDigits base count (acc * base + d) cs

/-- What is read and what is left make up the text. -/
theorem readDigits_length {base count acc value : Nat} {cs rest : List Char}
    (h : readDigits base count acc cs = some (value, rest)) :
    rest.length + count = cs.length := by
  induction count generalizing acc cs with
  | zero =>
    cases h
    rfl
  | succ count ih =>
    cases cs with
    | nil => cases h
    | cons c cs =>
      simp only [readDigits] at h
      split at h
      · cases h
      · have := ih h
        simp only [List.length_cons]
        omega

/-- The lower-case digit that counts `n`, in a base up to sixteen. -/
def digitChar (n : Nat) : Char := if n < 10 then Char.ofNat (48 + n) else Char.ofNat (87 + n)

/-- The last `width` hexadecimal digits of a number. -/
def hexDigits : Nat → Nat → List Char
  | 0, _ => []
  | width + 1, n => hexDigits width (n / 16) ++ [digitChar (n % 16)]

def decimal (n : Nat) : List Char := Nat.toDigits 10 n

end TagSpec
