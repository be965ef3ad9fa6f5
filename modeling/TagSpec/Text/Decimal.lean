import TagSpec.Text.Digits

/-!
# Decimal numbers

Decimal numbers as numerals write them, the nearest number of 53 binary digits, and the shortest
numeral that is nearest to the same one. All of it is exact arithmetic on natural numbers.
-/

namespace TagSpec

/-- The number `digits · 10 ^ exponent`. -/
structure Decimal where
  digits : Nat
  exponent : Int
deriving DecidableEq, Repr

/-- The number `mantissa · 2 ^ exponent`, with at most 53 binary digits in the mantissa. -/
structure Binary where
  mantissa : Nat
  exponent : Int
deriving DecidableEq, Repr

namespace Decimal

/-- A quotient rounded to the nearest whole number, halves to the even one. -/
def roundDiv (num den : Nat) : Nat :=
  let q := num / den
  let r := num % den
  if 2 * r < den then q else if den < 2 * r then q + 1 else if q % 2 = 0 then q else q + 1

/-- A number as a quotient. -/
def fraction (d : Decimal) : Nat × Nat :=
  if 0 ≤ d.exponent then (d.digits * Nat.pow 10 d.exponent.toNat, 1)
  else (d.digits, Nat.pow 10 (-d.exponent).toNat)

/-- `num / (den · 2 ^ e)` as a quotient. -/
def scaled (num den : Nat) (e : Int) : Nat × Nat :=
  if 0 ≤ e then (num, den * Nat.pow 2 e.toNat) else (num * Nat.pow 2 (-e).toNat, den)

/-- The nearest binary number; none if it is out of range. -/
def toBinary (d : Decimal) : Option Binary :=
  let (num, den) := d.fraction
  if num = 0 then some ⟨0, 0⟩
  else
    let guess : Int := (Nat.log2 num : Int) - (Nat.log2 den : Int) - 52
    let low := max (guess - 1) (-1074)
    let (a, b) := scaled num den low
    let e := if a / b < Nat.pow 2 53 then low else if a / b < Nat.pow 2 54 then low + 1 else low + 2
    let (a, b) := scaled num den e
    let m := roundDiv a b
    let (m, e) := if m = Nat.pow 2 53 then (Nat.pow 2 52, e + 1) else (m, e)
    if 971 < e then none else some ⟨m, e⟩

/-- The shortest decimal number that is nearest to the same binary number, if one has at most
`most` digits. -/
def shortest? (b : Binary) (most : Nat) : Option Decimal :=
  let num := if 0 ≤ b.exponent then b.mantissa * Nat.pow 2 b.exponent.toNat else b.mantissa
  let den := if 0 ≤ b.exponent then 1 else Nat.pow 2 (-b.exponent).toNat
  let places : Int :=
    if den ≤ num then ((Nat.toDigits 10 (num / den)).length : Int)
    else 1 - ((Nat.toDigits 10 ((den - 1) / num)).length : Int)
  (List.range most).findSome? fun n =>
    let k : Int := places - (n + 1 : Nat)
    let (a, b') :=
      if 0 ≤ k then (num, den * Nat.pow 10 k.toNat) else (num * Nat.pow 10 (-k).toNat, den)
    let near := roundDiv a b'
    let far := if near * b' ≤ a then near + 1 else near - 1
    [near, far].findSome? fun c =>
      if toBinary ⟨c, k⟩ = some b then some ⟨c, k⟩ else none

/-- The digits of a number with the point in its place. -/
def positional (d : Decimal) : List Char :=
  let ds := Nat.toDigits 10 d.digits
  if d.digits = 0 then ['0']
  else if 0 ≤ d.exponent then ds ++ List.replicate d.exponent.toNat '0'
  else
    let places := (-d.exponent).toNat
    let padded := List.replicate (places + 1 - ds.length) '0' ++ ds
    let whole := padded.take (padded.length - places)
    let part := ((padded.drop (padded.length - places)).reverse.dropWhile (· == '0')).reverse
    if part.isEmpty then whole else whole ++ '.' :: part

/-- A number as it is shown when it has been rounded to 53 binary digits. -/
def shown (negative : Bool) (d : Decimal) : String :=
  let sign := if negative then "-" else ""
  match d.toBinary with
  | none => sign ++ "inf"
  | some b =>
    if b.mantissa = 0 then sign ++ "0"
    else sign ++ String.ofList ((shortest? b 17).getD d).positional

end Decimal

end TagSpec
